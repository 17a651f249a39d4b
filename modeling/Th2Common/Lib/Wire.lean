import Mathlib.Data.List.Basic
import Th2Common.Lib.Text

/-! The proto3 wire format: a message is a sequence of numbered fields, a
number is written in groups of seven bits. Reading undoes writing; it is not meant for the
bytes of others, so it knows no groups and no limit on the length of a tag. -/

namespace Wire

def groups : Nat → Nat → Bytes
  | 0, _ => []
  | g + 1, n =>
    if n < 128 then [UInt8.ofNat n] else UInt8.ofNat (n % 128 + 128) :: groups g (n / 128)

def readGroups : Nat → Bytes → Option (Nat × Bytes)
  | 0, _ => none
  | _ + 1, [] => none
  | g + 1, b :: bs =>
    if b.toNat < 128 then some (b.toNat, bs)
    else (readGroups g bs).map fun r => (b.toNat - 128 + 128 * r.1, r.2)

def writeVarint (n : Nat) : Bytes := groups 10 n

def readVarint (bs : Bytes) : Option (Nat × Bytes) :=
  (readGroups 10 bs).map fun r => (r.1 % 2 ^ 64, r.2)

theorem toNat_ofNat {n : Nat} (h : n < 256) : (UInt8.ofNat n).toNat = n := by
  rw [UInt8.toNat_ofNat']
  omega

theorem readGroups_groups (g n : Nat) (h : n < 128 ^ (g + 1)) (rest : Bytes) :
    readGroups (g + 1) (groups (g + 1) n ++ rest) = some (n, rest) := by
  induction g generalizing n with
  | zero =>
    have hn : n < 128 := by simpa using h
    simp only [groups, if_pos hn, List.cons_append, List.nil_append, readGroups,
      toNat_ofNat (show n < 256 by omega)]
  | succ g ih =>
    rw [groups]
    split
    · next hn =>
      simp only [List.cons_append, List.nil_append, readGroups,
        toNat_ofNat (show n < 256 by omega), if_pos hn]
    · next hn =>
      -- a group of seven bits less is left for the other bytes
      have hdiv : n / 128 < 128 ^ (g + 1) := by
        rw [Nat.div_lt_iff_lt_mul (by omega), ← Nat.pow_succ]
        exact h
      have hb := toNat_ofNat (show n % 128 + 128 < 256 by omega)
      rw [List.cons_append, readGroups, hb, ih (n / 128) hdiv, if_neg (by omega)]
      simp only [Option.map_some, Option.some.injEq, Prod.mk.injEq, and_true]
      omega

theorem readVarint_writeVarint {n : Nat} (h : n < 2 ^ 64) (rest : Bytes) :
    readVarint (writeVarint n ++ rest) = some (n, rest) := by
  rw [readVarint, writeVarint, readGroups_groups 9 n (Nat.lt_trans h (by decide)) rest,
    Option.map_some, Nat.mod_eq_of_lt h]

theorem writeVarint_ne_nil (n : Nat) : writeVarint n ≠ [] := by
  rw [writeVarint, groups]
  split <;> simp

theorem writeVarint_head_ne_zero {n : Nat} (h : n ≠ 0) : (writeVarint n).head? ≠ some 0 := by
  have hne (m : Nat) (hm : m < 256) (h0 : m ≠ 0) : UInt8.ofNat m ≠ 0 := by
    intro he
    have := congrArg UInt8.toNat he
    rw [toNat_ofNat hm] at this
    exact h0 this
  rw [writeVarint, groups]
  split
  · simpa using hne n (by omega) h
  · simpa using hne (n % 128 + 128) (by omega) (by omega)

inductive Payload
  | varint (n : Nat)
  | fixed64 (bs : Bytes)
  | len (bs : Bytes)
  | fixed32 (bs : Bytes)
  deriving DecidableEq, Repr

structure Field where
  number : Nat
  payload : Payload
  deriving DecidableEq, Repr

def Payload.wireType : Payload → Nat
  | .varint _ => 0
  | .fixed64 _ => 1
  | .len _ => 2
  | .fixed32 _ => 5

def Payload.write : Payload → Bytes
  | .varint n => writeVarint n
  | .fixed64 bs => bs
  | .len bs => writeVarint bs.length ++ bs
  | .fixed32 bs => bs

def Field.write (f : Field) : Bytes :=
  writeVarint (f.number * 8 + f.payload.wireType) ++ f.payload.write

def writeFields (fs : List Field) : Bytes := fs.flatMap Field.write

def takeBytes (n : Nat) (bs : Bytes) : Option (Bytes × Bytes) :=
  if n ≤ bs.length then some (bs.take n, bs.drop n) else none

def readPayload (wireType : Nat) (bs : Bytes) : Option (Payload × Bytes) :=
  match wireType with
  | 0 => (readVarint bs).map fun r => (.varint r.1, r.2)
  | 1 => (takeBytes 8 bs).map fun r => (.fixed64 r.1, r.2)
  | 2 => (readVarint bs).bind fun r => (takeBytes r.1 r.2).map fun r => (.len r.1, r.2)
  | 5 => (takeBytes 4 bs).map fun r => (.fixed32 r.1, r.2)
  | _ => none

def readField (bs : Bytes) : Option (Field × Bytes) :=
  (readVarint bs).bind fun r =>
    if 0 < r.1 / 8 ∧ r.1 / 8 < 2 ^ 29 then
      (readPayload (r.1 % 8) r.2).map fun p => (⟨r.1 / 8, p.1⟩, p.2)
    else none

def readFields : Nat → Bytes → Option (List Field)
  | _, [] => some []
  | 0, _ :: _ => none
  | fuel + 1, b :: bs =>
    (readField (b :: bs)).bind fun r => (readFields fuel r.2).map (r.1 :: ·)

def parse (bs : Bytes) : Option (List Field) := readFields bs.length bs

def Field.Fits (f : Field) : Prop :=
  0 < f.number ∧ f.number < 2 ^ 29 ∧ match f.payload with
    | .varint n => n < 2 ^ 64
    | .fixed64 bs => bs.length = 8
    | .len bs => bs.length < 2 ^ 64
    | .fixed32 bs => bs.length = 4

def Field.Regular (f : Field) : Prop :=
  0 < f.number ∧ f.number < 2 ^ 29 ∧ match f.payload with
    | .varint n => n < 2 ^ 64
    | .fixed64 bs => bs.length = 8
    | .len _ => True
    | .fixed32 bs => bs.length = 4

theorem regular_len {number : Nat} (h : 0 < number ∧ number < 2 ^ 29) (bs : Bytes) :
    (⟨number, .len bs⟩ : Field).Regular := ⟨h.1, h.2, trivial⟩

theorem regular_varint {number n : Nat} (h : 0 < number ∧ number < 2 ^ 29) (hn : n < 2 ^ 64) :
    (⟨number, .varint n⟩ : Field).Regular := ⟨h.1, h.2, hn⟩

theorem takeBytes_append (bs rest : Bytes) : takeBytes bs.length (bs ++ rest) = some (bs, rest) := by
  simp [takeBytes]

theorem Field.write_ne_nil (f : Field) : f.write ≠ [] := by
  simp [Field.write, writeVarint_ne_nil]

theorem readField_write {f : Field} (h : f.Fits) (rest : Bytes) :
    readField (f.write ++ rest) = some (f, rest) := by
  obtain ⟨number, payload⟩ := f
  obtain ⟨hpos, hnum, hpay⟩ := h
  -- the number and the wire type share one varint
  have hwire : payload.wireType < 8 := by cases payload <;> simp [Payload.wireType]
  have htag : number * 8 + payload.wireType < 2 ^ 64 := by
    simp only at hnum
    omega
  have hdiv : (number * 8 + payload.wireType) / 8 = number := by omega
  have hmod : (number * 8 + payload.wireType) % 8 = payload.wireType := by omega
  rw [Field.write, List.append_assoc, readField, readVarint_writeVarint htag]
  simp only [Option.bind_some, hdiv, hmod, if_pos (show 0 < number ∧ number < 2 ^ 29 from ⟨hpos, hnum⟩)]
  cases payload with
  | varint n => simp only [Payload.wireType, Payload.write, readPayload, readVarint_writeVarint hpay,
      Option.map_some]
  | fixed64 bs =>
    have hb := takeBytes_append bs rest
    rw [show bs.length = 8 from hpay] at hb
    simp only [Payload.wireType, Payload.write, readPayload, hb, Option.map_some]
  | len bs => simp only [Payload.wireType, Payload.write, readPayload, List.append_assoc,
      readVarint_writeVarint (show bs.length < 2 ^ 64 from hpay), Option.bind_some,
      takeBytes_append, Option.map_some]
  | fixed32 bs =>
    have hb := takeBytes_append bs rest
    rw [show bs.length = 4 from hpay] at hb
    simp only [Payload.wireType, Payload.write, readPayload, hb, Option.map_some]

theorem readFields_writeFields {fs : List Field} (h : ∀ f ∈ fs, f.Fits) {fuel : Nat}
    (hfuel : fs.length ≤ fuel) : readFields fuel (writeFields fs) = some fs := by
  induction fs generalizing fuel with
  | nil => cases fuel <;> rfl
  | cons f fs ih =>
    obtain ⟨fuel, rfl⟩ : ∃ n, fuel = n + 1 := ⟨fuel - 1, by simp at hfuel; omega⟩
    have hf : f.Fits := h f (by simp)
    have hfs : ∀ g ∈ fs, g.Fits := fun g hg => h g (by simp [hg])
    have hlen : fs.length ≤ fuel := by simpa using hfuel
    have hread := readField_write hf (writeFields fs)
    have hw : writeFields (f :: fs) = f.write ++ writeFields fs := List.flatMap_cons
    obtain ⟨b, bs, hb⟩ := List.exists_cons_of_ne_nil (l := f.write ++ writeFields fs)
      (by simp [Field.write_ne_nil])
    rw [hw, hb, readFields, ← hb, hread, Option.bind_some, ih hfs hlen]
    rfl

theorem length_le_writeFields (fs : List Field) : fs.length ≤ (writeFields fs).length := by
  induction fs with
  | nil => exact Nat.le_refl _
  | cons f fs ih =>
    have hpos := List.length_pos_iff.mpr f.write_ne_nil
    simp only [writeFields, List.flatMap_cons, List.length_append, List.length_cons] at ih ⊢
    omega

theorem parse_writeFields {fs : List Field} (h : ∀ f ∈ fs, f.Fits) :
    parse (writeFields fs) = some fs :=
  readFields_writeFields h (length_le_writeFields fs)

theorem parse_zeros (n : Nat) : parse (List.replicate (n + 1) 0) = none := by
  have hread : readField (List.replicate (n + 1) 0) = none := by
    simp [List.replicate_succ, readField, readVarint, readGroups]
  rw [parse, List.length_replicate, List.replicate_succ, readFields, ← List.replicate_succ, hread,
    Option.bind_none]

theorem length_le_of_mem {fs : List Field} (number : Nat) {bs : Bytes}
    (h : (⟨number, .len bs⟩ : Field) ∈ fs) : bs.length ≤ (writeFields fs).length := by
  obtain ⟨before, after, rfl⟩ := List.append_of_mem h
  simp only [writeFields, List.flatMap_append, List.flatMap_cons, List.length_append, Field.write,
    Payload.write]
  omega

theorem length_lt_of_mem {fs : List Field} (number : Nat) {bs : Bytes}
    (h : (⟨number, .len bs⟩ : Field) ∈ fs) : bs.length < (writeFields fs).length := by
  obtain ⟨before, after, rfl⟩ := List.append_of_mem h
  have hpos := List.length_pos_iff.mpr (writeVarint_ne_nil (number * 8 + 2))
  simp only [writeFields, List.flatMap_append, List.flatMap_cons, List.length_append, Field.write,
    Payload.write, Payload.wireType]
  omega

theorem fits_of_regular {fs : List Field} (h : ∀ f ∈ fs, f.Regular)
    (hlen : (writeFields fs).length < 2 ^ 64) : ∀ f ∈ fs, f.Fits := by
  rintro ⟨number, payload⟩ hf
  obtain ⟨hpos, hnum, hpay⟩ := h _ hf
  refine ⟨hpos, hnum, ?_⟩
  cases payload with
  | len bs => exact Nat.lt_of_le_of_lt (length_le_of_mem _ hf) hlen
  | _ => exact hpay

theorem writeFields_head_ne_zero {fs : List Field} (h : ∀ f ∈ fs, 0 < f.number) :
    (writeFields fs).head? ≠ some 0 := by
  cases fs with
  | nil => simp [writeFields]
  | cons f fs =>
    have htag : f.number * 8 + f.payload.wireType ≠ 0 := by
      have := h f (by simp)
      omega
    rw [writeFields, List.flatMap_cons, Field.write, List.append_assoc,
      List.head?_append_of_ne_nil _ (writeVarint_ne_nil _)]
    exact writeVarint_head_ne_zero htag

/-- `int32` and enumerations are sign-extended to 64 bits. -/
def int32Payload (x : Int32) : Payload := .varint x.toInt64.toUInt64.toNat

def int64Payload (x : Int64) : Payload := .varint x.toUInt64.toNat

def toInt32 (n : Nat) : Int32 := (UInt64.ofNat n).toInt64.toInt32

def toInt64 (n : Nat) : Int64 := (UInt64.ofNat n).toInt64

theorem toInt32_int32 (x : Int32) : toInt32 x.toInt64.toUInt64.toNat = x := by
  simp [toInt32]

theorem toInt64_int64 (x : Int64) : toInt64 x.toUInt64.toNat = x := by
  simp [toInt64]

def writePacked (ns : List UInt32) : Bytes := ns.flatMap fun n => writeVarint n.toNat

def readPacked : Nat → Bytes → Option (List UInt32)
  | _, [] => some []
  | 0, _ :: _ => none
  | fuel + 1, b :: bs =>
    (readVarint (b :: bs)).bind fun r => (readPacked fuel r.2).map (UInt32.ofNat r.1 :: ·)

theorem readPacked_writePacked (ns : List UInt32) {fuel : Nat} (hfuel : ns.length ≤ fuel) :
    readPacked fuel (writePacked ns) = some ns := by
  induction ns generalizing fuel with
  | nil => cases fuel <;> rfl
  | cons n ns ih =>
    obtain ⟨fuel, rfl⟩ : ∃ m, fuel = m + 1 := ⟨fuel - 1, by simp at hfuel; omega⟩
    have hn : n.toNat < 2 ^ 64 := Nat.lt_trans n.toNat_lt (by decide)
    have hlen : ns.length ≤ fuel := by simpa using hfuel
    have hread := readVarint_writeVarint hn (writePacked ns)
    have hw : writePacked (n :: ns) = writeVarint n.toNat ++ writePacked ns := List.flatMap_cons
    obtain ⟨b, bs, hb⟩ := List.exists_cons_of_ne_nil (l := writeVarint n.toNat ++ writePacked ns)
      (by simp [writeVarint_ne_nil])
    rw [hw, hb, readPacked, ← hb, hread, Option.bind_some, ih hlen, Option.map_some,
      UInt32.ofNat_toNat]

theorem length_le_writePacked (ns : List UInt32) : ns.length ≤ (writePacked ns).length := by
  induction ns with
  | nil => exact Nat.le_refl _
  | cons n ns ih =>
    have hpos := List.length_pos_iff.mpr (writeVarint_ne_nil n.toNat)
    simp only [writePacked, List.flatMap_cons, List.length_append, List.length_cons] at ih ⊢
    omega

end Wire
