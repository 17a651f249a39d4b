import Th2Common.Lib.ProtoMessage

/-! Serialisers in two passes. The first adds up sizes, the second writes the fields and, in
front of each that is part of another, the size found for it. What both call is known by its
laws only; as long as 31 bits hold the sizes, they write the wire format. -/

namespace TwoPass
open Wire ProtoMessage

/-- The size is the length, as long as 31 bits hold it. -/
structure Exact (size length : Nat) : Prop where
  eq : length < 2 ^ 31 → size = length
  large : 2 ^ 31 ≤ length → 2 ^ 31 ≤ size

namespace Exact
variable {s s' n n' : Nat}

theorem of_eq (h : s = n) : Exact s n := ⟨fun _ => h, fun hn => h ▸ hn⟩

theorem add (h : Exact s n) (h' : Exact s' n') : Exact (s + s') (n + n') where
  eq hlt := by rw [h.eq (by omega), h'.eq (by omega)]
  large hle := by
    by_cases hn : n < 2 ^ 31
    · by_cases hn' : n' < 2 ^ 31
      · rw [h.eq hn, h'.eq hn']
        exact hle
      · have hlarge := h'.large (Nat.le_of_not_lt hn')
        omega
    · have hlarge := h.large (Nat.le_of_not_lt hn)
      omega

theorem comp (size : Nat → Nat) (h : Exact s n) (hsize : Exact (size n) n')
    (hle : ∀ m, m ≤ size m) (hn : n ≤ n') : Exact (size s) n' := by
  by_cases hlt : n < 2 ^ 31
  · rw [h.eq hlt]
    exact hsize
  · have hlarge := h.large (Nat.le_of_not_lt hlt)
    have hgrown := hle s
    exact ⟨fun hlt' => by omega, fun _ => by omega⟩

end Exact

def entryFields (key value : Bytes) : List Field := [⟨1, .len key⟩, ⟨2, .len value⟩]

def entryPayload (key value : Bytes) : Payload := .len (writeFields (entryFields key value))

def timestampFields (seconds : Int64) (nanos : Int32) : List Field :=
  scalar 1 (int64Payload seconds) (seconds == 0) ++ scalar 2 (int32Payload nanos) (nanos == 0)

/-- What generated code calls. A size is that of a payload, without the tag in front; the
cached size of a message is the one that its own first pass has left in it. -/
structure Runtime where
  int32Size : Int32 → Nat
  int64Size : Int64 → Nat
  uint32Size : List UInt32 → Nat
  lengthDelimitedSize : Nat → Nat
  stringEntrySize : Bytes → Bytes → Nat
  messageEntrySize : Bytes → Nat → Nat
  timestampSize : Int64 → Int32 → Nat
  toCachedSize : Nat → Int32
  writeInt32ToArray : Nat → Int32 → Bytes
  writeInt64ToArray : Nat → Int64 → Bytes
  writeUInt32Packed : Nat → List UInt32 → Int32 → Bytes
  writeString : Nat → Bytes → Bytes
  writeMessage : Nat → Int32 → Bytes → Bytes
  writeStringEntry : Nat → Bytes → Bytes → Bytes
  writeMessageEntry : Nat → Bytes → Int32 → Bytes → Bytes
  serializeTimestamp : Int64 → Int32 → Bytes
  serializePartialToArray : Nat → Bytes → Bytes → Int → Bytes × Bool
  int32Size_eq : ∀ x, int32Size x = (int32Payload x).write.length
  int64Size_eq : ∀ x, int64Size x = (int64Payload x).write.length
  uint32Size_eq : ∀ ns, uint32Size ns = (writePacked ns).length
  lengthDelimitedSize_exact : ∀ bs,
    Exact (lengthDelimitedSize bs.length) (Payload.len bs).write.length
  le_lengthDelimitedSize : ∀ n, n ≤ lengthDelimitedSize n
  stringEntrySize_exact : ∀ key value,
    Exact (stringEntrySize key value) (entryPayload key value).write.length
  messageEntrySize_exact : ∀ key value,
    Exact (messageEntrySize key value.length) (entryPayload key value).write.length
  le_messageEntrySize : ∀ key n, n ≤ messageEntrySize key n
  timestampSize_eq : ∀ seconds nanos,
    timestampSize seconds nanos = (writeFields (timestampFields seconds nanos)).length
  toCachedSize_eq : ∀ n : Nat, n < 2 ^ 31 → (toCachedSize n).toInt = n
  writeInt32ToArray_eq : ∀ number x,
    writeInt32ToArray number x = Field.write ⟨number, int32Payload x⟩
  writeInt64ToArray_eq : ∀ number x,
    writeInt64ToArray number x = Field.write ⟨number, int64Payload x⟩
  writeUInt32Packed_eq : ∀ number ns (size : Int32), size.toInt = (writePacked ns).length →
    writeUInt32Packed number ns size = Field.write ⟨number, .len (writePacked ns)⟩
  writeString_eq : ∀ number (s : Bytes), s.length < 2 ^ 31 →
    writeString number s = Field.write ⟨number, .len s⟩
  writeMessage_eq : ∀ number (cachedSize : Int32) body, cachedSize.toInt = body.length →
    writeMessage number cachedSize body = Field.write ⟨number, .len body⟩
  writeStringEntry_eq : ∀ number key value, (entryPayload key value).write.length < 2 ^ 31 →
    writeStringEntry number key value = Field.write ⟨number, entryPayload key value⟩
  writeMessageEntry_eq : ∀ number key (cachedSize : Int32) body, cachedSize.toInt = body.length →
    (entryPayload key body).write.length < 2 ^ 31 →
    writeMessageEntry number key cachedSize body = Field.write ⟨number, entryPayload key body⟩
  serializeTimestamp_eq : ∀ seconds nanos,
    serializeTimestamp seconds nanos = writeFields (timestampFields seconds nanos)
  serializePartialToArray_writes : ∀ bytes data size, bytes.length < 2 ^ 31 →
    (bytes.length : Int) ≤ size →
    serializePartialToArray bytes.length bytes data size = (bytes ++ data.drop bytes.length, true)
  serializePartialToArray_refuses : ∀ byteSize bytes data size, 2 ^ 31 ≤ byteSize →
    serializePartialToArray byteSize bytes data size = (data, false)

theorem length_entryPayload (key : Bytes) {value value' : Bytes}
    (h : value.length = value'.length) :
    (entryPayload key value).write.length = (entryPayload key value').write.length := by
  simp only [entryPayload, entryFields, writeFields, Field.write, Payload.write, List.flatMap_cons,
    List.flatMap_nil, List.length_append, Payload.wireType, h]

theorem length_le_entryPayload (key value : Bytes) :
    key.length ≤ (entryPayload key value).write.length ∧
      value.length ≤ (entryPayload key value).write.length := by
  have hkey : key.length ≤ (writeFields (entryFields key value)).length :=
    length_le_of_mem 1 (List.mem_cons_self ..)
  have hvalue : value.length ≤ (writeFields (entryFields key value)).length :=
    length_le_of_mem 2 (List.mem_cons_of_mem _ (List.mem_cons_self ..))
  rw [entryPayload, Payload.write, List.length_append]
  omega

def Runtime.reference : Runtime where
  int32Size x := (int32Payload x).write.length
  int64Size x := (int64Payload x).write.length
  uint32Size ns := (writePacked ns).length
  lengthDelimitedSize n := (writeVarint n).length + n
  stringEntrySize key value := (entryPayload key value).write.length
  messageEntrySize key n := (entryPayload key (List.replicate n 0)).write.length
  timestampSize seconds nanos := (writeFields (timestampFields seconds nanos)).length
  toCachedSize := Int32.ofNat
  writeInt32ToArray number x := Field.write ⟨number, int32Payload x⟩
  writeInt64ToArray number x := Field.write ⟨number, int64Payload x⟩
  writeUInt32Packed number ns _ := Field.write ⟨number, .len (writePacked ns)⟩
  writeString number s := Field.write ⟨number, .len s⟩
  writeMessage number _ body := Field.write ⟨number, .len body⟩
  writeStringEntry number key value := Field.write ⟨number, entryPayload key value⟩
  writeMessageEntry number key _ body := Field.write ⟨number, entryPayload key body⟩
  serializeTimestamp seconds nanos := writeFields (timestampFields seconds nanos)
  serializePartialToArray byteSize bytes data size :=
    if 2 ^ 31 ≤ byteSize ∨ size < byteSize then (data, false)
    else (bytes ++ data.drop byteSize, true)
  int32Size_eq _ := rfl
  int64Size_eq _ := rfl
  uint32Size_eq _ := rfl
  lengthDelimitedSize_exact bs := .of_eq List.length_append.symm
  le_lengthDelimitedSize n := Nat.le_add_left ..
  stringEntrySize_exact _ _ := .of_eq rfl
  messageEntrySize_exact key value := .of_eq (length_entryPayload key List.length_replicate)
  le_messageEntrySize key n := by
    have h := (length_le_entryPayload key (List.replicate n 0)).2
    rwa [List.length_replicate] at h
  timestampSize_eq _ _ := rfl
  toCachedSize_eq _ h := Int32.toInt_ofNat_of_lt h
  writeInt32ToArray_eq _ _ := rfl
  writeInt64ToArray_eq _ _ := rfl
  writeUInt32Packed_eq _ _ _ _ := rfl
  writeString_eq _ _ _ := rfl
  writeMessage_eq _ _ _ _ := rfl
  writeStringEntry_eq _ _ _ _ := rfl
  writeMessageEntry_eq _ _ _ _ _ _ := rfl
  serializeTimestamp_eq _ _ := rfl
  serializePartialToArray_writes _ _ _ h hsize :=
    if_neg (not_or.mpr ⟨Nat.not_le.mpr h, Int.not_lt.mpr hsize⟩)
  serializePartialToArray_refuses _ _ _ _ h := if_pos (.inl h)

theorem int32Payload_ofNat {n : Nat} (h : n < 2 ^ 31) :
    int32Payload (Int32.ofNat n) = .varint n := by
  have hn : (Int32.ofNat n).toInt64.toInt = n := by
    rw [Int32.toInt_toInt64]
    exact Int32.toInt_ofNat_of_lt h
  have hnat : (Int32.ofNat n).toInt64.toUInt64.toNat =
      (Int32.ofNat n).toInt64.toBitVec.toNat := rfl
  have hint : (Int32.ofNat n).toInt64.toInt = (Int32.ofNat n).toInt64.toBitVec.toInt := rfl
  rw [hint, BitVec.toInt_eq_toNat_cond] at hn
  rw [int32Payload, hnat]
  congr 1
  split at hn <;> omega

theorem Exact.toCachedSize (r : Runtime) {s n : Nat} (h : Exact s n) (hlt : n < 2 ^ 31) :
    (r.toCachedSize s).toInt = n := by
  have hs := h.eq hlt
  rw [hs]
  exact r.toCachedSize_eq n hlt

/-- For these fields the two passes have this size and these bytes. -/
structure Writes (size : Nat) (bytes : Bytes) (fs : List Field) : Prop where
  exact : Exact size (writeFields fs).length
  bytes_eq : (writeFields fs).length < 2 ^ 31 → bytes = writeFields fs

class Generated (α : Type) where
  byteSizeLong : Runtime → α → Nat
  internalSerialize : Runtime → α → Bytes

export Generated (byteSizeLong internalSerialize)

class LawfulGenerated (α : Type) [ProtoMessage α] [Generated α] : Prop where
  writes : ∀ (r : Runtime) (a : α), Writes (byteSizeLong r a) (internalSerialize r a) (fields a)

export LawfulGenerated (writes)

section
variable (r : Runtime)

def stringFieldSize (s : Bytes) : Nat :=
  if 0 < s.length then 1 + r.lengthDelimitedSize s.length else 0

def stringField (number : Nat) (s : Bytes) : Bytes :=
  if 0 < s.length then r.writeString number s else []

/-- Enumerations are written the same way. -/
def int32FieldSize (x : Int32) : Nat := if x ≠ 0 then 1 + r.int32Size x else 0

def int32Field (number : Nat) (x : Int32) : Bytes :=
  if x ≠ 0 then r.writeInt32ToArray number x else []

def int64FieldSize (x : Int64) : Nat := if x ≠ 0 then 1 + r.int64Size x else 0

def int64Field (number : Nat) (x : Int64) : Bytes :=
  if x ≠ 0 then r.writeInt64ToArray number x else []

def packedFieldSize (ns : List UInt32) : Nat :=
  let dataSize := r.uint32Size ns
  (if 0 < dataSize then 1 + r.int32Size (Int32.ofNat dataSize) else 0) + dataSize

def packedField (number : Nat) (ns : List UInt32) : Bytes :=
  let byteSize := r.toCachedSize (r.uint32Size ns)
  if 0 < byteSize then r.writeUInt32Packed number ns byteSize else []

variable {β : Type} [Generated β]

def messageSize (b : β) : Nat := r.lengthDelimitedSize (byteSizeLong r b)

def internalWriteMessage (number : Nat) (b : β) : Bytes :=
  r.writeMessage number (r.toCachedSize (byteSizeLong r b)) (internalSerialize r b)

def optionalFieldSize : Option β → Nat
  | none => 0
  | some b => 1 + messageSize r b

def optionalField (number : Nat) : Option β → Bytes
  | none => []
  | some b => internalWriteMessage r number b

def repeatedFieldSize (bs : List β) : Nat := 1 * bs.length + (bs.map (messageSize r)).sum

def repeatedField (number : Nat) (bs : List β) : Bytes :=
  bs.flatMap (internalWriteMessage r number)

def stringMapSize (entries : List StringEntry) : Nat :=
  1 * entries.length + (entries.map fun e => r.stringEntrySize e.key e.value).sum

def stringMapField (number : Nat) (entries : List StringEntry) : Bytes :=
  entries.flatMap fun e => r.writeStringEntry number e.key e.value

end

namespace Writes
variable (r : Runtime) {s s' : Nat} {b b' : Bytes} {fs gs : List Field} {number : Nat}

theorem nil : Writes 0 [] [] := ⟨.of_eq rfl, fun _ => rfl⟩

theorem append (h : Writes s b fs) (h' : Writes s' b' gs) :
    Writes (s + s') (b ++ b') (fs ++ gs) := by
  have hlen : (writeFields (fs ++ gs)).length =
      (writeFields fs).length + (writeFields gs).length := by
    simp only [writeFields, List.flatMap_append, List.length_append]
  constructor
  · rw [hlen]
    exact h.exact.add h'.exact
  · intro hlt
    rw [hlen] at hlt
    rw [h.bytes_eq (by omega), h'.bytes_eq (by omega)]
    exact List.flatMap_append.symm

/-- The tag of a field with a number below 16 is one byte. -/
theorem single {size : Nat} {payload : Payload} (hn : number < 16)
    (hsize : Exact size payload.write.length)
    (hbytes : payload.write.length < 2 ^ 31 → b = Field.write ⟨number, payload⟩) :
    Writes (1 + size) b [⟨number, payload⟩] := by
  have hwire : payload.wireType < 8 := by cases payload <;> simp [Payload.wireType]
  have htag : (writeVarint (number * 8 + payload.wireType)).length = 1 := by
    rw [writeVarint, groups, if_pos (by omega), List.length_singleton]
  have hfield : writeFields [⟨number, payload⟩] = Field.write ⟨number, payload⟩ :=
    List.append_nil _
  have hlen : (writeFields [⟨number, payload⟩]).length = 1 + payload.write.length := by
    rw [hfield, Field.write, List.length_append, htag]
  constructor
  · rw [hlen]
    exact Exact.add (.of_eq rfl) hsize
  · intro hlt
    rw [hlen] at hlt
    rw [hfield]
    exact hbytes (by omega)

/-- A field that is left out in both passes where it has its default. -/
theorem scalar {size : Nat} {payload : Payload} {d : Bool} {p : Prop} [Decidable p]
    (hp : p ↔ d = false) (h : Writes size b [⟨number, payload⟩]) :
    Writes (if p then size else 0) (if p then b else [])
      (ProtoMessage.scalar number payload d) := by
  cases d with
  | false =>
    have htrue : p := hp.mpr rfl
    rw [if_pos htrue, if_pos htrue]
    exact h
  | true =>
    have hfalse : ¬ p := fun h => Bool.noConfusion (hp.mp h)
    rw [if_neg hfalse, if_neg hfalse]
    exact .nil

theorem nested (hn : number < 16) (h : Writes s b fs) :
    Writes (1 + r.lengthDelimitedSize s) (r.writeMessage number (r.toCachedSize s) b)
      [⟨number, .len (writeFields fs)⟩] := by
  have hle : (writeFields fs).length ≤ (Payload.len (writeFields fs)).write.length := by
    rw [Payload.write, List.length_append]
    exact Nat.le_add_left ..
  refine single hn ?_ fun hlt => ?_
  · exact h.exact.comp r.lengthDelimitedSize (r.lengthDelimitedSize_exact _)
      r.le_lengthDelimitedSize hle
  · have hlt' : (writeFields fs).length < 2 ^ 31 := by omega
    rw [h.bytes_eq hlt']
    exact r.writeMessage_eq number _ _ (h.exact.toCachedSize r hlt')

theorem string (hn : number < 16) (text : Bytes) :
    Writes (1 + r.lengthDelimitedSize text.length) (r.writeString number text)
      [⟨number, .len text⟩] := by
  refine single hn (r.lengthDelimitedSize_exact text) fun hlt => ?_
  rw [Payload.write, List.length_append] at hlt
  exact r.writeString_eq number text (by omega)

theorem stringField (hn : number < 16) (text : Bytes) :
    Writes (stringFieldSize r text) (stringField r number text)
      (ProtoMessage.scalar number (.len text) (text == [])) := by
  refine scalar ?_ (string r hn text)
  rw [List.length_pos_iff, beq_eq_false_iff_ne]

theorem int32 (hn : number < 16) (x : Int32) :
    Writes (1 + r.int32Size x) (r.writeInt32ToArray number x) [⟨number, int32Payload x⟩] :=
  single hn (.of_eq (r.int32Size_eq x)) fun _ => r.writeInt32ToArray_eq number x

theorem int32Field (hn : number < 16) (x : Int32) :
    Writes (int32FieldSize r x) (int32Field r number x)
      (ProtoMessage.scalar number (int32Payload x) (x == 0)) :=
  scalar beq_eq_false_iff_ne.symm (int32 r hn x)

theorem int64Field (hn : number < 16) (x : Int64) :
    Writes (int64FieldSize r x) (int64Field r number x)
      (ProtoMessage.scalar number (int64Payload x) (x == 0)) := by
  refine scalar beq_eq_false_iff_ne.symm (single hn (.of_eq (r.int64Size_eq x)) fun _ => ?_)
  exact r.writeInt64ToArray_eq number x

theorem packedField (hn : number < 16) (ns : List UInt32) :
    Writes (packedFieldSize r ns) (packedField r number ns)
      (ProtoMessage.scalar number (.len (writePacked ns)) (ns == [])) := by
  have hsize : r.uint32Size ns = (writePacked ns).length := r.uint32Size_eq ns
  rw [packedFieldSize, TwoPass.packedField]
  simp only [hsize]
  cases ns with
  | nil =>
    have hzero : (r.toCachedSize 0).toInt = 0 := r.toCachedSize_eq 0 (Nat.two_pow_pos 31)
    have hnot : ¬ 0 < r.toCachedSize 0 := by
      rw [Int32.lt_iff_toInt_lt, hzero]
      exact Int.lt_irrefl 0
    simp only [writePacked, List.flatMap_nil, List.length_nil, Nat.lt_irrefl, if_false, hnot]
    exact .nil
  | cons n ns =>
    have hpos : 0 < (writePacked (n :: ns)).length := by
      have hle := length_le_writePacked (n :: ns)
      rw [List.length_cons] at hle
      omega
    have hcached (hlt : (writePacked (n :: ns)).length < 2 ^ 31) :=
      r.toCachedSize_eq _ hlt
    rw [if_pos hpos, Nat.add_assoc]
    refine single hn ?_ fun hlt => ?_
    · rw [Payload.write, List.length_append]
      by_cases hlt : (writePacked (n :: ns)).length < 2 ^ 31
      · rw [r.int32Size_eq, int32Payload_ofNat hlt]
        exact .of_eq rfl
      · exact ⟨fun h => by omega, fun _ => by omega⟩
    · rw [Payload.write, List.length_append] at hlt
      have hlt' : (writePacked (n :: ns)).length < 2 ^ 31 := by omega
      have hgt : 0 < r.toCachedSize (writePacked (n :: ns)).length := by
        rw [Int32.lt_iff_toInt_lt, hcached hlt']
        exact Int.natCast_pos.mpr hpos
      rw [if_pos hgt]
      exact r.writeUInt32Packed_eq number _ _ (hcached hlt')

/-- An entry of a map from strings to messages. -/
theorem messageEntry (hn : number < 16) (key : Bytes) (h : Writes s b fs) :
    Writes (1 + r.messageEntrySize key s) (r.writeMessageEntry number key (r.toCachedSize s) b)
      [⟨number, entryPayload key (writeFields fs)⟩] := by
  have hle := (length_le_entryPayload key (writeFields fs)).2
  refine single hn ?_ fun hlt => ?_
  · exact h.exact.comp (r.messageEntrySize key) (r.messageEntrySize_exact key _)
      (r.le_messageEntrySize key) hle
  · have hlt' : (writeFields fs).length < 2 ^ 31 := by omega
    rw [h.bytes_eq hlt']
    exact r.writeMessageEntry_eq number key _ _ (h.exact.toCachedSize r hlt') hlt

theorem stringMapField (hn : number < 16) (entries : List StringEntry) :
    Writes (stringMapSize r entries) (stringMapField r number entries)
      (repeated number entries) := by
  induction entries with
  | nil => exact .nil
  | cons e es ih =>
    have hsize : stringMapSize r (e :: es) =
        1 + r.stringEntrySize e.key e.value + stringMapSize r es := by
      simp only [stringMapSize, List.length_cons, List.map_cons, List.sum_cons]
      omega
    have hentry : Writes (1 + r.stringEntrySize e.key e.value)
        (r.writeStringEntry number e.key e.value) [ProtoMessage.message number e] :=
      single hn (r.stringEntrySize_exact e.key e.value) (r.writeStringEntry_eq number e.key e.value)
    rw [hsize]
    exact hentry.append ih

section
variable {β : Type} [ProtoMessage β] [Generated β] [LawfulGenerated β]

theorem message (hn : number < 16) (x : β) :
    Writes (1 + messageSize r x) (internalWriteMessage r number x)
      [ProtoMessage.message number x] :=
  (writes r x).nested r hn

theorem optionalField (hn : number < 16) (x : Option β) :
    Writes (optionalFieldSize r x) (optionalField r number x) (singular number x) := by
  cases x with
  | none => exact .nil
  | some x => exact message r hn x

theorem repeatedField (hn : number < 16) (xs : List β) :
    Writes (repeatedFieldSize r xs) (repeatedField r number xs) (repeated number xs) := by
  induction xs with
  | nil => exact .nil
  | cons x xs ih =>
    have hsize : repeatedFieldSize r (x :: xs) = 1 + messageSize r x + repeatedFieldSize r xs := by
      simp only [repeatedFieldSize, List.length_cons, List.map_cons, List.sum_cons]
      omega
    rw [hsize]
    exact (message r hn x).append ih

end

end Writes

section
variable {α : Type} [ProtoMessage α] [Generated α] [LawfulGenerated α] (r : Runtime)

def serializePartialToArray (a : α) (data : Bytes) (size : Int) : Bytes × Bool :=
  r.serializePartialToArray (byteSizeLong r a) (internalSerialize r a) data size

variable {a : α}

theorem byteSizeLong_eq (h : (encode a).length < 2 ^ 31) :
    byteSizeLong r a = (encode a).length := (writes r a).exact.eq h

theorem le_byteSizeLong (h : 2 ^ 31 ≤ (encode a).length) : 2 ^ 31 ≤ byteSizeLong r a :=
  (writes r a).exact.large h

theorem serializePartialToArray_writes (data : Bytes) {size : Int}
    (h : (encode a).length < 2 ^ 31) (hsize : ((encode a).length : Int) ≤ size) :
    serializePartialToArray r a data size = (encode a ++ data.drop (encode a).length, true) := by
  have hbytes : internalSerialize r a = encode a := (writes r a).bytes_eq h
  rw [serializePartialToArray, byteSizeLong_eq r h, hbytes]
  exact r.serializePartialToArray_writes _ data size h hsize

theorem serializePartialToArray_refuses (data : Bytes) (size : Int)
    (h : 2 ^ 31 ≤ (encode a).length) : serializePartialToArray r a data size = (data, false) :=
  r.serializePartialToArray_refuses _ _ data size (le_byteSizeLong r h)

end

end TwoPass
