import Th2Common.Lib.Unordered
import Th2Common.Lib.Wire

/-! Message types over the wire format. A type says which fields it writes and
how it takes in one field that was read; encoding and decoding follow. -/

open Wire

class ProtoMessage (α : Type) where
  blank : α
  /-- The fields in the order they are written, which is that of their numbers. -/
  fields : α → List Field
  /-- What reading does with one field; an unknown field leaves the value as it is. -/
  mergeField : α → Field → Option α

namespace ProtoMessage
variable {α β : Type} [ProtoMessage α] [ProtoMessage β]

def encode (a : α) : Bytes := writeFields (fields a)

def mergeFrom (a : α) (bs : Bytes) : Option α :=
  (parse bs).bind fun fs => fs.foldlM mergeField a

def decode (bs : Bytes) : Option α := mergeFrom blank bs

def Roundtrips (a : α) : Prop := (encode a).length < 2 ^ 64 → decode (encode a) = some a

theorem roundtrips_of_fold {a : α} (hreg : ∀ f ∈ fields a, f.Regular)
    (hfold : (encode a).length < 2 ^ 64 → (fields a).foldlM mergeField blank = some a) :
    Roundtrips a := by
  intro hlen
  rw [decode, mergeFrom, encode, parse_writeFields (fits_of_regular hreg hlen), Option.bind_some]
  exact hfold hlen

theorem encode_injective_of_roundtrips {a b : α} (ha : Roundtrips a) (hb : Roundtrips b)
    (hlen : (encode a).length < 2 ^ 64) (h : encode a = encode b) : a = b := by
  have hda := ha hlen
  have hdb := hb (h ▸ hlen)
  rw [h, hdb] at hda
  exact (Option.some.inj hda).symm

/-- A scalar without presence is written unless it has its default. -/
def scalar (number : Nat) (payload : Payload) (isDefault : Bool) : List Field :=
  if isDefault then [] else [⟨number, payload⟩]

def message (number : Nat) (b : β) : Field := ⟨number, .len (encode b)⟩

def singular (number : Nat) (b : Option β) : List Field := b.toList.map (message number)

def repeated (number : Nat) (bs : List β) : List Field := bs.map (message number)

def mergeOptional (b : Option β) (bs : Bytes) : Option (Option β) :=
  (mergeFrom (b.getD blank) bs).map some

theorem mem_scalar {number : Nat} {payload : Payload} {d : Bool} {f : Field}
    (h : f ∈ scalar number payload d) : f = ⟨number, payload⟩ := by
  unfold scalar at h
  split at h
  · cases h
  · exact List.mem_singleton.mp h

theorem regular_message {number : Nat} (h : 0 < number ∧ number < 2 ^ 29) (b : β) :
    (message number b).Regular := regular_len h _

theorem regular_singular {number : Nat} (h : 0 < number ∧ number < 2 ^ 29) {b : Option β}
    {f : Field} (hf : f ∈ singular number b) : f.Regular := by
  obtain ⟨x, _, rfl⟩ := List.mem_map.mp hf
  exact regular_message h x

theorem regular_repeated {number : Nat} (h : 0 < number ∧ number < 2 ^ 29) {bs : List β}
    {f : Field} (hf : f ∈ repeated number bs) : f.Regular := by
  obtain ⟨x, _, rfl⟩ := List.mem_map.mp hf
  exact regular_message h x

theorem decode_of_mem {a : α} {number : Nat} {b : β} (hb : Roundtrips b)
    (hmem : message number b ∈ fields a) (hlen : (encode a).length < 2 ^ 64) :
    decode (encode b) = some b :=
  hb (Nat.lt_of_le_of_lt (length_le_of_mem _ hmem) hlen)

theorem mergeOptional_none {a : α} {number : Nat} {b : β} (hb : Roundtrips b)
    (hmem : message number b ∈ fields a) (hlen : (encode a).length < 2 ^ 64) :
    mergeOptional none (encode b) = some (some b) := by
  have hd : mergeFrom blank (encode b) = some b := decode_of_mem hb hmem hlen
  rw [mergeOptional, Option.getD_none, hd, Option.map_some]

theorem foldlM_append_some {fs gs : List Field} {a b c : α}
    (hf : fs.foldlM mergeField a = some b) (hg : gs.foldlM mergeField b = some c) :
    (fs ++ gs).foldlM mergeField a = some c := by
  rw [List.foldlM_append, hf]
  exact hg

theorem foldlM_scalar {number : Nat} {payload : Payload} {d : Bool} {a b : α}
    (hmerge : mergeField a ⟨number, payload⟩ = some b) (hdefault : d = true → b = a) :
    (scalar number payload d).foldlM mergeField a = some b := by
  unfold scalar
  split
  · next h => rw [hdefault h, List.foldlM_nil, Option.pure_def]
  · rw [List.foldlM_cons, hmerge]
    rfl

theorem foldlM_singular {number : Nat} {x : Option β} {a b : α} (hnone : x = none → b = a)
    (hsome : ∀ y, x = some y → mergeField a (message number y) = some b) :
    (singular number x).foldlM mergeField a = some b := by
  cases x with
  | none =>
    rw [hnone rfl]
    rfl
  | some y =>
    have hy := hsome y rfl
    simp only [singular, Option.toList_some, List.map_cons, List.map_nil, List.foldlM_cons, hy]
    rfl

theorem foldlM_singular_unset {a : α} {number : Nat} {x : Option β} (set : Option β → α)
    (hmerge : ∀ bs, mergeField (set none) ⟨number, .len bs⟩ = (mergeOptional none bs).map set)
    (hx : ∀ y, x = some y → Roundtrips y) (hfields : ∀ f ∈ singular number x, f ∈ fields a)
    (hlen : (encode a).length < 2 ^ 64) :
    (singular number x).foldlM mergeField (set none) = some (set x) := by
  apply foldlM_singular
  · intro hnone
    rw [hnone]
  · intro y hy
    have hmem : message number y ∈ fields a := hfields _ (by simp [singular, hy])
    have hread : mergeOptional none (encode y) = some (some y) :=
      mergeOptional_none (hx y hy) hmem hlen
    rw [message, hmerge, hread, hy]
    rfl

theorem foldlM_map {γ : Type} (field : γ → Field) (push : α → γ → α) (xs : List γ)
    (h : ∀ x ∈ xs, ∀ a, mergeField a (field x) = some (push a x)) (a : α) :
    (xs.map field).foldlM mergeField a = some (xs.foldl push a) := by
  induction xs generalizing a with
  | nil => rfl
  | cons x xs ih =>
    rw [List.map_cons, List.foldlM_cons, h x (by simp) a]
    exact ih (fun y hy => h y (by simp [hy])) (push a x)

theorem foldlM_snoc {σ γ : Type} {step : σ → Field → Option σ} (field : γ → Field)
    (put : List γ → σ) (xs : List γ)
    (h : ∀ ys x zs, xs = ys ++ x :: zs → step (put ys) (field x) = some (put (ys ++ [x]))) :
    (xs.map field).foldlM step (put []) = some (put xs) := by
  have hrest : ∀ zs ys, xs = ys ++ zs → (zs.map field).foldlM step (put ys) = some (put xs) := by
    intro zs
    induction zs with
    | nil =>
      intro ys hxs
      rw [hxs, List.append_nil]
      rfl
    | cons x zs ih =>
      intro ys hxs
      rw [List.map_cons, List.foldlM_cons, h ys x zs hxs]
      exact ih (ys ++ [x]) (by rw [hxs, List.append_assoc, List.singleton_append])
  exact hrest xs [] rfl

theorem foldlM_repeated_unset {a : α} {number : Nat} {xs : List β} (set : List β → α)
    (hmerge : ∀ ys bs, mergeField (set ys) ⟨number, .len bs⟩ =
      (decode bs).map fun y => set (ys ++ [y]))
    (hxs : ∀ x ∈ xs, Roundtrips x) (hfields : ∀ f ∈ repeated number xs, f ∈ fields a)
    (hlen : (encode a).length < 2 ^ 64) :
    (repeated number xs).foldlM mergeField (set []) = some (set xs) := by
  apply foldlM_snoc (message number) set
  intro ys x zs hsplit
  have hx : x ∈ xs := by simp [hsplit]
  have hread : decode (encode x) = some x :=
    decode_of_mem (hxs x hx) (hfields _ (List.mem_map_of_mem hx)) hlen
  rw [message, hmerge, hread, Option.map_some]

structure StringEntry where
  key : Bytes := []
  value : Bytes := []
  deriving DecidableEq, Repr

instance : ProtoMessage StringEntry where
  blank := {}
  fields e := [⟨1, .len e.key⟩, ⟨2, .len e.value⟩]
  mergeField e f := match f with
    | ⟨1, .len s⟩ => some { e with key := s }
    | ⟨2, .len s⟩ => some { e with value := s }
    | _ => some e

theorem roundtrips_stringEntry (e : StringEntry) : Roundtrips e := by
  refine roundtrips_of_fold ?_ fun _ => rfl
  intro f hf
  simp only [fields, List.mem_cons, List.not_mem_nil, or_false] at hf
  rcases hf with rfl | rfl <;> exact regular_len (by decide) _

end ProtoMessage
