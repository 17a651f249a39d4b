import Th2Common.Lib.Text
import Mathlib.Data.List.Induction
import Mathlib.Data.Nat.Digits.Defs

/-! Decimal numerals and the number that `std::stoi` reads from one. -/

namespace Text

def IsDigits (ds : List Nat) : Prop := ds ≠ [] ∧ ∀ d ∈ ds, d < 10

def valueOf (ds : List Nat) : Nat := Nat.ofDigits 10 ds.reverse

def digitBytes (ds : List Nat) : Bytes := ds.map fun d => UInt8.ofNat (48 + d)

def Denotes (s : Bytes) (v : Int) : Prop :=
  ∃ ds, IsDigits ds ∧
    (s = digitBytes ds ∧ v = valueOf ds ∨ s = 45 :: digitBytes ds ∧ v = -valueOf ds)

theorem toNat_digit {d : Nat} (h : d < 10) : (UInt8.ofNat (48 + d)).toNat = 48 + d := by
  rw [UInt8.toNat_ofNat']
  omega

theorem isDigit_digit {d : Nat} (h : d < 10) : isDigit (UInt8.ofNat (48 + d)) = true := by
  have hnat := toNat_digit h
  simp only [isDigit, Bool.and_eq_true, decide_eq_true_eq, UInt8.le_iff_toNat_le, hnat]
  have h57 : (57 : UInt8).toNat = 57 := rfl
  have h48 : (48 : UInt8).toNat = 48 := rfl
  omega

theorem digitsValue_digitBytes {ds : List Nat} (h : ∀ d ∈ ds, d < 10) :
    digitsValue (digitBytes ds) = valueOf ds := by
  unfold valueOf
  induction ds using List.reverseRecOn with
  | nil => rfl
  | append_singleton ds d ih =>
    have hd : d < 10 := h d (by simp)
    have hds : ∀ x ∈ ds, x < 10 := fun x hx => h x (by simp [hx])
    have hstep : digitsValue (digitBytes (ds ++ [d])) =
        10 * digitsValue (digitBytes ds) + ((UInt8.ofNat (48 + d)).toNat - 48) := by
      rw [digitsValue, digitBytes, List.map_append, List.foldl_append]
      rfl
    rw [hstep, ih hds, toNat_digit hd, List.reverse_append, List.reverse_singleton,
      List.singleton_append, Nat.ofDigits_cons, Nat.add_sub_cancel_left, Nat.add_comm]

theorem isDigit_of_mem {ds : List Nat} (h : ∀ d ∈ ds, d < 10) {b : UInt8}
    (hb : b ∈ digitBytes ds) : isDigit b = true := by
  obtain ⟨d, hd, rfl⟩ := List.mem_map.mp hb
  exact isDigit_digit (h d hd)

theorem takeWhile_digitBytes {ds : List Nat} (h : ∀ d ∈ ds, d < 10) :
    (digitBytes ds).takeWhile isDigit = digitBytes ds :=
  List.takeWhile_eq_self_iff.mpr fun _ hb => isDigit_of_mem h hb

theorem ne_of_isDigit {b c : UInt8} (hb : isDigit b = true) (hc : isDigit c = false) : b ≠ c := by
  rintro rfl
  rw [hb] at hc
  cases hc

theorem isSpace_of_isDigit {b : UInt8} (h : isDigit b = true) : isSpace b = false := by
  simp only [isDigit, isSpace, Bool.and_eq_true, decide_eq_true_eq, UInt8.le_iff_toNat_le,
    Bool.or_eq_false_iff, decide_eq_false_iff_not, Bool.and_eq_false_iff] at h ⊢
  have h48 : (48 : UInt8).toNat = 48 := rfl
  have h13 : (13 : UInt8).toNat = 13 := rfl
  refine ⟨fun h32 => ?_, .inr (by omega)⟩
  have h32 : b.toNat = 32 := congrArg UInt8.toNat h32
  omega

theorem splitSign_digitBytes {ds : List Nat} (h : IsDigits ds) :
    splitSign ((digitBytes ds).dropWhile isSpace) = (false, digitBytes ds) := by
  obtain ⟨hne, hlt⟩ := h
  obtain ⟨d, ds, rfl⟩ := List.exists_cons_of_ne_nil hne
  have hd : isDigit (UInt8.ofNat (48 + d)) = true := isDigit_digit (hlt d List.mem_cons_self)
  have hminus : UInt8.ofNat (48 + d) ≠ 45 := ne_of_isDigit hd rfl
  have hplus : UInt8.ofNat (48 + d) ≠ 43 := ne_of_isDigit hd rfl
  have hdrop : (digitBytes (d :: ds)).dropWhile isSpace = digitBytes (d :: ds) := by
    rw [digitBytes, List.map_cons, List.dropWhile_cons_of_neg]
    rw [isSpace_of_isDigit hd]
    exact Bool.false_ne_true
  rw [hdrop]
  unfold splitSign digitBytes
  split
  · next heq => exact absurd (List.cons.inj heq).1 hminus
  · next heq => exact absurd (List.cons.inj heq).1 hplus
  · rfl

theorem splitSign_minus (s : Bytes) : splitSign ((45 :: s).dropWhile isSpace) = (true, s) := by
  rw [List.dropWhile_cons_of_neg (by decide)]
  rfl

theorem stoi_of_splitSign {s : Bytes} {sign : Bool} {ds : List Nat}
    (hsign : splitSign (s.dropWhile isSpace) = (sign, digitBytes ds)) (h : IsDigits ds) {v : Int}
    (hv : v = if sign then -(valueOf ds : Int) else valueOf ds)
    (hlo : -2 ^ 31 ≤ v) (hhi : v < 2 ^ 31) : stoi s = .ok v := by
  have hne : digitBytes ds ≠ [] := fun hnil => h.1 (List.map_eq_nil_iff.mp hnil)
  have hvalue : (if sign then -(digitsValue (digitBytes ds) : Int)
      else digitsValue (digitBytes ds)) = v := by
    rw [digitsValue_digitBytes h.2, hv]
  unfold stoi
  simp only [hsign, takeWhile_digitBytes h.2, hvalue]
  rw [if_neg hne, if_pos ⟨hlo, hhi⟩]

theorem stoi_of_denotes {s : Bytes} {v : Int} (h : Denotes s v) (hlo : -2 ^ 31 ≤ v)
    (hhi : v < 2 ^ 31) : stoi s = .ok v := by
  obtain ⟨ds, hds, ⟨rfl, hv⟩ | ⟨rfl, hv⟩⟩ := h
  · exact stoi_of_splitSign (splitSign_digitBytes hds) hds hv hlo hhi
  · exact stoi_of_splitSign (splitSign_minus _) hds hv hlo hhi

end Text
