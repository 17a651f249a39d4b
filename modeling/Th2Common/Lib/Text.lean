import Mathlib.Algebra.Group.Int.Defs
import Mathlib.Algebra.Group.Nat.Defs
import Mathlib.Data.List.Basic
import Mathlib.Data.List.TakeWhile

/-! C++ strings as byte sequences, with what crosses the border to C: a
`c_str()` ends at the first zero byte. -/

/-- `std::string`, `std::vector<unsigned char>`: any bytes, zero bytes included. -/
abbrev Bytes : Type := List UInt8

instance (s : Bytes) (strings : List Bytes) : Decidable (s ∈ strings) :=
  List.instDecidableMemOfLawfulBEq s strings

namespace Text

def utf8 (s : String) : Bytes := s.toUTF8.data.toList

instance : Coe String Bytes := ⟨utf8⟩

/-- What a C function reads behind `s.c_str()`. -/
def cString (s : Bytes) : Bytes := s.takeWhile (· ≠ 0)

theorem cString_eq_self_iff {s : Bytes} : cString s = s ↔ 0 ∉ s := by
  unfold cString
  rw [List.takeWhile_eq_self_iff]
  constructor
  · intro h hmem
    exact absurd (h 0 hmem) (by decide)
  · intro h b hb
    exact decide_eq_true fun hzero => h (hzero ▸ hb)

def decimal (n : Int) : Bytes := utf8 (toString n)

inductive NumeralError
  | invalidArgument
  | outOfRange
  deriving DecidableEq, Repr

def isSpace (b : UInt8) : Bool := b = 32 || (9 ≤ b && b ≤ 13)

def isDigit (b : UInt8) : Bool := 48 ≤ b && b ≤ 57

def digitsValue (ds : Bytes) : Nat := ds.foldl (fun n d => 10 * n + (d.toNat - 48)) 0

def splitSign : Bytes → Bool × Bytes
  | 45 :: s => (true, s)
  | 43 :: s => (false, s)
  | s => (false, s)

/-- `std::stoi(s)` in base ten: leading white space, a sign and the longest run of digits. -/
def stoi (s : Bytes) : Except NumeralError Int :=
  let signed := splitSign (s.dropWhile isSpace)
  let digits := signed.2.takeWhile isDigit
  let value : Int := if signed.1 then -digitsValue digits else digitsValue digits
  if digits = [] then .error .invalidArgument
  else if -2 ^ 31 ≤ value ∧ value < 2 ^ 31 then .ok value
  else .error .outOfRange

example : stoi ("5672" : String) = .ok 5672 := rfl

end Text
