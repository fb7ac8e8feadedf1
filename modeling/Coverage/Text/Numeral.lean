/-
Unsigned decimal numerals with a bound: an optional plus sign, then
ASCII digits, leading zeros allowed. Digits are taken from the left.
At each one its validity is judged before the size of the number so
far, and the first problem found is the one that is reported.
-/
namespace Coverage.Text

namespace Numeral

/-- Why a text is not a numeral below the bound. -/
inductive Problem
  /-- There is no text at all. -/
  | empty
  /-- Something other than a digit stands where a digit must. -/
  | invalidDigit
  /-- The number reaches the bound. -/
  | tooLarge
deriving DecidableEq, Repr

/-- The wording of a problem. -/
def Problem.message : Problem → String
  | .empty => "cannot parse integer from empty string"
  | .invalidDigit => "invalid digit found in string"
  | .tooLarge => "number too large to fit in target type"

/-- Reads further digits behind the value `seen`. -/
def readDigits (bound : Nat) (seen : Nat) :
    List Char → Except Problem Nat
  | [] => .ok seen
  | c :: rest =>
    if c.isDigit then
      let next := 10 * seen + (c.toNat - '0'.toNat)
      if next < bound then readDigits bound next rest else .error .tooLarge
    else .error .invalidDigit

/-- Reads a whole text as a number below the bound. A plus sign alone is
no number. -/
def read (bound : Nat) : List Char → Except Problem Nat
  | [] => .error .empty
  | ['+'] => .error .invalidDigit
  | '+' :: digits => readDigits bound 0 digits
  | digits => readDigits bound 0 digits

/-- What is read stays below the bound. -/
theorem readDigits_lt {bound seen n : Nat} {text : List Char}
    (start : seen < bound) (h : readDigits bound seen text = .ok n) :
    n < bound := by
  induction text generalizing seen with
  | nil =>
    simp only [readDigits, Except.ok.injEq] at h
    omega
  | cons c rest ih =>
    simp only [readDigits] at h
    split at h
    · split at h
      · exact ih (by assumption) h
      · simp at h
    · simp at h

end Numeral

end Coverage.Text
