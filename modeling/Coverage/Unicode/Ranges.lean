/-
Ranges of code points, and tables of them. A table is written down in
hexadecimal: `41-5A` is a range, `AA` a single code point, and blanks
stand between the two.
-/
namespace Coverage.Unicode

/-- A range of code points, both ends included. -/
structure Range where
  first : Nat
  last : Nat
deriving DecidableEq, Repr

namespace Range

/-- The code point lies in the range. -/
def contains (r : Range) (codePoint : Nat) : Bool :=
  decide (r.first ≤ codePoint) && decide (codePoint ≤ r.last)

/-- The range of one code point. -/
def single (codePoint : Nat) : Range := ⟨codePoint, codePoint⟩

/-- The value of a hexadecimal digit. -/
private def digitValue (c : Char) : Nat :=
  if c.isDigit then c.toNat - '0'.toNat else c.toNat - 'A'.toNat + 10

/-- Reads the ranges of a row. `first` is the first end of a range whose
hyphen was read, `n` the numeral that is being read. -/
private def readRow (first : Option Nat) (n : Nat) : List Char → List Range
  | [] => [⟨first.getD n, n⟩]
  | c :: rest =>
    if c == ' ' then ⟨first.getD n, n⟩ :: readRow none 0 rest
    else if c == '-' then readRow (some n) 0 rest
    else readRow first (16 * n + digitValue c) rest

/-- Reads the rows of a table. -/
def readAll (rows : List String) : List Range :=
  rows.flatMap fun row => readRow none 0 row.toList

end Range

end Coverage.Unicode
