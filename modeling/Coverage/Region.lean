/-
Source regions: an inclusive range from one line and column to
another. A region is a key. Two regions are the same only when all
four numbers agree, and regions are ordered by those numbers from left
to right.

A region that ends on a line before its first touches no line at all.
Readers refuse regions that touch more than `Region.maxLines` lines,
which bounds the work of turning regions into lines.
-/
import Std.Data.ExtTreeMap

namespace Coverage

/-- An inclusive range of source text. Lines and columns stay below
`2 ^ 32` because the readers let no larger number in. -/
structure Region where
  /-- First line. -/
  startLine : Nat
  /-- Column where the range starts. -/
  startColumn : Nat
  /-- Last line. -/
  endLine : Nat
  /-- Column where the range ends. -/
  endColumn : Nat
deriving DecidableEq, Repr

namespace Region

/-- Readers accept a region only if it touches at most so many lines. -/
def maxLines : Nat := 1 <<< 20

/-- How many lines the region touches. -/
def lineCount (r : Region) : Nat := r.endLine + 1 - r.startLine

/-- The region touches the line. -/
def Touches (r : Region) (line : Nat) : Prop :=
  r.startLine ≤ line ∧ line ≤ r.endLine

instance (r : Region) (line : Nat) : Decidable (r.Touches line) :=
  inferInstanceAs (Decidable (_ ∧ _))

/-- The lines that the region touches, in order. -/
def lines (r : Region) : List Nat := List.range' r.startLine r.lineCount

theorem mem_lines {r : Region} {line : Nat} :
    line ∈ r.lines ↔ r.Touches line := by
  simp only [lines, lineCount, Touches, List.mem_range'_1]
  omega

theorem length_lines (r : Region) : r.lines.length = r.lineCount := by
  simp [lines]

-- ============================================================= order

/-- Regions are ordered by start line, start column, end line and end
column, the earlier number first. -/
instance : Ord Region :=
  ⟨compareLex (compareOn startLine) (compareLex (compareOn startColumn)
    (compareLex (compareOn endLine) (compareOn endColumn)))⟩

instance : Std.TransOrd Region :=
  inferInstanceAs (Std.TransCmp (compareLex (compareOn startLine)
    (compareLex (compareOn startColumn)
      (compareLex (compareOn endLine) (compareOn endColumn)))))

/-- Only a region itself stands where it stands in the order. -/
instance : Std.LawfulEqOrd Region where
  eq_of_compare {a b} h := by
    replace h : (compare a.startLine b.startLine).then
        ((compare a.startColumn b.startColumn).then
          ((compare a.endLine b.endLine).then
            (compare a.endColumn b.endColumn))) = .eq := h
    simp only [Ordering.then_eq_eq, Nat.compare_eq_eq] at h
    cases a
    cases b
    simp_all

end Region

end Coverage
