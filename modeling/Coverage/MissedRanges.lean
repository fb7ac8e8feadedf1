/-
Lines that were never hit, as ranges. Two missed lines fall into one
range when no line between them has data and at most two lines lie
between them: blank lines and comments inside missed code do not break
it up, a line that was hit does.

The lines are visited in order, so a range that is still open ends at
the line with data just before. Hence the gap to the next line is free
of data exactly when the range is still open.
-/
import Coverage.FileData

namespace Coverage

/-- An inclusive range of lines. -/
structure LineRange where
  first : Nat
  last : Nat
deriving DecidableEq, Repr

namespace MissedRanges

/-- So many lines without data may lie between two missed lines of one
range. -/
def maxGap : Nat := 2

/-- Ranges that are complete, the latest first, and the range that may
still grow. -/
structure Progress where
  complete : List LineRange
  growing : Option LineRange

/-- The range that was growing is complete. -/
def Progress.close (p : Progress) : List LineRange :=
  match p.growing with
  | none => p.complete
  | some range => range :: p.complete

/-- Takes the next line with data. -/
def Progress.step (p : Progress) (line : Nat) (hits : Count) : Progress :=
  if hits.isHit then ⟨p.close, none⟩
  else
    match p.growing with
    | some range =>
      if line ≤ range.last + 1 + maxGap then
        ⟨p.complete, some { range with last := line }⟩
      else ⟨p.close, some ⟨line, line⟩⟩
    | none => ⟨p.complete, some ⟨line, line⟩⟩

end MissedRanges

/-- The ranges of lines that were never hit, in order. -/
def missedRanges (lines : Ledger Nat Count) : List LineRange :=
  (lines.foldl MissedRanges.Progress.step ⟨[], none⟩).close.reverse

/-- The text of a range; a single line stands alone. -/
def LineRange.text (r : LineRange) : String :=
  if r.first = r.last then r.first.repr
  else r.first.repr ++ "-" ++ r.last.repr

/-- The text of ranges, such as "1, 3-5, 8". -/
def rangesText (ranges : List LineRange) : String :=
  ", ".intercalate (ranges.map LineRange.text)

end Coverage
