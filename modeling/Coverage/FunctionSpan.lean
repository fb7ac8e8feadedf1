/-
Which lines belong to which functions. A span runs from the start line
of a function to the line before the next start line, and the last
span runs to the end of the file. Functions with the same start line
share a span; functions without a known start line have none.

The start lines are collected in a sorted set, so the spans come in
order, and `spansFrom` only looks at neighbours.
-/
import Std.Data.ExtTreeSet
import Coverage.FileData

namespace Coverage

/-- The lines attributed to the functions with one start line. -/
structure FunctionSpan where
  /-- First line of the span. -/
  first : Nat
  /-- Last line of the span; none when it runs to the end of the file. -/
  last : Option Nat
deriving DecidableEq, Repr

namespace FunctionSpan

/-- The line belongs to the span. -/
def contains (s : FunctionSpan) (line : Nat) : Bool :=
  decide (s.first ≤ line) && s.last.all (fun last => decide (line ≤ last))

end FunctionSpan

/-- The functions of a span, with the lines of the file that belong to
it. -/
structure FunctionListing where
  /-- The lines attributed to the functions. -/
  span : FunctionSpan
  /-- The functions that start there, by name. -/
  names : List String
  /-- The lines of the span that have data, with their hits. -/
  lines : List (Nat × Count)

/-- Spans that start at the given lines, each up to the next start. -/
def spansFrom : List Nat → List FunctionSpan
  | [] => []
  | [first] => [⟨first, none⟩]
  | first :: next :: rest =>
    ⟨first, some (next - 1)⟩ :: spansFrom (next :: rest)

namespace FileData

/-- The start lines that are known, in order and without repetition. -/
def startLines (d : FileData) : List Nat :=
  (Std.ExtTreeSet.ofList
    ((d.functions.values.map (·.start)).filter (· != 0))).toList

/-- The spans of the file, one for each known start line. -/
def functionSpans (d : FileData) : List FunctionSpan :=
  spansFrom d.startLines

/-- What belongs to a span: its functions and its lines. -/
def listing (d : FileData) (span : FunctionSpan) : FunctionListing where
  span := span
  names := (d.functions.toList.filter (·.2.start == span.first)).map (·.1)
  lines := d.lines.toList.filter (span.contains ·.1)

/-- The listing of every span of the file. -/
def functionListings (d : FileData) : List FunctionListing :=
  d.functionSpans.map d.listing

end FileData

end Coverage
