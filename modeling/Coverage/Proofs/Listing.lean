/-
Listings: coverage data before it is written down in some format. A
listing is a list of files, a file lists its functions and its lines,
and a line lists the counts of its branches. Files, lines and functions
may be listed more than once.

Names carry what the formats ask of them, so every listing can be
written in each: as a tracefile of gcov (`gcov`), as one of lcov, and as
the tree that a JSON document of gcov stands for (`tree`). The records
of lcov are written function by function and line by line (`lcov`), or
in sections, one for each kind of record (`lcovByKind`). Where a format
has a field that no reader looks at, the listing holds what is written
there.
-/
import Coverage.GcovJson
import Coverage.Proofs.Writing

namespace Coverage

open Record (write join)
open Text (numeral)

namespace Listing

/-- Numbers of lines fit in thirty-two bits. -/
abbrev LineNumber : Type := Fin (1 <<< 32)

/-- So numerals may stand for them. The zero is that of numerals, whatever
others are at hand. -/
instance lineNumberBound : @NeZero Nat Zero.ofOfNat0 (1 <<< 32) :=
  ⟨by decide⟩

/-- The name of a file: it fits on a line and does not end in white
space. -/
structure Name where
  text : List Char
  closed : Text.Closed text

/-- The name of a function: it has no comma either. -/
structure FunctionName extends Name where
  no_comma : ',' ∉ text

/-- A field that no reader looks at. -/
structure Field where
  text : List Char
  no_lineFeed : '\n' ∉ text
  no_comma : ',' ∉ text

/-- A function of a file. -/
structure Function where
  name : FunctionName
  /-- The line where the function starts. -/
  start : LineNumber
  /-- How often the function ran. -/
  hits : Count
  /-- What newer versions of gcov write between start and hits. -/
  last : Option Field

/-- A branch of a line. -/
structure Branch where
  /-- How often the branch was taken. -/
  count : Count
  /-- The block that lcov names. -/
  block : Nat
  /-- The number that lcov gives to the branch. -/
  index : Nat

/-- A line of a file. -/
structure Line where
  number : LineNumber
  /-- How often the line ran. -/
  count : Count
  branches : List Branch

/-- A file with what is known about it. -/
structure File where
  name : Name
  functions : List Function
  lines : List Line

-- ================================================================= tree

/-- The function in a document. -/
def Function.tree (f : Function) : GcovJson.Function :=
  ⟨String.ofList f.name.text, f.start, f.hits⟩

/-- The line in a document. -/
def Line.tree (l : Line) : GcovJson.Line :=
  ⟨l.number, l.count, l.branches.map Branch.count⟩

/-- The file in a document. -/
def File.tree (f : File) : GcovJson.File :=
  ⟨String.ofList f.name.text, f.functions.map Function.tree,
    f.lines.map Line.tree⟩

-- ================================================================= gcov

/-- The fields of a function before its name. -/
def Function.gcovFields (f : Function) : List (List Char) :=
  numeral f.start :: (f.last.toList.map Field.text ++ [numeral f.hits.toNat])

/-- The record of a function. -/
def Function.gcov (f : Function) : List Char :=
  write "function" (join (f.gcovFields ++ [f.name.text]))

/-- The word for a branch: it was taken if its count is positive. -/
def Branch.word (b : Branch) : List Char :=
  if 0 < b.count.toNat then "taken".toList else "nottaken".toList

/-- The records of a line: its count, then its branches. -/
def Line.gcov (l : Line) : List (List Char) :=
  write "lcount" (join [numeral l.number, numeral l.count.toNat])
    :: l.branches.map fun b =>
      write "branch" (join [numeral l.number, b.word])

/-- The records of a file. -/
def File.gcov (f : File) : List (List Char) :=
  write "file" f.name.text
    :: (f.functions.map Function.gcov ++ f.lines.flatMap Line.gcov)

-- ================================================================= lcov

/-- The record of where a function starts. -/
def Function.lcovStart (f : Function) : List Char :=
  write "FN" (join [numeral f.start, f.name.text])

/-- The record of how often a function ran. -/
def Function.lcovHits (f : Function) : List Char :=
  write "FNDA" (join [numeral f.hits.toNat, f.name.text])

/-- The record of how often a line ran. -/
def Line.lcovHits (l : Line) : List Char :=
  write "DA" (join [numeral l.number, numeral l.count.toNat])

/-- The record of a branch of a line. -/
def Line.lcovBranch (l : Line) (b : Branch) : List Char :=
  write "BRDA" (join [numeral l.number, numeral b.block, numeral b.index,
    numeral b.count.toNat])

/-- The records of a file: both records of each function, then each line
with its branches. -/
def File.lcov (f : File) : List (List Char) :=
  write "SF" f.name.text
    :: (f.functions.flatMap (fun g => [g.lcovStart, g.lcovHits])
      ++ f.lines.flatMap (fun l => l.lcovHits :: l.branches.map l.lcovBranch)
      ++ ["end_of_record".toList])

/-- The records of a file by kind: the starts of all functions, then
their hits, all lines, and then their branches. -/
def File.lcovByKind (f : File) : List (List Char) :=
  write "SF" f.name.text
    :: (f.functions.map Function.lcovStart
      ++ f.functions.map Function.lcovHits
      ++ f.lines.map Line.lcovHits
      ++ f.lines.flatMap (fun l => l.branches.map l.lcovBranch)
      ++ ["end_of_record".toList])

end Listing

/-- A list of files with their functions, lines and branches. -/
structure Listing where
  files : List Listing.File

namespace Listing

/-- The listing as the tree of a document. -/
def tree (l : Listing) : GcovJson := ⟨l.files.map File.tree⟩

/-- The listing as a tracefile of gcov. -/
def gcov (l : Listing) : List UInt8 :=
  Text.encodeLines (l.files.flatMap File.gcov)

/-- The listing as a tracefile of lcov. -/
def lcov (l : Listing) : List UInt8 :=
  Text.encodeLines (l.files.flatMap File.lcov)

/-- The listing as a tracefile of lcov with the records by kind. -/
def lcovByKind (l : Listing) : List UInt8 :=
  Text.encodeLines (l.files.flatMap File.lcovByKind)

-- ====================================================== what fits a line

/-- The fields of a function before its name hold no character that is
neither a digit nor in the end field. -/
theorem Function.not_mem_gcovFields (f : Function) {c : Char}
    (hc : c.isDigit = false) (hlast : ∀ e ∈ f.last, c ∉ e.text) :
    ∀ field ∈ f.gcovFields, c ∉ field := by
  intro field hfield
  rcases List.mem_cons.1 hfield with rfl | hfield
  · exact Text.not_mem_numeral hc _
  · rcases List.mem_append.1 hfield with hfield | hfield
    · obtain ⟨e, he, rfl⟩ := List.mem_map.1 hfield
      exact hlast e (Option.mem_toList.1 he)
    · rw [List.mem_singleton.1 hfield]
      exact Text.not_mem_numeral hc _

theorem Branch.closed_word (b : Branch) : Text.Closed b.word := by
  unfold word
  split
  · exact .of_getLast? (by decide) (c := 'n') rfl rfl
  · exact .of_getLast? (by decide) (c := 'n') rfl rfl

/-- A record of two fields fits on a line if the second one may end
it. -/
theorem closed_pair {kind : String} (hkind : '\n' ∉ kind.toList)
    (n : Nat) {field : List Char} (h : Text.Closed field) :
    Text.Closed (write kind (join [numeral n, field])) := by
  refine Record.closed_write hkind
    (@Record.closed_join [numeral n] field ?_ h)
  intro f hf
  rw [List.mem_singleton.1 hf]
  exact Text.not_mem_numeral rfl n

theorem Line.closed_gcov (l : Line) :
    ∀ line ∈ l.gcov, Text.Closed line := by
  intro line hline
  rcases List.mem_cons.1 hline with rfl | hline
  · exact closed_pair (by decide) _ (.numeral _)
  · obtain ⟨b, -, rfl⟩ := List.mem_map.1 hline
    exact closed_pair (by decide) _ b.closed_word

theorem Line.closed_lcovBranch (l : Line) (b : Branch) :
    Text.Closed (l.lcovBranch b) := by
  refine Record.closed_write (by decide) (@Record.closed_join
    [numeral l.number, numeral b.block, numeral b.index] _ ?_
    (.numeral _))
  intro f hf
  simp only [List.mem_cons, List.not_mem_nil, or_false] at hf
  rcases hf with rfl | rfl | rfl
  · exact Text.not_mem_numeral rfl _
  · exact Text.not_mem_numeral rfl _
  · exact Text.not_mem_numeral rfl _

theorem Function.closed_gcov (f : Function) : Text.Closed f.gcov :=
  Record.closed_write (by decide) (Record.closed_join
    (f.not_mem_gcovFields rfl fun e _ => e.no_lineFeed) f.name.closed)

/-- All records of gcov fit on a line. -/
theorem closed_gcov (l : Listing) :
    ∀ line ∈ l.files.flatMap File.gcov, Text.Closed line := by
  intro line hline
  obtain ⟨f, -, hline⟩ := List.mem_flatMap.1 hline
  rcases List.mem_cons.1 hline with rfl | hline
  · exact Record.closed_write (by decide) f.name.closed
  · rcases List.mem_append.1 hline with hline | hline
    · obtain ⟨g, -, rfl⟩ := List.mem_map.1 hline
      exact g.closed_gcov
    · obtain ⟨k, -, hline⟩ := List.mem_flatMap.1 hline
      exact k.closed_gcov line hline

/-- What is at the start and the end of the records of a file. -/
theorem closed_lcov_frame {f : File} {body : List (List Char)}
    (hbody : ∀ line ∈ body, Text.Closed line) :
    ∀ line ∈ write "SF" f.name.text
      :: (body ++ ["end_of_record".toList]), Text.Closed line := by
  intro line hline
  rcases List.mem_cons.1 hline with rfl | hline
  · exact Record.closed_write (by decide) f.name.closed
  · rcases List.mem_append.1 hline with hline | hline
    · exact hbody line hline
    · rw [List.mem_singleton.1 hline]
      exact .of_getLast? (by decide) (c := 'd') rfl rfl

theorem Function.closed_lcovStart (f : Function) :
    Text.Closed f.lcovStart :=
  closed_pair (by decide) _ f.name.closed

theorem Function.closed_lcovHits (f : Function) :
    Text.Closed f.lcovHits :=
  closed_pair (by decide) _ f.name.closed

theorem Line.closed_lcovHits (l : Line) : Text.Closed l.lcovHits :=
  closed_pair (by decide) _ (.numeral _)

/-- All records of lcov fit on a line. -/
theorem closed_lcov (l : Listing) :
    ∀ line ∈ l.files.flatMap File.lcov, Text.Closed line := by
  intro line hline
  obtain ⟨f, -, hline⟩ := List.mem_flatMap.1 hline
  refine closed_lcov_frame (fun line hline => ?_) line hline
  rcases List.mem_append.1 hline with hline | hline
  · obtain ⟨g, -, hline⟩ := List.mem_flatMap.1 hline
    simp only [List.mem_cons, List.not_mem_nil, or_false] at hline
    rcases hline with rfl | rfl
    · exact g.closed_lcovStart
    · exact g.closed_lcovHits
  · obtain ⟨k, -, hline⟩ := List.mem_flatMap.1 hline
    rcases List.mem_cons.1 hline with rfl | hline
    · exact k.closed_lcovHits
    · obtain ⟨b, -, rfl⟩ := List.mem_map.1 hline
      exact k.closed_lcovBranch b

/-- They do by kind as well. -/
theorem closed_lcovByKind (l : Listing) :
    ∀ line ∈ l.files.flatMap File.lcovByKind, Text.Closed line := by
  intro line hline
  obtain ⟨f, -, hline⟩ := List.mem_flatMap.1 hline
  refine closed_lcov_frame (fun line hline => ?_) line hline
  simp only [List.mem_append] at hline
  rcases hline with ((hline | hline) | hline) | hline
  · obtain ⟨g, -, rfl⟩ := List.mem_map.1 hline
    exact g.closed_lcovStart
  · obtain ⟨g, -, rfl⟩ := List.mem_map.1 hline
    exact g.closed_lcovHits
  · obtain ⟨k, -, rfl⟩ := List.mem_map.1 hline
    exact k.closed_lcovHits
  · obtain ⟨k, -, hline⟩ := List.mem_flatMap.1 hline
    obtain ⟨b, -, rfl⟩ := List.mem_map.1 hline
    exact k.closed_lcovBranch b

end Listing

end Coverage
