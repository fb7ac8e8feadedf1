/-
Reports as text: a summary, a table of files, a table of functions.
Columns have a width in characters. A cell that is too long is not cut,
it pushes the rest of its row to the right, and text on the left is
filled up even at the end of a line.
-/
import Coverage.Report
import Coverage.Tenths

namespace Coverage

/-- The text filled up with blanks on the right. -/
def padRight (width : Nat) (text : String) : String :=
  text ++ String.ofList (List.replicate (width - text.length) ' ')

/-- The text filled up with blanks on the left. -/
def padLeft (width : Nat) (text : String) : String :=
  String.ofList (List.replicate (width - text.length) ' ') ++ text

/-- A line of hyphens. -/
private def rule (width : Nat) : String :=
  String.ofList (List.replicate width '-')

/-- The lines, each with its line feed. -/
private def joinLines (lines : List String) : String :=
  String.join (lines.map (· ++ "\n"))

/-- Hits, total and percentage, or that there is nothing to measure. -/
def Ratio.text (r : Ratio) : String :=
  match r.percent with
  | some percent =>
    r.hits.repr ++ "/" ++ r.total.repr ++ " (" ++ oneDecimal percent ++ "%)"
  | none => "n/a"

/-- The grade as text; empty if there is none. -/
def Ratio.ratingText (r : Ratio) : String :=
  match r.rating with
  | some rating => rating.name
  | none => ""

namespace Report

/-- A labelled ratio of the summary. -/
private def summaryRow (label : String) (r : Ratio) : String :=
  padRight 11 label ++ " " ++ padRight 24 r.text ++ " " ++ r.ratingText

/-- An identifier of the summary, if it is set. -/
private def idRow (label : String) (id : Option String) : List String :=
  id.toList.map (label ++ ·)

/-- Title, identifiers, number of files and the totals. -/
def summaryText (r : Report) : String :=
  joinLines
    ([r.title] ++ idRow "Source ID:  " r.sourceId
      ++ idRow "Test ID:    " r.testId
      ++ ["Files:      " ++ r.files.length.repr,
        summaryRow "Lines:" r.totals.lines,
        summaryRow "Functions:" r.totals.functions,
        summaryRow "Branches:" r.totals.branches,
        summaryRow "Regions:" r.totals.regions])

/-- A row of the table of files. -/
private def fileRow (name lines functions branches regions missed : String) :
    String :=
  padRight 50 name ++ " " ++ padLeft 20 lines ++ " "
    ++ padLeft 20 functions ++ " " ++ padLeft 20 branches ++ " "
    ++ padLeft 20 regions ++ "  " ++ missed

/-- The table of files, with their missed lines. -/
def filesText (r : Report) : String :=
  joinLines
    (fileRow "FILE" "LINES" "FUNCTIONS" "BRANCHES" "REGIONS" "MISSED"
      :: rule 141
      :: r.files.map fun f =>
        fileRow f.name f.ratios.lines.text f.ratios.functions.text
          f.ratios.branches.text f.ratios.regions.text (rangesText f.missed))

/-- A row of the table of functions, up to its mark. -/
private def functionRow (name file line hits : String) : String :=
  padRight 40 name ++ " " ++ padRight 50 file ++ " " ++ padLeft 6 line
    ++ " " ++ padLeft 10 hits

/-- The mark of a function: whether it was ever called. -/
private def hitMark (hits : Count) : String :=
  if hits.isHit then "✓" else "✗"

/-- The table of functions, or that there are none. -/
def functionsText (r : Report) : String :=
  if r.functions.isEmpty then "No function data.\n"
  else
    joinLines
      (functionRow "FUNCTION" "FILE" "LINE" "HITS" :: rule 109
        :: r.functions.map fun f =>
          functionRow f.name f.file f.start.repr f.hits.toNat.repr ++ " "
            ++ hitMark f.hits)

end Report

end Coverage
