/-
The roll-up of a set of files: totals, one entry for each file, one for
each function of each file. A report also carries what it is called and
which test run and source it belongs to; collecting statistics leaves
these alone and replaces everything else.
-/
import Coverage.FileSet
import Coverage.MissedRanges

namespace Coverage

/-- The four ratios of a scope. -/
structure Ratios where
  lines : Ratio := 0
  functions : Ratio := 0
  branches : Ratio := 0
  regions : Ratio := 0
deriving DecidableEq, Repr

/-- The ratios of a file. -/
def FileData.ratios (d : FileData) : Ratios :=
  ⟨d.lineRatio, d.functionRatio, d.branchRatio, d.regionRatio⟩

/-- The ratios of a set of files. -/
def FileSet.ratios (S : FileSet) : Ratios :=
  ⟨S.lineRatio, S.functionRatio, S.branchRatio, S.regionRatio⟩

/-- The statistics of a file. -/
structure FileEntry where
  name : String
  ratios : Ratios
  /-- Lines that were never hit. -/
  missed : List LineRange
deriving DecidableEq

/-- The statistics of a function. -/
structure FunctionEntry where
  name : String
  /-- The file that the function is in. -/
  file : String
  /-- The start line; zero if it is not known. -/
  start : Nat
  hits : Count
deriving DecidableEq

/-- Functions are listed by name, those of one name by file. -/
def FunctionEntry.precedes (a b : FunctionEntry) : Bool :=
  ((compare a.name b.name).then (compare a.file b.file)).isLE

/-- Statistics of a set of files. -/
structure Report where
  title : String
  /-- Identifies the test run. -/
  testId : Option String := none
  /-- Identifies the revision of the source. -/
  sourceId : Option String := none
  totals : Ratios := {}
  /-- The files, by name. -/
  files : List FileEntry := []
  /-- The functions, by name, then by file. -/
  functions : List FunctionEntry := []

namespace Report

/-- The title of a report that was given none. -/
def defaultTitle : String := "covnorm"

/-- The statistics of one file of a set. -/
def fileEntry (name : String) (d : FileData) : FileEntry :=
  ⟨name, d.ratios, missedRanges d.lines⟩

/-- The functions of one file of a set, by name. -/
def functionEntries (file : String) (d : FileData) :
    List FunctionEntry :=
  d.functions.toList.map fun (name, f) => ⟨name, file, f.start, f.hits⟩

/-- The sum of one of the four ratios over file entries. -/
private def total (entries : List FileEntry) (part : Ratios → Ratio) :
    Ratio :=
  .sum (entries.map (part ·.ratios))

/-- Replaces the statistics by those of the set. The heading stays. -/
def withStatistics (r : Report) (S : FileSet) : Report :=
  let entries := S.toList.map fun (name, d) => fileEntry name d
  { r with
    totals :=
      ⟨total entries (·.lines), total entries (·.functions),
        total entries (·.branches), total entries (·.regions)⟩
    files := entries
    functions :=
      (S.toList.flatMap fun (name, d) => functionEntries name d).mergeSort
        FunctionEntry.precedes }

/-- The report of a set under the default title. -/
def collect (S : FileSet) : Report :=
  withStatistics { title := defaultTitle } S

end Report

end Coverage
