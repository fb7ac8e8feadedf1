/-
Files by name. Asking a set for a file makes it, so that a file is known
as soon as an input names it. The files are in the order of their
names, and everything that goes over a set goes in that order.
-/
import Coverage.FileData

namespace Coverage

/-- A set of files, by name. -/
@[ext]
structure FileSet where
  /-- The files under their names. -/
  files : Std.ExtTreeMap String FileData := ∅

namespace FileSet

/-- The set without files. -/
def empty : FileSet := {}

instance : Inhabited FileSet := ⟨empty⟩

instance : EmptyCollection FileSet := ⟨empty⟩

-- ============================================================ look-up

/-- The file of that name, if there is one. -/
def get? (S : FileSet) (name : String) : Option FileData := S.files[name]?

/-- The file of that name; one without data if there is none. -/
def getOrEmpty (S : FileSet) (name : String) : FileData :=
  (S.get? name).getD (.empty name)

/-- There is a file of that name. -/
def contains (S : FileSet) (name : String) : Bool := S.files.contains name

/-- Number of files. -/
def size (S : FileSet) : Nat := S.files.size

/-- There are no files. -/
def isEmpty (S : FileSet) : Bool := S.files.isEmpty

/-- The names, in order. -/
def names (S : FileSet) : List String := S.files.keys

/-- Names and files, in the order of the names. -/
def toList (S : FileSet) : List (String × FileData) := S.files.toList

/-- The files, in the order of their names. -/
def values (S : FileSet) : List FileData := S.files.values

-- ============================================================= change

/-- Changes the file of that name, which is made if there is none. -/
def update (S : FileSet) (name : String) (f : FileData → FileData) :
    FileSet :=
  ⟨S.files.alter name fun old => some (f (old.getD (.empty name)))⟩

/-- Makes the file if there is none. -/
def touch (S : FileSet) (name : String) : FileSet := S.update name id

/-- Adds a file: under a new name as it is, under a known name by merging
it into the file that is there. -/
def insert (S : FileSet) (d : FileData) : FileSet :=
  ⟨S.files.alter d.name fun
    | none => some d
    | some old => some (old.merge d)⟩

/-- Adds files one after the other. -/
def insertMany (S : FileSet) (ds : List FileData) : FileSet :=
  ds.foldl insert S

/-- The set of the given files. -/
def ofList (ds : List FileData) : FileSet := empty.insertMany ds

/-- Takes the file of that name out. -/
def erase (S : FileSet) (name : String) : FileSet := ⟨S.files.erase name⟩

/-- Keeps the files that pass the test. -/
def filter (S : FileSet) (keep : String → FileData → Bool) : FileSet :=
  ⟨S.files.filter keep⟩

/-- Changes every file. -/
def map (S : FileSet) (f : FileData → FileData) : FileSet :=
  ⟨S.files.map fun _ d => f d⟩

-- ============================================================= ratios

/-- Lines that were hit, over all files. -/
def lineRatio (S : FileSet) : Ratio := .sum (S.values.map (·.lineRatio))

/-- Functions that were hit, over all files. -/
def functionRatio (S : FileSet) : Ratio :=
  .sum (S.values.map (·.functionRatio))

/-- Branches that were taken, over all files. -/
def branchRatio (S : FileSet) : Ratio :=
  .sum (S.values.map (·.branchRatio))

/-- Regions that were hit, over all files. -/
def regionRatio (S : FileSet) : Ratio :=
  .sum (S.values.map (·.regionRatio))

-- ================================================== lines from regions

/-- Derives lines in the listed files that have regions, up to the first
that refuses. -/
def deriveLinesIn (S : FileSet) :
    List (String × FileData) → FileSet × Option Fault
  | [] => (S, none)
  | (name, d) :: rest =>
    if d.regions.isEmpty then S.deriveLinesIn rest
    else
      match d.deriveLines with
      | .ok d' => deriveLinesIn ⟨S.files.insert name d'⟩ rest
      | .error fault => (S, some fault)

/-- Derives lines in every file that has regions, in the order of the
names. The first file that refuses stops this; the files before it stay
converted. -/
def deriveLines (S : FileSet) : FileSet × Option Fault :=
  S.deriveLinesIn S.toList

end FileSet

end Coverage
