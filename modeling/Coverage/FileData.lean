/-
The data of one source file: hits of its lines, its functions, the
outcomes of its branches, hits of its regions. Each is a ledger, so
data only ever adds up, and merging two files merges the four ledgers.

Lines can be derived from regions, once: a line gets the hits of every
region that touches it. A file that has lines already refuses, because
those hits would be counted twice.
-/
import Coverage.Count
import Coverage.Fault
import Coverage.Ledger
import Coverage.Ratio
import Coverage.Region

namespace Coverage

-- ========================================================== functions

/-- Where a function starts and how often it ran. -/
@[ext]
structure FunctionData where
  /-- First line of the function; zero while it is not known. -/
  start : Nat
  /-- How often the function ran. -/
  hits : Count
deriving DecidableEq

namespace FunctionData

instance : Zero FunctionData := ⟨⟨0, 0⟩⟩

/-- Hits add up, and the first start line that is known is kept. -/
instance : Add FunctionData :=
  ⟨fun a b => ⟨if a.start = 0 then b.start else a.start, a.hits + b.hits⟩⟩

@[simp]
theorem start_zero : (0 : FunctionData).start = 0 := rfl

@[simp]
theorem hits_zero : (0 : FunctionData).hits = 0 := rfl

@[simp]
theorem start_add (a b : FunctionData) :
    (a + b).start = if a.start = 0 then b.start else a.start := rfl

@[simp]
theorem hits_add (a b : FunctionData) :
    (a + b).hits = a.hits + b.hits := rfl

theorem add_assoc (a b c : FunctionData) : a + b + c = a + (b + c) := by
  ext
  · simp only [start_add]
    split <;> simp_all
  · simp only [hits_add, Count.add_assoc]

end FunctionData

-- =========================================================== branches

/-- How one branch went. -/
inductive BranchStatus
  | taken
  | notTaken
  | notExecuted
deriving DecidableEq, Repr

/-- The outcomes of the branches of a line, in the order of the input. -/
@[ext]
structure Outcomes where
  /-- The outcomes, the first one first. -/
  toList : List BranchStatus
deriving DecidableEq, Repr

namespace Outcomes

instance : Zero Outcomes := ⟨⟨[]⟩⟩

/-- Later outcomes follow earlier ones. -/
instance : Add Outcomes := ⟨fun a b => ⟨a.toList ++ b.toList⟩⟩

@[simp]
theorem toList_zero : (0 : Outcomes).toList = [] := rfl

@[simp]
theorem toList_add (a b : Outcomes) :
    (a + b).toList = a.toList ++ b.toList := rfl

theorem add_assoc (a b c : Outcomes) : a + b + c = a + (b + c) := by
  ext1
  simp only [toList_add, List.append_assoc]

end Outcomes

-- ============================================================== files

/-- Everything known about one source file. -/
@[ext]
structure FileData where
  /-- The name that the file goes by. -/
  name : String
  /-- Hits of each line. -/
  lines : Ledger Nat Count := ∅
  /-- The functions, by name. -/
  functions : Ledger String FunctionData := ∅
  /-- Outcomes of the branches of each line. -/
  branches : Ledger Nat Outcomes := ∅
  /-- Hits of each region. -/
  regions : Ledger Region Count := ∅

namespace FileData

/-- A file about which nothing is known but its name. -/
def empty (name : String) : FileData where
  name := name

/-- Adds hits to a line. -/
def addLine (d : FileData) (line : Nat) (hits : Count) : FileData :=
  { d with lines := d.lines.post line hits }

/-- Adds hits to a function, and its start line if none is known yet. -/
def addFunction (d : FileData) (name : String) (start : Nat)
    (hits : Count) : FileData :=
  { d with functions := d.functions.post name ⟨start, hits⟩ }

/-- Adds the outcome of one more branch on a line. -/
def addBranch (d : FileData) (line : Nat) (status : BranchStatus) :
    FileData :=
  { d with branches := d.branches.post line ⟨[status]⟩ }

/-- Adds hits to a region. -/
def addRegion (d : FileData) (region : Region) (hits : Count) :
    FileData :=
  { d with regions := d.regions.post region hits }

/-- Adds all data of another file; the name stays. -/
def merge (d e : FileData) : FileData where
  name := d.name
  lines := d.lines.merge e.lines
  functions := d.functions.merge e.functions
  branches := d.branches.merge e.branches
  regions := d.regions.merge e.regions

-- ============================================================= ratios

/-- Lines that were hit. -/
def lineRatio (d : FileData) : Ratio :=
  .countIn Count.isHit d.lines.values

/-- Functions that were hit. -/
def functionRatio (d : FileData) : Ratio :=
  .countIn (·.hits.isHit) d.functions.values

/-- Branches that were taken. -/
def branchRatio (d : FileData) : Ratio :=
  .countIn (· == .taken) (d.branches.values.flatMap (·.toList))

/-- Regions that were hit. -/
def regionRatio (d : FileData) : Ratio :=
  .countIn Count.isHit d.regions.values

-- ================================================== lines from regions

/-- The hits of all lines that regions touch: each line gets the hits of
every region that touches it. -/
def regionLines (d : FileData) : Ledger Nat Count :=
  d.regions.foldl
    (fun m region hits => region.lines.foldl (·.post · hits) m) ∅

/-- Derives the lines from the regions. Refuses when there are lines
already, since they would be counted twice. -/
def deriveLines (d : FileData) : Except Fault FileData :=
  if d.lines.isEmpty then .ok { d with lines := d.regionLines }
  else .error (.linesPresent d.name)

end FileData

end Coverage
