/-
What an input asks of a set of files. Reading an input never looks at
the set. It yields a journal: edits in the order of the input, and the
fault that stopped it, if one did. Applying the journal to a set is a
step of its own, so what an input contributes, and whether it fails,
cannot depend on what was there before.
-/
import Coverage.FileSet

namespace Coverage

-- ============================================================== edits

/-- Something learnt about one file. -/
inductive Datum
  | line (line : Nat) (hits : Count)
  | function (name : String) (start : Nat) (hits : Count)
  | branch (line : Nat) (status : BranchStatus)
  | region (region : Region) (hits : Count)
deriving DecidableEq

/-- Adds what was learnt to the file. -/
def FileData.add (d : FileData) : Datum → FileData
  | .line line hits => d.addLine line hits
  | .function name start hits => d.addFunction name start hits
  | .branch line status => d.addBranch line status
  | .region region hits => d.addRegion region hits

/-- One change to a set of files. -/
inductive Edit
  /-- The file is known from here on. -/
  | touch (file : String)
  /-- Something was learnt about the file. -/
  | add (file : String) (datum : Datum)
deriving DecidableEq

/-- The file that an edit is about. -/
def Edit.file : Edit → String
  | .touch file => file
  | .add file _ => file

namespace FileSet

/-- Makes one edit. -/
def apply (S : FileSet) : Edit → FileSet
  | .touch file => S.touch file
  | .add file datum => S.update file (·.add datum)

/-- Makes edits one after the other. -/
def applyAll (S : FileSet) (edits : List Edit) : FileSet :=
  edits.foldl apply S

@[simp]
theorem applyAll_nil (S : FileSet) : S.applyAll [] = S := rfl

@[simp]
theorem applyAll_cons (S : FileSet) (e : Edit) (es : List Edit) :
    S.applyAll (e :: es) = (S.apply e).applyAll es := rfl

theorem applyAll_append (S : FileSet) (es fs : List Edit) :
    S.applyAll (es ++ fs) = (S.applyAll es).applyAll fs :=
  List.foldl_append

end FileSet

-- =========================================================== journals

/-- The edits an input asks for, and the fault that stopped it. -/
structure Journal where
  /-- The edits, in the order of the input. -/
  edits : List Edit
  /-- What stopped the reading, if anything did. -/
  fault : Option Fault

namespace Journal

/-- An input that asks for nothing and fails. -/
def failed (fault : Fault) : Journal := ⟨[], some fault⟩

/-- Walks through steps with the edits found so far in reverse. -/
private def collectFrom (found : List Edit) :
    List (Except Fault Edit) → Journal
  | [] => ⟨found.reverse, none⟩
  | .ok e :: rest => collectFrom (e :: found) rest
  | .error fault :: _ => ⟨found.reverse, some fault⟩

/-- The edits before the first step that fails, and its fault. -/
def ofSteps (steps : List (Except Fault Edit)) : Journal :=
  collectFrom [] steps

private theorem collectFrom_eq (found : List Edit)
    (steps : List (Except Fault Edit)) :
    collectFrom found steps
      = ⟨found.reverse ++ (ofSteps steps).edits, (ofSteps steps).fault⟩ := by
  induction steps generalizing found with
  | nil => simp [collectFrom, ofSteps]
  | cons step rest ih =>
    cases step with
    | error fault => simp [collectFrom, ofSteps]
    | ok e =>
      simp only [ofSteps, collectFrom]
      rw [ih (e :: found), ih [e]]
      simp

@[simp]
theorem ofSteps_nil : ofSteps [] = ⟨[], none⟩ := rfl

@[simp]
theorem ofSteps_error (fault : Fault) (rest : List (Except Fault Edit)) :
    ofSteps (.error fault :: rest) = failed fault := rfl

@[simp]
theorem ofSteps_ok (e : Edit) (rest : List (Except Fault Edit)) :
    ofSteps (.ok e :: rest)
      = ⟨e :: (ofSteps rest).edits, (ofSteps rest).fault⟩ := by
  rw [ofSteps, collectFrom, collectFrom_eq]
  rfl

end Journal

/-- Makes the edits of a journal; its fault is reported beside the set
that they leave. -/
def FileSet.record (S : FileSet) (j : Journal) : FileSet × Option Fault :=
  (S.applyAll j.edits, j.fault)

end Coverage
