/-
What data come to. A file that data are added to one after the other
holds, of each kind, the sum of what was added, and says nothing of a
line, function or region that no datum is about.

The sums are known in closed form. Hits are cut off at their limit after
every addition, but it is as good to add up the exact numbers and cut
off once (`Count.sum_eq`). Of start lines the first that is known stays
(`FunctionData.sum_eq`), and outcomes stand in the order in which they
came (`Outcomes.sum_eq`).

# How it is proved

What one datum adds to a ledger at a key is known
(`getElem?_lines_add` and its likes). All of them then add the sum of
these parts, by induction over the data (`sum_addAll`); that sums may be
bracketed at will is all that this needs.
-/
import Mathlib.Algebra.BigOperators.Group.List.Basic
import Coverage.Proofs.FileSet

namespace Coverage

-- ================================================================= sums

/-- The count of all hits that the counts stand for: the exact sum, cut
off at the limit. -/
def Count.total (cs : List Count) : Count :=
  .saturate ((cs.map Count.toNat).foldr (· + ·) 0)

/-- Cutting off once is as good as at every addition. -/
theorem Count.sum_eq (cs : List Count) : cs.sum = Count.total cs := by
  induction cs with
  | nil => rfl
  | cons c cs ih =>
      rw [List.sum_cons, ih]
      ext
      simp only [total, toNat_add, toNat_saturate, List.map_cons,
        List.foldr_cons]
      omega

/-- Where the function starts, by the first that knows it, and its hits
added up. -/
def FunctionData.total (fs : List FunctionData) : FunctionData where
  start := ((fs.map FunctionData.start).find? (· ≠ 0)).getD 0
  hits := Count.total (fs.map FunctionData.hits)

theorem FunctionData.sum_eq (fs : List FunctionData) :
    fs.sum = FunctionData.total fs := by
  induction fs with
  | nil => rfl
  | cons f fs ih =>
      rw [List.sum_cons, ih]
      ext1
      · rw [start_add]
        by_cases h0 : f.start = 0
        · simp [total, h0]
        · simp [total, h0]
      · rw [hits_add]
        show f.hits + Count.total _ = Count.total (f.hits :: fs.map hits)
        rw [← Count.sum_eq, ← Count.sum_eq, List.sum_cons]

theorem Outcomes.sum_eq (statuses : List BranchStatus) :
    (statuses.map fun status => (⟨[status]⟩ : Outcomes)).sum
      = ⟨statuses⟩ := by
  induction statuses with
  | nil => rfl
  | cons status rest ih =>
      rw [List.map_cons, List.sum_cons, ih]
      rfl

/-- What the values come to if there are any. -/
def ifAny {V W : Type} (f : List V → W) (vs : List V) : Option W :=
  if vs = [] then none else some (f vs)

section AddMonoid

variable {V : Type} [AddMonoid V]

/-- A value in front of others is added to their sum. -/
theorem merge_some_ifAny_sum (v : V) (vs : List V) :
    Option.merge (· + ·) (some v) (ifAny List.sum vs)
      = ifAny List.sum (v :: vs) := by
  by_cases h : vs = []
  · simp [ifAny, h]
  · simp [ifAny, h]

/-- Parts that are put together one by one come to the sum of those that
are there. -/
theorem foldl_merge_eq_ifAny {α : Type} (part : α → Option V)
    (as : List α) :
    (as.map part).foldl (Option.merge (· + ·)) none
      = ifAny List.sum (as.filterMap part) := by
  induction as with
  | nil => rfl
  | cons a as ih =>
      rw [List.map_cons, List.foldl_cons, Option.merge_none_left,
        foldl_merge, ih]
      cases ha : part a with
      | none => rw [Option.merge_none_left, List.filterMap_cons_none ha]
      | some v => rw [List.filterMap_cons_some ha, merge_some_ifAny_sum]

end AddMonoid

-- ================================================================ parts

namespace Datum

/-- The hits that the datum gives the line. -/
def lineHits (line : Nat) : Datum → Option Count
  | .line n hits => if n = line then some hits else none
  | _ => none

/-- What the datum tells of the function. -/
def functionPart (name : String) : Datum → Option FunctionData
  | .function g start hits => if g = name then some ⟨start, hits⟩ else none
  | _ => none

/-- The outcome that the datum gives a branch of the line. -/
def status (line : Nat) : Datum → Option BranchStatus
  | .branch n status => if n = line then some status else none
  | _ => none

/-- The hits that the datum gives the region. -/
def regionHits (region : Region) : Datum → Option Count
  | .region r hits => if r = region then some hits else none
  | _ => none

end Datum

namespace FileData

/-- The file holds what the data come to, and nothing else. -/
structure ComesFrom (d : FileData) (xs : List Datum) : Prop where
  lines : ∀ line,
    d.lines[line]? = ifAny Count.total (xs.filterMap (Datum.lineHits line))
  functions : ∀ name, d.functions[name]?
    = ifAny FunctionData.total (xs.filterMap (Datum.functionPart name))
  branches : ∀ line, d.branches[line]?
    = ifAny Outcomes.mk (xs.filterMap (Datum.status line))
  regions : ∀ region, d.regions[region]?
    = ifAny Count.total (xs.filterMap (Datum.regionHits region))

/-- What each datum adds to is, after all of them, the sum of what they
add. -/
theorem sum_addAll {V : Type} [AddMonoid V] (look : FileData → Option V)
    (part : Datum → Option V)
    (h : ∀ d x, look (d.add x) = Option.merge (· + ·) (look d) (part x))
    (d : FileData) (xs : List Datum) :
    look (d.addAll xs) = Option.merge (· + ·) (look d)
      (ifAny List.sum (xs.filterMap part)) := by
  induction xs generalizing d with
  | nil => exact Option.merge_none_right.symm
  | cons x xs ih =>
      rw [addAll_cons, ih, h]
      refine (Std.Associative.assoc _ _ _).trans ?_
      congr 1
      cases hx : part x with
      | none => rw [List.filterMap_cons_none hx, Option.merge_none_left]
      | some v =>
          rw [List.filterMap_cons_some hx, merge_some_ifAny_sum]

section OneDatum

variable (d : FileData) (x : Datum)

/-- A datum adds to the line that it is about. -/
theorem getElem?_lines_add (line : Nat) :
    (d.add x).lines[line]?
      = Option.merge (· + ·) d.lines[line]? (x.lineHits line) := by
  cases x with
  | line n hits => exact Ledger.getElem?_post_eq_merge _ _ _ _
  | function g start hits => exact Option.merge_none_right.symm
  | branch n status => exact Option.merge_none_right.symm
  | region r hits => exact Option.merge_none_right.symm

/-- A datum adds to the function that it is about. -/
theorem getElem?_functions_add (name : String) :
    (d.add x).functions[name]?
      = Option.merge (· + ·) d.functions[name]? (x.functionPart name) := by
  cases x with
  | line n hits => exact Option.merge_none_right.symm
  | function g start hits => exact Ledger.getElem?_post_eq_merge _ _ _ _
  | branch n status => exact Option.merge_none_right.symm
  | region r hits => exact Option.merge_none_right.symm

/-- A datum adds an outcome to the line that it is about. -/
theorem getElem?_branches_add (line : Nat) :
    (d.add x).branches[line]?
      = Option.merge (· + ·) d.branches[line]?
          ((x.status line).map fun status => ⟨[status]⟩) := by
  cases x with
  | line n hits => exact Option.merge_none_right.symm
  | function g start hits => exact Option.merge_none_right.symm
  | branch n status =>
      refine (Ledger.getElem?_post_eq_merge _ _ _ _).trans ?_
      congr 1
      by_cases hn : n = line
      · rw [if_pos hn, Datum.status, if_pos hn]
        rfl
      · rw [if_neg hn, Datum.status, if_neg hn]
        rfl
  | region r hits => exact Option.merge_none_right.symm

/-- A datum adds to the region that it is about. -/
theorem getElem?_regions_add (region : Region) :
    (d.add x).regions[region]?
      = Option.merge (· + ·) d.regions[region]? (x.regionHits region) := by
  cases x with
  | line n hits => exact Option.merge_none_right.symm
  | function g start hits => exact Option.merge_none_right.symm
  | branch n status => exact Option.merge_none_right.symm
  | region r hits => exact Ledger.getElem?_post_eq_merge _ _ _ _

end OneDatum

/-- The second file holds what the first does, and what the data come
to. -/
structure Gains (d : FileData) (xs : List Datum) (e : FileData) : Prop where
  lines : ∀ line, e.lines[line]? = Option.merge (· + ·) d.lines[line]?
    (ifAny Count.total (xs.filterMap (Datum.lineHits line)))
  functions : ∀ name,
    e.functions[name]? = Option.merge (· + ·) d.functions[name]?
      (ifAny FunctionData.total (xs.filterMap (Datum.functionPart name)))
  branches : ∀ line,
    e.branches[line]? = Option.merge (· + ·) d.branches[line]?
      (ifAny Outcomes.mk (xs.filterMap (Datum.status line)))
  regions : ∀ region,
    e.regions[region]? = Option.merge (· + ·) d.regions[region]?
      (ifAny Count.total (xs.filterMap (Datum.regionHits region)))

/-- A file to which data are added gains what they come to. -/
theorem gains_addAll (d : FileData) (xs : List Datum) :
    d.Gains xs (d.addAll xs) := by
  constructor
  · intro line
    have hsum := sum_addAll (·.lines[line]?) (Datum.lineHits line)
      (getElem?_lines_add · · line) d xs
    rwa [funext Count.sum_eq] at hsum
  · intro g
    have hsum := sum_addAll (·.functions[g]?) (Datum.functionPart g)
      (getElem?_functions_add · · g) d xs
    rwa [funext FunctionData.sum_eq] at hsum
  · intro line
    have hsum := sum_addAll (·.branches[line]?) _
      (getElem?_branches_add · · line) d xs
    rw [← List.map_filterMap] at hsum
    refine hsum.trans ?_
    simp only [ifAny, List.map_eq_nil_iff, Outcomes.sum_eq]
  · intro region
    have hsum := sum_addAll (·.regions[region]?) (Datum.regionHits region)
      (getElem?_regions_add · · region) d xs
    rwa [funext Count.sum_eq] at hsum

/-- A file to which data were added holds what they come to. -/
theorem comesFrom_addAll (name : String) (xs : List Datum) :
    ((empty name).addAll xs).ComesFrom xs := by
  -- before any datum there is nothing in any of the ledgers
  have hempty : ∀ {K V : Type} [Ord K] [Std.TransOrd K] [AddMonoid V]
      (k : K) (o : Option V),
      Option.merge (· + ·) (∅ : Ledger K V)[k]? o = o := by
    intro K V _ _ _ k o
    rw [Std.ExtTreeMap.getElem?_empty, Option.merge_none_left]
  have hgains := gains_addAll (empty name) xs
  constructor
  · intro line
    exact (hgains.lines line).trans (hempty line _)
  · intro g
    exact (hgains.functions g).trans (hempty g _)
  · intro line
    exact (hgains.branches line).trans (hempty line _)
  · intro region
    exact (hgains.regions region).trans (hempty region _)

end FileData

-- ================================================================ folds

/-- Parts that do the same may be exchanged one by one. -/
theorem foldl_flatMap_congr {α β γ : Type} {op : β → γ → β}
    {f g : α → List γ} (h : ∀ a b, (f a).foldl op b = (g a).foldl op b)
    (as : List α) (b : β) :
    (as.flatMap f).foldl op b = (as.flatMap g).foldl op b := by
  induction as generalizing b with
  | nil => rfl
  | cons a as ih =>
      rw [List.flatMap_cons, List.flatMap_cons, List.foldl_append,
        List.foldl_append, h, ih]

-- ================================================== edits of one file

/-- What the edit adds to the file. -/
def Edit.datumFor (name : String) : Edit → Option Datum
  | .touch _ => none
  | .add file x => if file = name then some x else none

namespace FileSet

theorem getOrEmpty_update (S : FileSet) (name n : String)
    (f : FileData → FileData) :
    (S.update name f).getOrEmpty n
      = if name = n then f (S.getOrEmpty n) else S.getOrEmpty n := by
  rw [getOrEmpty, get?_update]
  by_cases hn : name = n
  · rw [if_pos hn, if_pos hn, hn]
    rfl
  · rw [if_neg hn, if_neg hn]
    rfl

/-- Edits add to a file the data that are for it, in order. -/
theorem getOrEmpty_applyAll (S : FileSet) (es : List Edit) (n : String) :
    (S.applyAll es).getOrEmpty n
      = (S.getOrEmpty n).addAll (es.filterMap (Edit.datumFor n)) := by
  induction es generalizing S with
  | nil => rfl
  | cons e es ih =>
      rw [applyAll_cons, ih]
      cases e with
      | touch file =>
          have hsame : (S.apply (.touch file)).getOrEmpty n
              = S.getOrEmpty n := by
            refine (getOrEmpty_update S file n id).trans ?_
            split <;> rfl
          rw [hsame]
          rfl
      | add file x =>
          have hadd := getOrEmpty_update S file n (·.add x)
          change (S.apply (.add file x)).getOrEmpty n = _ at hadd
          rw [hadd]
          by_cases hn : file = n
          · have hfor : (Edit.add file x).datumFor n = some x := if_pos hn
            rw [if_pos hn, List.filterMap_cons_some hfor]
            rfl
          · have hfor : (Edit.add file x).datumFor n = none := if_neg hn
            rw [if_neg hn, List.filterMap_cons_none hfor]

/-- Two changes of one file are one change. -/
theorem update_update (S : FileSet) (name : String)
    (f g : FileData → FileData) :
    (S.update name f).update name g = S.update name fun d => g (f d) := by
  have hmade : (S.update name f).getOrEmpty name
      = f (S.getOrEmpty name) := by
    rw [getOrEmpty, get?_update, if_pos rfl]
    rfl
  refine ext_get? fun n => ?_
  rw [get?_update, get?_update, get?_update, hmade]
  split
  · rfl
  · rfl

/-- The data of one file are one change of it. -/
theorem applyAll_map_add (S : FileSet) (file : String)
    (f : FileData → FileData) (xs : List Datum) :
    (S.update file f).applyAll (xs.map (.add file))
      = S.update file fun d => (f d).addAll xs := by
  induction xs generalizing f with
  | nil => rfl
  | cons x xs ih =>
      rw [List.map_cons, applyAll_cons, apply, update_update, ih]
      rfl

end FileSet

end Coverage
