/-
The laws of merging files. A file is a name and four ledgers, and
merging leaves the name and merges the ledgers, so the laws of ledgers
are the laws of files: merging is associative, and a file without data
changes nothing.

Whatever is learnt about a file could as well be learnt about a file
without data that is merged in afterwards (`add_eq_merge`). This is the
step behind everything that is said of decoding into a set.
-/
import Coverage.Journal
import Coverage.Proofs.Ledger

namespace Coverage.FileData

variable (d e f : FileData)

-- ================================================== laws of merging

@[simp]
theorem name_add (x : Datum) : (d.add x).name = d.name := by
  cases x <;> rfl

/-- Merging is associative. -/
theorem merge_assoc : (d.merge e).merge f = d.merge (e.merge f) := by
  simp only [merge, Ledger.merge_assoc]

instance : Std.Associative merge := ⟨merge_assoc⟩

/-- A file without data changes nothing. -/
@[simp]
theorem merge_empty (name : String) : d.merge (empty name) = d := by
  simp only [merge, empty, Ledger.merge_empty]

/-- A file that is merged into one without data stays as it is. -/
@[simp]
theorem empty_merge : (empty d.name).merge d = d := by
  simp only [merge, empty, Ledger.empty_merge]

-- ==================================================== adding one datum

/-- Adding a datum is merging a file that has nothing else. -/
theorem add_eq_merge (name : String) (x : Datum) :
    d.add x = d.merge ((empty name).add x) := by
  cases x with
  | line line hits =>
      simp only [add, addLine, merge, empty, Ledger.merge_empty]
      rw [← Ledger.post_eq_merge]
  | function fn start hits =>
      simp only [add, addFunction, merge, empty, Ledger.merge_empty]
      rw [← Ledger.post_eq_merge]
  | branch line status =>
      simp only [add, addBranch, merge, empty, Ledger.merge_empty]
      rw [← Ledger.post_eq_merge]
  | region region hits =>
      simp only [add, addRegion, merge, empty, Ledger.merge_empty]
      rw [← Ledger.post_eq_merge]

/-- Adds data in order. -/
def addAll (xs : List Datum) : FileData := xs.foldl add d

theorem addAll_cons (x : Datum) (xs : List Datum) :
    d.addAll (x :: xs) = (d.add x).addAll xs := rfl

/-- Data may be added in parts. -/
theorem addAll_append (xs ys : List Datum) :
    d.addAll (xs ++ ys) = (d.addAll xs).addAll ys :=
  List.foldl_append

-- ====================================================== many at a time

/-- The files merged in the order of the list; none if there are none. -/
def mergeAll? (ds : List FileData) : Option FileData :=
  ds.foldl (fun merged d => Option.merge merge merged (some d)) none

/-- Merging onto a file that is there already merges the rest first. -/
theorem foldl_optionMerge (ds : List FileData) (o : Option FileData) :
    ds.foldl (fun merged d => Option.merge merge merged (some d)) o
      = Option.merge merge o (mergeAll? ds) := by
  have hfold : (ds.map some).foldl (Option.merge merge) o
      = Option.merge merge o
          ((ds.map some).foldl (Option.merge merge) none) :=
    foldl_merge _ o
  rwa [List.foldl_map, List.foldl_map] at hfold

@[simp]
theorem mergeAll?_nil : mergeAll? [] = none := rfl

theorem mergeAll?_cons (ds : List FileData) :
    mergeAll? (d :: ds) = Option.merge merge (some d) (mergeAll? ds) := by
  rw [mergeAll?, List.foldl_cons, foldl_optionMerge,
    Option.merge_none_left]

/-- Files may be merged in parts. -/
theorem mergeAll?_append (ds es : List FileData) :
    mergeAll? (ds ++ es)
      = Option.merge merge (mergeAll? ds) (mergeAll? es) := by
  rw [mergeAll?, List.foldl_append, foldl_optionMerge]
  rfl

/-- Some file comes out if some go in. -/
theorem isSome_mergeAll? (ds : List FileData) :
    (mergeAll? ds).isSome ↔ ds ≠ [] := by
  cases ds with
  | nil => simp
  | cons d ds =>
      rw [mergeAll?_cons, Option.isSome_merge]
      simp

/-- Files of one name merge into a file of that name. -/
theorem name_of_mergeAll? {ds : List FileData} {name : String}
    {d : FileData} (hds : ∀ e ∈ ds, e.name = name)
    (h : mergeAll? ds = some d) : d.name = name := by
  cases ds with
  | nil => cases h
  | cons e es =>
      have he := hds e List.mem_cons_self
      rw [mergeAll?_cons] at h
      cases hes : mergeAll? es with
      | none =>
          rw [hes, Option.merge_none_right] at h
          cases h
          exact he
      | some rest =>
          rw [hes, Option.merge_some_some] at h
          cases h
          exact he

end Coverage.FileData
