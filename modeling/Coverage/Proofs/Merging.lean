/-
The algebra of merging files. Merging is associative, and a file without
data changes nothing, whichever of the two is merged into the other: files
of one name form a monoid. Nothing is lost at the edges. A line with zero
hits, a function whose start is not known and a line with no outcomes are
entries like any other, and stay.

Two files merged in the other order differ in what order may show, and in
nothing else: the outcomes of a line follow one another the other way
round, and where both know where a function starts, the first one decides.

A set takes in a file by merging it into the file of its name, and it makes
no difference whether that one was there or was made for the purpose. So a
set made of a list holds under each name its files of that name, merged
from left to right.

# How it is proved

The laws of merging are the laws of ledgers. Tallies commute, which leaves
the starts: the sum of two functions does not show which came first just
when at most one start is known (`FunctionData.start_add_comm_iff`). Sets
are compared name by name.
-/
import Coverage.Proofs.Agreement

namespace Coverage

-- ==================================================== the order of files

/-- Which of two functions comes first shows in the start of their sum, but
only if they start at different lines and both of them are known. -/
theorem FunctionData.start_add_comm_iff (a b : FunctionData) :
    (a + b).start = (b + a).start
      ↔ a.start = 0 ∨ b.start = 0 ∨ a.start = b.start := by
  rw [start_add, start_add]
  by_cases ha : a.start = 0
  · by_cases hb : b.start = 0
    · simp [ha, hb]
    · simp [ha, hb]
  · by_cases hb : b.start = 0
    · simp [ha, hb]
    · simp [ha, hb]

namespace FileData

variable (d e : FileData)

/-- Merged in the other order, the files have the same counts, under the
name of the other. -/
theorem sameCounts_merge_comm :
    (d.merge e).SameCounts { e.merge d with name := d.name } := by
  refine sameCounts_of_tally rfl ?_
  calc (d.merge e).tally
      = d.tally.merge e.tally := tally_merge d e
    _ = e.tally.merge d.tally := Tally.merge_comm _ _
    _ = (e.merge d).tally := (tally_merge e d).symm

/-- Which file comes first shows in where a function starts, but only if
both files know it and they differ. -/
theorem startOf_merge_comm_iff (g : String) :
    (d.merge e).startOf g = (e.merge d).startOf g
      ↔ d.startOf g = 0 ∨ e.startOf g = 0
        ∨ d.startOf g = e.startOf g := by
  have hsum : ∀ a b : FileData, (a.merge b).startOf g
      = (a.functions[g]?.getD 0 + b.functions[g]?.getD 0).start :=
    fun a b => a.startOf_merge b g
  rw [hsum, hsum]
  exact FunctionData.start_add_comm_iff _ _

-- ==================================================== from left to right

/-- Files merged from left to right, each into what those before it came
to; none if there are none. -/
def mergeInTurn? : List FileData → Option FileData
  | [] => none
  | d :: ds => some (ds.foldl merge d)

theorem mergeAll?_eq_mergeInTurn? (ds : List FileData) :
    mergeAll? ds = mergeInTurn? ds := by
  have hfold : ∀ (es : List FileData) (d : FileData),
      es.foldl (fun merged e => Option.merge merge merged (some e)) (some d)
        = some (es.foldl merge d) := by
    intro es
    induction es with
    | nil => exact fun d => rfl
    | cons e es ih => exact fun d => ih (d.merge e)
  cases ds with
  | nil => rfl
  | cons d ds =>
      rw [mergeAll?, List.foldl_cons, Option.merge_none_left, hfold]
      rfl

end FileData

-- ================================================================= sets

namespace FileSet

/-- Inserting a file is asking for the file of its name, which makes it if
there is none, and merging it into that. -/
theorem insert_eq_update (S : FileSet) (d : FileData) :
    S.insert d = S.update d.name (·.merge d) := by
  refine ext_get? fun n => ?_
  rw [get?_insert, get?_update_eq_merge]
  · rw [FileData.empty_merge]
  · intro e
    rw [FileData.empty_merge]

/-- A set made of a list holds, under each name, the files of that name,
merged. -/
theorem get?_ofList (ds : List FileData) (n : String) :
    (ofList ds).get? n = FileData.mergeAll? (ds.filter (·.name = n)) := by
  rw [ofList, get?_insertMany, get?_empty, Option.merge_none_left]

end FileSet

-- ======================================================== the statement

/-- Merging files is associative and has the files without data as its
neutral elements; exchanging two files shows in nothing but the order of
outcomes and in the starts of functions that start differently in the two.
Inserting a file into a set is merging it into the file of its name, and a
set made of a list holds what merging the files of each name from left to
right comes to. -/
theorem FileSet.merge_laws :
    (∀ d e f : FileData, (d.merge e).merge f = d.merge (e.merge f))
      ∧ (∀ (d : FileData) (name : String),
          d.merge (.empty name) = d ∧ (FileData.empty d.name).merge d = d)
      ∧ (∀ d e : FileData,
          (d.merge e).SameCounts { e.merge d with name := d.name }
            ∧ ∀ g, (d.merge e).startOf g = (e.merge d).startOf g
              ↔ d.startOf g = 0 ∨ e.startOf g = 0
                ∨ d.startOf g = e.startOf g)
      ∧ (∀ (S : FileSet) (d : FileData),
          S.insert d = S.update d.name (·.merge d))
      ∧ ∀ (ds : List FileData) (n : String),
          (ofList ds).get? n
            = FileData.mergeInTurn? (ds.filter (·.name = n)) := by
  refine ⟨FileData.merge_assoc, fun d name =>
      ⟨d.merge_empty name, d.empty_merge⟩, fun d e =>
      ⟨d.sameCounts_merge_comm e, d.startOf_merge_comm_iff e⟩,
    insert_eq_update, fun ds n => ?_⟩
  rw [get?_ofList, FileData.mergeAll?_eq_mergeInTurn?]

end Coverage
