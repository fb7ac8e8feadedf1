/-
Tallies of regrouped files. Files that are gathered under a name add up
to the tally of that name, and it does not matter how they came into the
set: whether each was inserted under its own name first and the names
were changed afterwards, or the other way round
(`map_tally_gathered_insertMany`). So regrouping two sets and merging
them has the tallies of merging them and regrouping
(`map_tally_gathered_merge`).

# How it is proved

The tally under a name is a total over the set: each file whose name
becomes it contributes its tally (`map_tally_gathered`). Inserting a file
changes one entry of the set, and the total by just that file.
-/
import Coverage.Proofs.Tally
import Coverage.Proofs.Totals

namespace Coverage

namespace FileSet

/-- All files of the second set are added to the first. -/
def merge (S T : FileSet) : FileSet := S.insertMany T.values

variable {S T : FileSet}

theorem get?_merge (S : FileSet) (hT : T.Keyed) (n : String) :
    (S.merge T).get? n = Option.merge .merge (S.get? n) (T.get? n) :=
  get?_insertMany_values S hT n

theorem Keyed.merge (hS : S.Keyed) (T : FileSet) : (S.merge T).Keyed :=
  hS.insertMany T.values

/-- A keyed set is what inserting its files makes. -/
theorem Keyed.insertMany_values (hS : S.Keyed) :
    FileSet.empty.insertMany S.values = S := by
  refine ext_get? fun n => ?_
  rw [get?_insertMany_values _ hS, get?_empty, Option.merge_none_left]

-- =================================================== tallies under a name

variable (f : String → String) (m : String)

/-- What a file contributes to the tally of a name: its own, if its name
becomes that one. -/
def tallyUnder (n : String) (d : FileData) : Option Tally :=
  if f n = m then some d.tally else none

/-- The tally under a name is the total of what the files contribute. -/
theorem map_tally_gathered (S : FileSet) :
    (S.gathered f m).map FileData.tally
      = totalOf Tally.merge (tallyUnder f m) S.files := by
  -- The file that stays comes first where names are gathered; for tallies
  -- the order does not matter.
  have hperm : (S.gathering f m).Perm
      ((S.toList.filter (f ·.1 = m)).map fun p => { p.2 with name := m }) := by
    have hsplit := List.filter_append_perm (fun p => decide (p.1 = m))
      (S.toList.filter (f ·.1 = m))
    rw [List.filter_filter, List.filter_filter] at hsplit
    refine List.Perm.map _ ?_
    simpa only [Bool.decide_and, decide_not, Bool.and_comm] using hsplit
  have hfold : ∀ (entries : List (String × FileData)) (t : Option Tally),
      ((entries.filter (f ·.1 = m)).map fun p =>
          { p.2 with name := m }).foldl FileData.tallyOnto t
        = (entries.map fun p => tallyUnder f m p.1 p.2).foldl
            (Option.merge Tally.merge) t := by
    intro entries
    induction entries with
    | nil => exact fun t => rfl
    | cons p rest ih =>
        intro t
        by_cases hp : f p.1 = m
        · rw [List.filter_cons_of_pos (by simpa using hp), List.map_cons,
            List.foldl_cons, ih, List.map_cons, List.foldl_cons,
            tallyUnder, if_pos hp]
          rfl
        · rw [List.filter_cons_of_neg (by simpa using hp), ih,
            List.map_cons, List.foldl_cons, tallyUnder, if_neg hp,
            Option.merge_none_right]
  rw [gathered, FileData.tally_mergeAll?_of_perm hperm,
    FileData.map_tally_mergeAll?, hfold]
  rfl

/-- An inserted file adds its tally to that of its new name. -/
theorem map_tally_gathered_insert (S : FileSet) (d : FileData) :
    ((S.insert d).gathered f m).map FileData.tally
      = Option.merge .merge ((S.gathered f m).map FileData.tally)
          (tallyUnder f m d.name d) := by
  rw [map_tally_gathered, map_tally_gathered]
  refine totalOf_alter S.files d.name ?_
  unfold tallyUnder
  cases S.files[d.name]? with
  | none =>
      rw [Option.bind_none, Option.merge_none_left]
      rfl
  | some old =>
      rw [Option.bind_some, Option.bind_some]
      split
      · rw [FileData.tally_merge]
        rfl
      · rfl

/-- Inserted files add up under the names that theirs become. -/
theorem map_tally_gathered_insertMany (S : FileSet) (ds : List FileData) :
    ((S.insertMany ds).gathered f m).map FileData.tally
      = Option.merge .merge ((S.gathered f m).map FileData.tally)
          ((FileData.mergeAll? (ds.filter (f ·.name = m))).map
            FileData.tally) := by
  induction ds generalizing S with
  | nil =>
      rw [List.filter_nil, FileData.mergeAll?_nil, Option.map_none,
        Option.merge_none_right]
      rfl
  | cons d ds ih =>
      rw [insertMany, List.foldl_cons, ← insertMany, ih,
        map_tally_gathered_insert, tallyUnder]
      by_cases hd : f d.name = m
      · rw [if_pos hd, List.filter_cons_of_pos (by simpa using hd),
          FileData.mergeAll?_cons, optionMap_merge FileData.tally_merge,
          (Option.associative_merge Tally.merge).assoc]
        rfl
      · rw [if_neg hd, List.filter_cons_of_neg (by simpa using hd),
          Option.merge_none_right]

/-- Nothing is gathered from the empty set. -/
theorem gathered_empty : FileSet.empty.gathered f m = none := by
  rw [← Option.not_isSome_iff_eq_none, isSome_gathered]
  rintro ⟨n, hn, -⟩
  obtain ⟨d, hd⟩ := (mem_names _).1 hn
  rw [get?_empty] at hd
  cases hd

/-- The tallies of two sets add up when the sets are merged. -/
theorem map_tally_gathered_merge (S : FileSet) (hT : T.Keyed) :
    ((S.merge T).gathered f m).map FileData.tally
      = Option.merge .merge ((S.gathered f m).map FileData.tally)
          ((T.gathered f m).map FileData.tally) := by
  have hvalues := map_tally_gathered_insertMany f m FileSet.empty T.values
  rw [hT.insertMany_values, gathered_empty, Option.map_none,
    Option.merge_none_left] at hvalues
  rw [merge, map_tally_gathered_insertMany, hvalues]

end FileSet

end Coverage
