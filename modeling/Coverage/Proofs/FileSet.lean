/-
Sets of files, read name by name. For each operation on a set there is
one equation that says what the set holds under every name afterwards,
and `ext_get?` turns equal answers into equal sets; later modules use
these and do not open the operations again.

# Keyed sets

A set is `Keyed` when each file stands under its own name. Nothing in
the type asks for it, and a set made from the empty one by decoding,
inserting, renaming and filtering always is. For such a set going
through the files and going through the names is the same, and
`get?_insertMany_values` reads: inserting all files of one set into
another merges the two sets file by file.
-/
import Coverage.Proofs.FileData

namespace Coverage

/-- What an edit is about, as a file of its own. -/
def Edit.data : Edit → FileData
  | .touch file => .empty file
  | .add file datum => (FileData.empty file).add datum

@[simp]
theorem Edit.name_data (e : Edit) : e.data.name = e.file := by
  cases e with
  | touch file => rfl
  | add file datum => exact FileData.name_add _ datum

namespace FileSet

variable (S T : FileSet)

-- ======================================================= extensionality

/-- Two sets that hold the same under every name are equal. -/
theorem ext_get? {S T : FileSet} (h : ∀ n, S.get? n = T.get? n) :
    S = T := by
  ext1
  exact Std.ExtTreeMap.ext_getElem? fun {n} => h n

/-- The entries of a set are what it has under their names. -/
theorem mem_toList {n : String} {d : FileData} :
    (n, d) ∈ S.toList ↔ S.get? n = some d :=
  Std.ExtTreeMap.mem_toList_iff_getElem?_eq_some

/-- The names of a set are those that it has a file under. -/
theorem mem_names {n : String} : n ∈ S.names ↔ ∃ d, S.get? n = some d := by
  rw [names, Std.ExtTreeMap.mem_keys, Std.ExtTreeMap.mem_iff_isSome_getElem?,
    Option.isSome_iff_exists]
  rfl

theorem contains_eq_isSome (n : String) :
    S.contains n = (S.get? n).isSome :=
  Std.ExtTreeMap.contains_eq_isSome_getElem?

/-- The names are those that stand before the files in the listing. -/
theorem names_eq_map_toList : S.names = S.toList.map Prod.fst :=
  Std.ExtTreeMap.map_fst_toList_eq_keys.symm

theorem values_eq_map_toList : S.values = S.toList.map Prod.snd :=
  Ledger.values_eq_map_toList S.files

/-- No name is listed twice. -/
theorem pairwise_ne_toList : S.toList.Pairwise fun a b => a.1 ≠ b.1 :=
  Ledger.pairwise_ne_toList S.files

/-- The listing of a set is in the order of the names. -/
theorem pairwise_lt_toList : S.toList.Pairwise fun a b => a.1 < b.1 :=
  Ledger.pairwise_lt_names S.files

-- =================================================== what a set holds

@[simp]
theorem get?_empty (n : String) : FileSet.empty.get? n = none :=
  Std.ExtTreeMap.getElem?_empty

/-- An update changes the file under one name, or makes it. -/
theorem get?_update (name n : String) (f : FileData → FileData) :
    (S.update name f).get? n
      = if name = n then some (f (S.getOrEmpty name)) else S.get? n := by
  unfold update get?
  rw [Std.ExtTreeMap.getElem?_alter]
  simp only [Std.LawfulEqOrd.compare_eq_iff_eq]
  rfl

/-- A change that works on every file as merging one file does is an
insertion of that file. -/
theorem get?_update_eq_merge (S : FileSet) (name n : String)
    {f : FileData → FileData}
    (hf : ∀ d, f d = d.merge (f (.empty name))) :
    (S.update name f).get? n
      = if name = n then
          Option.merge .merge (S.get? n) (some (f (.empty name)))
        else S.get? n := by
  rw [get?_update]
  by_cases hn : name = n
  · rw [if_pos hn, if_pos hn, ← hn]
    unfold getOrEmpty
    cases S.get? name with
    | none => rfl
    | some d => exact congrArg some (hf d)
  · rw [if_neg hn, if_neg hn]

/-- A file is merged into the one of its name, if there is one. -/
theorem get?_insert (d : FileData) (n : String) :
    (S.insert d).get? n
      = if d.name = n then Option.merge .merge (S.get? n) (some d)
        else S.get? n := by
  unfold insert get?
  rw [Std.ExtTreeMap.getElem?_alter]
  simp only [Std.LawfulEqOrd.compare_eq_iff_eq]
  split
  · next hn =>
      rw [hn]
      cases S.files[n]? <;> rfl
  · rfl

/-- What is erased is gone, and nothing else. -/
theorem get?_erase (name n : String) :
    (S.erase name).get? n = if name = n then none else S.get? n := by
  unfold erase get?
  rw [Std.ExtTreeMap.getElem?_erase]
  simp only [Std.LawfulEqOrd.compare_eq_iff_eq]

/-- A file is kept or dropped by its own name and data. -/
theorem get?_filter (keep : String → FileData → Bool) (n : String) :
    (S.filter keep).get? n = (S.get? n).filter (keep n) := by
  unfold filter get?
  rw [Std.ExtTreeMap.getElem?_filter']

/-- Files that are kept by their names stand where they stood. -/
theorem get?_filter_name (keep : String → Bool) (n : String) :
    (S.filter fun name _ => keep name).get? n
      = if keep n then S.get? n else none := by
  rw [get?_filter]
  cases keep n with
  | true => cases S.get? n <;> rfl
  | false => cases S.get? n <;> rfl

/-- Inserting files one after the other merges, under each name, those
that go by it. -/
theorem get?_insertMany (ds : List FileData) (n : String) :
    (S.insertMany ds).get? n
      = Option.merge .merge (S.get? n)
          (FileData.mergeAll? (ds.filter (·.name = n))) := by
  induction ds generalizing S with
  | nil =>
      rw [List.filter_nil, FileData.mergeAll?_nil, Option.merge_none_right]
      rfl
  | cons d ds ih =>
      rw [insertMany, List.foldl_cons, ← insertMany, ih, get?_insert]
      by_cases hn : d.name = n
      · rw [if_pos hn, List.filter_cons_of_pos (by simpa using hn),
          FileData.mergeAll?_cons,
          (Option.associative_merge FileData.merge).assoc]
      · rw [if_neg hn, List.filter_cons_of_neg (by simpa using hn)]

-- ================================================================ edits

/-- Making an edit is inserting a file that has nothing but what was
learnt. -/
theorem apply_eq_insert (e : Edit) :
    S.apply e = S.insert e.data := by
  refine ext_get? fun n => ?_
  rw [get?_insert, Edit.name_data]
  cases e with
  | touch file =>
      exact get?_update_eq_merge S file n fun d =>
        (FileData.merge_empty d file).symm
  | add file datum =>
      exact get?_update_eq_merge S file n fun d =>
        FileData.add_eq_merge d file datum

/-- Making edits is inserting files, one for each edit. -/
theorem applyAll_eq_insertMany_data (edits : List Edit) :
    S.applyAll edits = S.insertMany (edits.map Edit.data) := by
  induction edits generalizing S with
  | nil => rfl
  | cons e es ih =>
      rw [applyAll_cons, ih, apply_eq_insert]
      rfl

/-- Edits merge into the file of each name what they are about that
name. -/
theorem get?_applyAll (edits : List Edit) (n : String) :
    (S.applyAll edits).get? n
      = Option.merge .merge (S.get? n)
          (FileData.mergeAll?
            ((edits.map Edit.data).filter (·.name = n))) := by
  rw [applyAll_eq_insertMany_data, get?_insertMany]

/-- After edits there are the files of before and those that the edits
are about. -/
theorem mem_names_applyAll_iff (es : List Edit) (n : String) :
    n ∈ (S.applyAll es).names ↔ n ∈ S.names ∨ ∃ e ∈ es, e.file = n := by
  have habout : (FileData.mergeAll?
        ((es.map Edit.data).filter (·.name = n))).isSome
      ↔ ∃ e ∈ es, e.file = n := by
    rw [FileData.isSome_mergeAll?]
    constructor
    · intro hne
      obtain ⟨d, hd⟩ := List.exists_mem_of_ne_nil _ hne
      obtain ⟨hd, hn⟩ := List.mem_filter.1 hd
      obtain ⟨e, he, rfl⟩ := List.mem_map.1 hd
      rw [decide_eq_true_eq, Edit.name_data] at hn
      exact ⟨e, he, hn⟩
    · rintro ⟨e, he, rfl⟩
      refine List.ne_nil_of_mem (List.mem_filter.2
        ⟨List.mem_map_of_mem he, ?_⟩)
      rw [decide_eq_true_eq, Edit.name_data]
  rw [mem_names, mem_names, ← Option.isSome_iff_exists,
    ← Option.isSome_iff_exists, get?_applyAll, ← habout]
  cases S.get? n with
  | none => simp
  | some d =>
      refine iff_of_true ?_ (Or.inl rfl)
      cases FileData.mergeAll? _ <;> rfl

/-- Edits make the files that they are about. -/
theorem mem_names_applyAll (es : List Edit) (n : String) :
    n ∈ (FileSet.empty.applyAll es).names ↔ ∃ e ∈ es, e.file = n := by
  rw [mem_names_applyAll_iff]
  refine or_iff_right fun hn => ?_
  obtain ⟨d, hd⟩ := (mem_names _).1 hn
  rw [get?_empty] at hd
  cases hd

-- =========================================================== keyed sets

/-- Each file stands under its own name. -/
def Keyed : Prop := ∀ n d, S.get? n = some d → d.name = n

variable {S T}

/-- The empty set has no file under another name. -/
theorem Keyed.empty : Keyed FileSet.empty := by
  intro n d hd
  rw [get?_empty] at hd
  cases hd

/-- A file is inserted under its own name. -/
theorem Keyed.insert (hS : S.Keyed) (d : FileData) : (S.insert d).Keyed := by
  intro n e he
  rw [get?_insert] at he
  split at he
  · next hn =>
      cases hold : S.get? n with
      | none =>
          rw [hold, Option.merge_none_left] at he
          cases he
          exact hn
      | some old =>
          rw [hold, Option.merge_some_some] at he
          cases he
          exact hS n old hold
  · exact hS n e he

/-- So are several files. -/
theorem Keyed.insertMany (hS : S.Keyed) (ds : List FileData) :
    (S.insertMany ds).Keyed := by
  induction ds generalizing S with
  | nil => exact hS
  | cons d ds ih => exact ih (hS.insert d)

/-- Edits leave every file under its own name. -/
theorem Keyed.applyAll (hS : S.Keyed) (edits : List Edit) :
    (S.applyAll edits).Keyed := by
  rw [applyAll_eq_insertMany_data]
  exact hS.insertMany _

-- ================================================ one set into another

/-- Of entries with distinct keys at most one has a given key. -/
theorem filter_toList_eq (S : FileSet) (n : String) :
    S.toList.filter (·.1 = n) = ((S.get? n).map (n, ·)).toList := by
  have hmem : ∀ p, p ∈ S.toList.filter (·.1 = n)
      ↔ p.1 = n ∧ S.get? n = some p.2 := by
    rintro ⟨m, d⟩
    rw [List.mem_filter, mem_toList, decide_eq_true_eq]
    constructor
    · rintro ⟨hd, rfl⟩
      exact ⟨rfl, hd⟩
    · rintro ⟨rfl, hd⟩
      exact ⟨hd, rfl⟩
  have hsub := (pairwise_ne_toList S).filter (·.1 = n)
  generalize S.toList.filter (·.1 = n) = found at hmem hsub
  match found with
  | [] =>
      cases hd : S.get? n with
      | none => rfl
      | some d => exact absurd ((hmem (n, d)).2 ⟨rfl, hd⟩) (by simp)
  | [(m, d)] =>
      obtain ⟨rfl, hd⟩ := (hmem (m, d)).1 (by simp)
      rw [hd]
      rfl
  | p :: q :: rest =>
      have hp := ((hmem p).1 (by simp)).1
      have hq := ((hmem q).1 (by simp)).1
      have hne := (List.pairwise_cons.1 hsub).1 q (by simp)
      exact absurd (hp.trans hq.symm) hne

/-- In a keyed set the files of a name are the one that stands there. -/
theorem Keyed.filter_values (hT : T.Keyed) (n : String) :
    T.values.filter (·.name = n) = (T.get? n).toList := by
  have hname : ∀ p ∈ T.toList, p.2.name = p.1 := fun p hp =>
    hT p.1 p.2 ((mem_toList T).1 hp)
  rw [values_eq_map_toList, List.filter_map]
  have hsame : T.toList.filter ((fun d => decide (d.name = n)) ∘ Prod.snd)
      = T.toList.filter (·.1 = n) :=
    List.filter_congr fun p hp => by
      rw [Function.comp_apply, hname p hp]
  rw [hsame, filter_toList_eq]
  cases T.get? n <;> rfl

/-- Inserting all files of a keyed set merges the two sets, file by
file. -/
theorem get?_insertMany_values (S : FileSet) (hT : T.Keyed) (n : String) :
    (S.insertMany T.values).get? n
      = Option.merge .merge (S.get? n) (T.get? n) := by
  rw [get?_insertMany, hT.filter_values]
  cases T.get? n <;> rfl

end FileSet

end Coverage
