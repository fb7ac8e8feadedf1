/-
Making names relative regroups the files. The set that `normalize`
leaves holds under every name the files whose names become that name,
merged: first the one that has the name already, then the others in the
order of their old names (`get?_normalize`).

# How it is proved

The renamings are found at first and then made one by one on the very
set that they were found in. This is harmless because the root is
absolute: a new name is never made relative again (`Stable`), so a file
that still waits for its new name is neither merged into nor taken away
by an earlier renaming. That is the invariant `Waiting`, and each
renaming keeps it for the entries that are left (`Waiting.rename`).
-/
import Coverage.Pipeline
import Coverage.Proofs.FileSet
import Coverage.Proofs.SourcePath

namespace Coverage.FileSet

-- ============================================================ gathering

/-- The files whose names become `m`, under that name: first the one
that keeps it, then the others in the order of their old names. -/
def gathering (S : FileSet) (f : String → String) (m : String) :
    List FileData :=
  (S.toList.filter (fun p => f p.1 = m ∧ p.1 = m)
    ++ S.toList.filter (fun p => f p.1 = m ∧ p.1 ≠ m)).map
      fun p => { p.2 with name := m }

/-- The files whose names become `m`, merged in that order. -/
def gathered (S : FileSet) (f : String → String) (m : String) :
    Option FileData :=
  FileData.mergeAll? (S.gathering f m)

/-- The name that files of the given name go by once names are relative
to the root. -/
def nameBelow (root : List Char) (n : String) : String :=
  (relativeName? root n).getD n

/-- The files that are gathered under a name are those whose names
become it, under that name. -/
theorem mem_gathering {S : FileSet} {f : String → String} {m : String}
    {e : FileData} :
    e ∈ S.gathering f m
      ↔ ∃ n d, S.get? n = some d ∧ f n = m ∧ e = { d with name := m } := by
  unfold gathering
  rw [List.mem_map]
  constructor
  · rintro ⟨⟨n, d⟩, hp, rfl⟩
    rcases List.mem_append.1 hp with hp | hp
    · obtain ⟨hmem, hcond⟩ := List.mem_filter.1 hp
      exact ⟨n, d, (mem_toList S).1 hmem, (of_decide_eq_true hcond).1, rfl⟩
    · obtain ⟨hmem, hcond⟩ := List.mem_filter.1 hp
      exact ⟨n, d, (mem_toList S).1 hmem, (of_decide_eq_true hcond).1, rfl⟩
  · rintro ⟨n, d, hd, hn, rfl⟩
    refine ⟨(n, d), List.mem_append.2 ?_, rfl⟩
    by_cases hnm : n = m
    · exact Or.inl (List.mem_filter.2
        ⟨(mem_toList S).2 hd, decide_eq_true ⟨hn, hnm⟩⟩)
    · exact Or.inr (List.mem_filter.2
        ⟨(mem_toList S).2 hd, decide_eq_true ⟨hn, hnm⟩⟩)

/-- The files that were gathered under a name go by it. -/
theorem name_of_gathered {S : FileSet} {f : String → String} {m : String}
    {d : FileData} (h : S.gathered f m = some d) : d.name = m := by
  refine FileData.name_of_mergeAll? ?_ h
  intro e he
  obtain ⟨n, d, -, -, rfl⟩ := mem_gathering.1 he
  rfl

/-- Files are gathered under a name if the name of some file becomes
it. -/
theorem isSome_gathered (S : FileSet) (f : String → String) (m : String) :
    (S.gathered f m).isSome ↔ ∃ n ∈ S.names, f n = m := by
  unfold gathered
  rw [FileData.isSome_mergeAll?]
  constructor
  · intro hne
    obtain ⟨e, he⟩ := List.exists_mem_of_ne_nil _ hne
    obtain ⟨n, d, hd, hn, -⟩ := mem_gathering.1 he
    exact ⟨n, (mem_names S).2 ⟨d, hd⟩, hn⟩
  · rintro ⟨n, hmem, hn⟩
    obtain ⟨d, hd⟩ := (mem_names S).1 hmem
    exact List.ne_nil_of_mem (mem_gathering.2 ⟨n, d, hd, hn, rfl⟩)

-- ======================================================== one renaming

/-- A change of names that is made once: a new name is not changed. -/
def Stable (ρ : String → Option String) : Prop :=
  ∀ n m, ρ n = some m → ρ m = none

/-- The renamings of the listed files. -/
def moves (ρ : String → Option String)
    (entries : List (String × FileData)) : List (String × String) :=
  entries.filterMap fun p => (ρ p.1).map (p.1, ·)

/-- Makes renamings one after the other. -/
def renameAll (S : FileSet) (pairs : List (String × String)) : FileSet :=
  pairs.foldl (fun S p => S.rename p.1 p.2) S

variable {S : FileSet} {ρ : String → Option String}

theorem get?_rename {old : String} {d : FileData}
    (hd : S.get? old = some d) (new m : String) :
    (S.rename old new).get? m
      = if new = m then
          Option.merge .merge (if old = m then none else S.get? m)
            (some { d with name := new })
        else if old = m then none else S.get? m := by
  simp only [rename, hd, get?_insert, get?_erase]

/-- The listed files that are to be renamed still stand in the set as
they were listed, and no name is listed twice. -/
structure Waiting (ρ : String → Option String) (S : FileSet)
    (entries : List (String × FileData)) : Prop where
  distinct : entries.Pairwise fun a b => a.1 ≠ b.1
  present : ∀ p ∈ entries, ρ p.1 ≠ none → S.get? p.1 = some p.2

theorem Waiting.tail {p : String × FileData}
    {rest : List (String × FileData)} (h : Waiting ρ S (p :: rest)) :
    Waiting ρ S rest where
  distinct := (List.pairwise_cons.1 h.distinct).2
  present q hq := h.present q (List.mem_cons_of_mem _ hq)

/-- Renaming the first file leaves the others waiting: neither their old
names nor the new one are touched by it. -/
theorem Waiting.rename (hρ : Stable ρ) {n t : String} {d : FileData}
    {rest : List (String × FileData)} (h : Waiting ρ S ((n, d) :: rest))
    (ht : ρ n = some t) : Waiting ρ (S.rename n t) rest where
  distinct := h.tail.distinct
  present q hq hmoved := by
    have hd : S.get? n = some d :=
      h.present (n, d) List.mem_cons_self (by rw [ht]; exact nofun)
    have hold : n ≠ q.1 := (List.pairwise_cons.1 h.distinct).1 q hq
    have hnew : t ≠ q.1 := fun heq => hmoved (heq ▸ hρ n t ht)
    rw [get?_rename hd, if_neg hnew, if_neg hold]
    exact h.tail.present q hq hmoved

-- ======================================================== all renamings

theorem renameAll_moves_cons_none {n : String} (hn : ρ n = none)
    (d : FileData) (rest : List (String × FileData)) (S : FileSet) :
    S.renameAll (moves ρ ((n, d) :: rest)) = S.renameAll (moves ρ rest) := by
  unfold moves
  rw [List.filterMap_cons_none (by rw [hn]; rfl)]

theorem renameAll_moves_cons_some {n t : String} (hn : ρ n = some t)
    (d : FileData) (rest : List (String × FileData)) (S : FileSet) :
    S.renameAll (moves ρ ((n, d) :: rest))
      = (S.rename n t).renameAll (moves ρ rest) := by
  unfold moves
  rw [List.filterMap_cons_some (b := (n, t)) (by rw [hn]; rfl)]
  rfl

/-- Under a name that does not change stands in the end what stood there,
with the files merged in that were renamed to it. -/
theorem get?_renameAll_of_fixed (hρ : Stable ρ)
    {entries : List (String × FileData)} (h : Waiting ρ S entries)
    {m : String} (hm : ρ m = none) :
    (S.renameAll (moves ρ entries)).get? m
      = Option.merge .merge (S.get? m)
          (FileData.mergeAll? ((entries.filter (ρ ·.1 = some m)).map
            fun p => { p.2 with name := m })) := by
  induction entries generalizing S with
  | nil => exact (Option.merge_none_right).symm
  | cons p rest ih =>
      obtain ⟨n, d⟩ := p
      cases hn : ρ n with
      | none =>
          rw [renameAll_moves_cons_none hn, ih h.tail,
            List.filter_cons_of_neg (by simp [hn])]
      | some t =>
          have hd : S.get? n = some d :=
            h.present (n, d) List.mem_cons_self (by rw [hn]; exact nofun)
          -- the name itself stays, so it is not the one that moves
          have hnm : n ≠ m := by
            rintro rfl
            rw [hm] at hn
            cases hn
          rw [renameAll_moves_cons_some hn, ih (h.rename hρ hn),
            get?_rename hd]
          by_cases htm : t = m
          · subst htm
            rw [if_pos rfl, if_neg hnm,
              List.filter_cons_of_pos (by simp [hn]), List.map_cons,
              FileData.mergeAll?_cons,
              (Option.associative_merge FileData.merge).assoc]
          · rw [if_neg htm, if_neg hnm,
              List.filter_cons_of_neg (by simpa [hn] using htm)]

/-- Under a name that changes nothing stands in the end. -/
theorem get?_renameAll_of_moved (hρ : Stable ρ)
    {entries : List (String × FileData)} (h : Waiting ρ S entries)
    {m : String} (hm : ρ m ≠ none)
    (hmem : S.get? m = none ∨ m ∈ entries.map Prod.fst) :
    (S.renameAll (moves ρ entries)).get? m = none := by
  induction entries generalizing S with
  | nil => exact hmem.resolve_right List.not_mem_nil
  | cons p rest ih =>
      obtain ⟨n, d⟩ := p
      rw [List.map_cons, List.mem_cons] at hmem
      cases hn : ρ n with
      | none =>
          have hnm : m ≠ n := by
            rintro rfl
            exact hm hn
          rw [renameAll_moves_cons_none hn]
          exact ih h.tail (hmem.imp_right (·.resolve_left hnm))
      | some t =>
          have hd : S.get? n = some d :=
            h.present (n, d) List.mem_cons_self (by rw [hn]; exact nofun)
          have htm : t ≠ m := by
            rintro rfl
            exact hm (hρ n t hn)
          rw [renameAll_moves_cons_some hn]
          refine ih (h.rename hρ hn) ?_
          rw [get?_rename hd, if_neg htm]
          by_cases hnm : n = m
          · exact Or.inl (if_pos hnm)
          · rw [if_neg hnm]
            exact hmem.imp_right (·.resolve_left (Ne.symm hnm))

/-- At first every file of the set waits. -/
theorem waiting_toList (ρ : String → Option String) (S : FileSet) :
    Waiting ρ S S.toList where
  distinct := pairwise_ne_toList S
  present _ hp _ := (mem_toList S).1 hp

-- ========================================================= the regrouping

/-- The file that keeps its name is the one that stands there. -/
theorem filter_keeping_eq (S : FileSet) {m : String} (hm : ρ m = none) :
    S.toList.filter (fun p => (ρ p.1).getD p.1 = m ∧ p.1 = m)
      = ((S.get? m).map (m, ·)).toList := by
  rw [← filter_toList_eq]
  refine List.filter_congr fun p _ => decide_eq_decide.2 ?_
  refine ⟨And.right, fun hp => ⟨?_, hp⟩⟩
  rw [hp, hm, Option.getD_none]

/-- Under a name that does not change, the file that has it is gathered
first, and the files that are renamed to it follow. -/
theorem gathered_of_fixed (hS : S.Keyed) {m : String} (hm : ρ m = none) :
    S.gathered (fun n => (ρ n).getD n) m
      = Option.merge .merge (S.get? m)
          (FileData.mergeAll? ((S.toList.filter (ρ ·.1 = some m)).map
            fun p => { p.2 with name := m })) := by
  -- the others are those that are renamed
  have hmove : S.toList.filter
      (fun p => (ρ p.1).getD p.1 = m ∧ p.1 ≠ m)
        = S.toList.filter (ρ ·.1 = some m) := by
    refine List.filter_congr fun p _ => decide_eq_decide.2 ?_
    cases hp : ρ p.1 with
    | none => simp
    | some t =>
        rw [Option.getD_some, Option.some_inj]
        refine ⟨And.left, fun ht => ⟨ht, ?_⟩⟩
        rintro rfl
        rw [hm] at hp
        cases hp
  unfold gathered gathering
  rw [List.map_append, FileData.mergeAll?_append,
    filter_keeping_eq S hm, hmove]
  congr 1
  cases hd : S.get? m with
  | none => rfl
  | some d =>
      show FileData.mergeAll? [{ d with name := m }] = some d
      rw [← hS m d hd]
      rfl

/-- Under a name that changes nothing is gathered: no name becomes one
that is renamed itself. -/
theorem gathered_of_moved (hρ : Stable ρ) (S : FileSet) {m : String}
    (hm : ρ m ≠ none) : S.gathered (fun n => (ρ n).getD n) m = none := by
  rw [← Option.not_isSome_iff_eq_none, isSome_gathered]
  rintro ⟨n, -, hn⟩
  cases hρn : ρ n with
  | none =>
      rw [hρn, Option.getD_none] at hn
      rw [← hn] at hm
      exact hm hρn
  | some u =>
      rw [hρn, Option.getD_some] at hn
      exact hm (hρ n m (hn ▸ hρn))

/-- A stable renaming of all files gathers under every name the files
whose names become that name. -/
theorem get?_renameAll_moves_toList (hρ : Stable ρ) (hS : S.Keyed)
    (m : String) :
    (S.renameAll (moves ρ S.toList)).get? m
      = S.gathered (fun n => (ρ n).getD n) m := by
  have hwait := waiting_toList ρ S
  by_cases hm : ρ m = none
  · rw [get?_renameAll_of_fixed hρ hwait hm, gathered_of_fixed hS hm]
  · have hmem : S.get? m = none ∨ m ∈ S.toList.map Prod.fst := by
      rw [← names_eq_map_toList, mem_names]
      exact (S.get? m).eq_none_or_eq_some
    rw [get?_renameAll_of_moved hρ hwait hm hmem,
      gathered_of_moved hρ S hm]

/-- Without a change of names every file stays as it is. -/
theorem gathered_id (hS : S.Keyed) (m : String) :
    S.gathered id m = S.get? m :=
  (get?_renameAll_moves_toList (ρ := fun _ => none) (fun _ _ h => nomatch h)
    hS m).symm.trans <| by
      have hmoves : moves (fun _ => none) S.toList = [] := by
        simp [moves]
      rw [hmoves]
      rfl

/-- Names relative to an absolute root do not change again. -/
theorem stable_relativeName? {root : List Char}
    (hroot : SourcePath.isAbsolute root = true) :
    Stable (relativeName? root) := by
  intro n m h
  obtain ⟨rest, hrest, rfl⟩ := Option.map_eq_some_iff.1 h
  unfold relativeName?
  rw [String.toList_ofList, SourcePath.relativeTo?_relativeTo? hroot hrest]
  rfl

theorem renamings_eq_moves (S : FileSet) (root : List Char) :
    S.renamings root = moves (relativeName? root) S.toList := by
  unfold renamings moves
  rw [names_eq_map_toList, List.filterMap_map]
  rfl

/-- Making names relative to an absolute root gathers the files by their
new names. -/
theorem get?_normalize {root : List Char}
    (hroot : SourcePath.isAbsolute root = true) (hS : S.Keyed)
    (m : String) :
    (S.normalize root).get? m = S.gathered (nameBelow root) m := by
  show ((S.renameAll (S.renamings root)).get? m) = _
  rw [renamings_eq_moves,
    get?_renameAll_moves_toList (stable_relativeName? hroot) hS]
  rfl

end Coverage.FileSet
