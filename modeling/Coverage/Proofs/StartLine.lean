/-
Where functions start. Of the start lines that an input supplies for a
function the first one is kept, so which one it is depends on the order
of the input, but not that it is one of them, nor that there is one.

`Picks` says just that: a value is one of the starts that are supplied,
and zero only if none is. It holds of a file made by edits
(`picks_applyAll`), of files gathered under a new name
(`picks_gathered`), and hence of what processing leaves
(`picks_process`). Where all starts that are supplied agree, nothing is
left to choose (`Picks.unique`).
-/
import Coverage.Proofs.Pipeline

namespace Coverage

-- ============================================================== picking

/-- The value is one of the starts; it is zero if there is none. -/
structure Picks (v : Nat) (starts : Nat → Prop) : Prop where
  start : v ≠ 0 → starts v
  none : v = 0 → ∀ u, ¬ starts u

namespace Picks

variable {v w : Nat} {P Q : Nat → Prop}

/-- The first of two picks that is known picks from both. -/
theorem first (hv : Picks v P) (hw : Picks w Q) :
    Picks (if v = 0 then w else v) fun u => P u ∨ Q u := by
  by_cases h : v = 0
  · rw [if_pos h]
    refine ⟨fun hne => Or.inr (hw.start hne), fun h0 u hu => ?_⟩
    rcases hu with hu | hu
    · exact hv.none h u hu
    · exact hw.none h0 u hu
  · rw [if_neg h]
    exact ⟨fun _ => Or.inl (hv.start h), fun h0 => absurd h0 h⟩

/-- Only which starts there are matters. -/
theorem congr (hv : Picks v P) (h : ∀ u, P u ↔ Q u) : Picks v Q :=
  ⟨fun hne => (h v).1 (hv.start hne), fun h0 u hu =>
    hv.none h0 u ((h u).2 hu)⟩

/-- If all starts agree, there is one way to pick. -/
theorem unique (hv : Picks v P) (hw : Picks w P)
    (h : ∀ a b, P a → P b → a = b) : v = w := by
  by_cases hv0 : v = 0
  · by_cases hw0 : w = 0
    · rw [hv0, hw0]
    · exact absurd (hw.start hw0) (hv.none hv0 w)
  · by_cases hw0 : w = 0
    · exact absurd (hv.start hv0) (hw.none hw0 v)
    · exact h v w (hv.start hv0) (hw.start hw0)

end Picks

-- ================================================================ files

namespace FileData

/-- The line where the function starts; zero if it is not known. -/
def startOf (d : FileData) (g : String) : Nat :=
  (d.functions[g]?.getD 0).start

/-- Of two files that are merged the first one that knows decides. -/
theorem startOf_merge (d e : FileData) (g : String) :
    (d.merge e).startOf g
      = if d.startOf g = 0 then e.startOf g else d.startOf g := by
  unfold startOf merge
  rw [Ledger.getElem?_merge_eq]
  cases d.functions[g]? with
  | none => rw [Option.merge_none_left, Option.getD_none,
      FunctionData.start_zero, if_pos rfl]
  | some a =>
      cases e.functions[g]? with
      | none =>
          rw [Option.merge_none_right, Option.getD_none,
            Option.getD_some, FunctionData.start_zero]
          split
          · next h0 => exact h0
          · rfl
      | some b => exact FunctionData.start_add a b

/-- Lines that are derived do not change where functions start. -/
@[simp]
theorem startOf_withRegionLines (d : FileData) (g : String) :
    d.withRegionLines.startOf g = d.startOf g := by
  unfold withRegionLines
  split <;> rfl

/-- The line where the function starts in a file that may not be
there. -/
def startIn (d : Option FileData) (g : String) : Nat :=
  (d.map (·.startOf g)).getD 0

theorem startIn_merge (d e : Option FileData) (g : String) :
    startIn (Option.merge .merge d e) g
      = if startIn d g = 0 then startIn e g else startIn d g := by
  cases d with
  | none => rw [Option.merge_none_left]; rfl
  | some d =>
      cases e with
      | none =>
          rw [Option.merge_none_right]
          split
          · next h0 => exact h0
          · rfl
      | some e => exact startOf_merge d e g

/-- Merged files pick from what each of them knows. -/
theorem picks_mergeAll? (ds : List FileData) (g : String) :
    Picks (startIn (mergeAll? ds) g) fun u =>
      u ≠ 0 ∧ ∃ d ∈ ds, d.startOf g = u := by
  induction ds with
  | nil =>
      refine ⟨fun h => absurd rfl h, ?_⟩
      rintro - u ⟨-, d, hd, -⟩
      cases hd
  | cons d ds ih =>
      have hone : Picks (startIn (some d) g) fun u =>
          u ≠ 0 ∧ d.startOf g = u := by
        refine ⟨fun h => ⟨h, rfl⟩, ?_⟩
        rintro h0 u ⟨hu, rfl⟩
        exact hu h0
      rw [mergeAll?_cons, startIn_merge]
      refine (hone.first ih).congr fun u => ?_
      rw [← and_or_left]
      simp only [List.mem_cons, exists_eq_or_imp]

end FileData

-- ================================================================ edits

/-- The edits supply this start line for the function in the file. -/
def Supplies (es : List Edit) (file g : String) (start : Nat) : Prop :=
  start ≠ 0 ∧ ∃ hits, Edit.add file (.function g start hits) ∈ es

/-- What an edit tells of where a function starts. -/
theorem Edit.startOf_data {e : Edit} {g : String} {u : Nat} (hu : u ≠ 0) :
    e.data.startOf g = u
      ↔ ∃ hits, e = .add e.file (.function g u hits) := by
  cases e with
  | touch file => exact iff_of_false (fun h => hu h.symm) nofun
  | add file datum =>
      cases datum with
      | line line hits => exact iff_of_false (fun h => hu h.symm) nofun
      | branch line status => exact iff_of_false (fun h => hu h.symm) nofun
      | region region hits => exact iff_of_false (fun h => hu h.symm) nofun
      | function g' start hits =>
          have hdata : (add file (.function g' start hits)).data.startOf g
              = if g' = g then start else 0 := by
            simp only [data, FileData.add, FileData.addFunction,
              FileData.empty, FileData.startOf, Ledger.getElem?_post,
              Std.LawfulEqOrd.compare_eq_iff_eq,
              Std.ExtTreeMap.getElem?_empty]
            split
            · simp
            · rfl
          rw [hdata]
          constructor
          · intro h
            by_cases hg : g' = g
            · rw [if_pos hg] at h
              exact ⟨hits, by rw [hg, h]; rfl⟩
            · rw [if_neg hg] at h
              exact absurd h.symm hu
          · rintro ⟨hits', h⟩
            cases h
            exact if_pos rfl

namespace FileSet

/-- The line where the function of that file starts; zero if it is not
known. -/
def startOf (S : FileSet) (n g : String) : Nat :=
  FileData.startIn (S.get? n) g

/-- A file that edits make picks from what they supply. -/
theorem picks_applyAll (es : List Edit) (n g : String) :
    Picks ((FileSet.empty.applyAll es).startOf n g)
      (Supplies es n g) := by
  unfold startOf
  rw [get?_applyAll, get?_empty, Option.merge_none_left]
  refine (FileData.picks_mergeAll? _ g).congr fun u => ?_
  refine and_congr_right fun hu => ?_
  constructor
  · rintro ⟨d, hd, hstart⟩
    obtain ⟨hd, hn⟩ := List.mem_filter.1 hd
    obtain ⟨e, he, rfl⟩ := List.mem_map.1 hd
    obtain ⟨hits, heq⟩ := (Edit.startOf_data hu).1 hstart
    rw [decide_eq_true_eq, Edit.name_data] at hn
    rw [heq, hn] at he
    exact ⟨hits, he⟩
  · rintro ⟨hits, he⟩
    refine ⟨_, List.mem_filter.2 ⟨List.mem_map_of_mem he, ?_⟩,
      (Edit.startOf_data hu).2 ⟨hits, rfl⟩⟩
    rw [decide_eq_true_eq, Edit.name_data]
    rfl

-- =========================================================== processing

variable {S : FileSet} {s : Settings}

/-- Files that are gathered under a name pick from what is supplied
under the names that become it. -/
theorem picks_gathered {P : String → Nat → Prop} {g : String}
    (hP : ∀ n, Picks (S.startOf n g) (P n)) (f : String → String)
    (m : String) :
    Picks (FileData.startIn (S.gathered f m) g) fun u =>
      ∃ n, f n = m ∧ P n u := by
  have hpick := FileData.picks_mergeAll? (S.gathering f m) g
  constructor
  · intro hne
    obtain ⟨-, e, he, hstart⟩ := hpick.start hne
    obtain ⟨n, d, hd, hn, rfl⟩ := mem_gathering.1 he
    have hof : S.startOf n g
        = FileData.startIn (S.gathered f m) g := by
      rw [startOf, hd]
      exact hstart
    refine ⟨n, hn, ?_⟩
    rw [← hof] at hne ⊢
    exact (hP n).start hne
  · rintro h0 u ⟨n, hn, hu⟩
    have hne : S.startOf n g ≠ 0 := fun hz => (hP n).none hz u hu
    cases hd : S.get? n with
    | none =>
        rw [startOf, hd] at hne
        exact hne rfl
    | some d =>
        rw [startOf, hd] at hne
        exact hpick.none h0 _
          ⟨hne, _, mem_gathering.2 ⟨n, d, hd, hn, rfl⟩, rfl⟩

variable [Libraries]

/-- After processing, a file picks from what was supplied under the
names that became its own, if it is kept. -/
theorem picks_process_of_keeps (hs : s.RootAbsolute) (hS : S.Keyed)
    (hno : ∀ n, ¬ S.Clash s n) {P : String → Nat → Prop} {g : String}
    (hP : ∀ n, Picks (S.startOf n g) (P n)) {m : String}
    (hm : s.keeps m = true) :
    Picks ((S.process s).1.startOf m g) fun u =>
      ∃ n, s.nameOf n = m ∧ P n u := by
  have hget := (process_of_no_clash hs hS hno).2 m
  rw [kept, if_pos hm] at hget
  have hstart : (S.process s).1.startOf m g
      = FileData.startIn (S.gathered s.nameOf m) g := by
    rw [startOf, hget]
    cases S.gathered s.nameOf m with
    | none => rfl
    | some d => exact FileData.startOf_withRegionLines d g
  rw [hstart]
  exact picks_gathered hP s.nameOf m

/-- Every file that is there after processing is kept. -/
theorem picks_process (hs : s.RootAbsolute) (hS : S.Keyed)
    (hfault : (S.process s).2 = none) {P : String → Nat → Prop}
    {g : String} (hP : ∀ n, Picks (S.startOf n g) (P n)) {m : String}
    (hm : ((S.process s).1.get? m).isSome) :
    Picks ((S.process s).1.startOf m g) fun u =>
      ∃ n, s.nameOf n = m ∧ P n u := by
  have hno := no_clash_of_process hs hS hfault
  rw [(process_of_no_clash hs hS hno).2 m, Option.isSome_map,
    isSome_kept] at hm
  exact picks_process_of_keeps hs hS hno hP hm.1

end FileSet

end Coverage
