/-
What does not depend on the order of the input. Two things in a file do:
the outcomes of the branches of a line are listed as they come, and the
first start line of a function that is known is kept. Its tally is what
is left of a file without them: the outcomes of a line are counted, not
listed, and of a function only the hits remain.

Tallies add, and unlike files they commute. So the tally of merged files
is a sum that does not depend on their order
(`tally_mergeAll?_of_perm`), and edits in another order leave other
files with the same tallies (`tallies_applyAll_of_perm`).

# What respects tallies

Sets with the same tallies are told apart by nothing that processing
looks at: the same names are kept and clash, and what comes out has the
same tallies again (`tallies_process`).
-/
import Mathlib.Algebra.Order.Group.Multiset
import Mathlib.Data.List.Perm.Basic
import Coverage.Proofs.Pipeline

namespace Coverage

-- ============================================================== ledgers

/-- Mapping optional values commutes with merging them when mapping
values does. -/
theorem optionMap_merge {α β : Type} {f : α → α → α} {g : β → β → β}
    {h : α → β} (hh : ∀ a b, h (f a b) = g (h a) (h b))
    (a b : Option α) :
    (Option.merge f a b).map h = Option.merge g (a.map h) (b.map h) := by
  cases a with
  | none => rw [Option.merge_none_left, Option.map_none,
      Option.merge_none_left]
  | some a =>
      cases b with
      | none => rw [Option.merge_none_right, Option.map_none,
          Option.merge_none_right]
      | some b => exact congrArg some (hh a b)

/-- Mapping the values of ledgers commutes with merging the ledgers when
it commutes with adding values. -/
theorem Ledger.map_merge {K V W : Type} [Ord K] [Std.TransOrd K]
    [Std.LawfulEqOrd K] [AddMonoid V] [AddMonoid W] {f : V → W}
    (hf : ∀ u v, f (u + v) = f u + f v) (m n : Ledger K V) :
    (m.merge n).map (fun _ v => f v)
      = merge (m.map fun _ v => f v) (n.map fun _ v => f v) := by
  refine Std.ExtTreeMap.ext_getElem? fun {k} => ?_
  rw [getElem?_merge_eq]
  simp only [Std.ExtTreeMap.getElem?_map, getElem?_merge_eq]
  exact optionMap_merge hf _ _

-- ============================================================== tallies

/-- What is known about a file, whatever the order in which it was
learnt. -/
@[ext]
structure Tally where
  /-- Hits of each line. -/
  lines : Ledger Nat Count := ∅
  /-- Hits of each function. -/
  functions : Ledger String Count := ∅
  /-- Outcomes of the branches of each line, in no order. -/
  branches : Ledger Nat (Multiset BranchStatus) := ∅
  /-- Hits of each region. -/
  regions : Ledger Region Count := ∅

namespace Tally

/-- The sum of two tallies. -/
def merge (t u : Tally) : Tally where
  lines := t.lines.merge u.lines
  functions := t.functions.merge u.functions
  branches := t.branches.merge u.branches
  regions := t.regions.merge u.regions

theorem merge_assoc (t u v : Tally) :
    (t.merge u).merge v = t.merge (u.merge v) := by
  simp only [merge, Ledger.merge_assoc]

theorem merge_comm (t u : Tally) : t.merge u = u.merge t := by
  ext1
  · exact Ledger.merge_comm _ _
  · exact Ledger.merge_comm _ _
  · exact Ledger.merge_comm _ _
  · exact Ledger.merge_comm _ _

instance : Std.Associative merge := ⟨merge_assoc⟩

instance : Std.Commutative merge := ⟨merge_comm⟩

end Tally

namespace FileData

/-- The tally of a file. -/
def tally (d : FileData) : Tally where
  lines := d.lines
  functions := d.functions.map fun _ f => f.hits
  branches := d.branches.map fun _ o => (o.toList : Multiset BranchStatus)
  regions := d.regions

/-- Merging files adds their tallies. -/
theorem tally_merge (d e : FileData) :
    (d.merge e).tally = d.tally.merge e.tally := by
  ext1
  · rfl
  · exact Ledger.map_merge FunctionData.hits_add _ _
  · exact Ledger.map_merge (fun _ _ => (Multiset.coe_add _ _).symm) _ _
  · rfl

/-- Files whose tallies are the same clash alike. -/
theorem clashes_eq_of_tally {d e : FileData} (h : d.tally = e.tally) :
    d.clashes = e.clashes := by
  have hlines : d.lines = e.lines := congrArg Tally.lines h
  have hregions : d.regions = e.regions := congrArg Tally.regions h
  rw [clashes, clashes, hlines, hregions]

/-- Deriving lines looks at the tally only. -/
theorem tally_withRegionLines {d e : FileData} (h : d.tally = e.tally) :
    d.withRegionLines.tally = e.withRegionLines.tally := by
  have hregions : d.regions = e.regions := congrArg Tally.regions h
  have hfunctions := congrArg Tally.functions h
  have hbranches := congrArg Tally.branches h
  unfold withRegionLines regionLines
  rw [hregions]
  split
  · exact h
  · ext1
    · rfl
    · exact hfunctions
    · exact hbranches
    · rfl

/-- Adds the tally of a file to a sum. -/
def tallyOnto (t : Option Tally) (d : FileData) : Option Tally :=
  Option.merge .merge t (some d.tally)

/-- The tally of merged files is the sum of their tallies. -/
theorem map_tally_mergeAll? (ds : List FileData) :
    (mergeAll? ds).map tally = ds.foldl tallyOnto none := by
  have hstep : ∀ (o : Option FileData),
      (ds.foldl (fun merged d => Option.merge merge merged (some d)) o).map
        tally = ds.foldl tallyOnto (o.map tally) := by
    induction ds with
    | nil => exact fun o => rfl
    | cons d ds ih =>
        intro o
        rw [List.foldl_cons, ih, optionMap_merge tally_merge]
        rfl
  exact hstep none

/-- Two files add the same tallies in either order. -/
theorem tallyOnto_comm (t : Option Tally) (d e : FileData) :
    tallyOnto (tallyOnto t d) e = tallyOnto (tallyOnto t e) d := by
  unfold tallyOnto
  ac_rfl

/-- Files merged in another order have the same tally. -/
theorem tally_mergeAll?_of_perm {ds es : List FileData}
    (h : ds.Perm es) :
    (mergeAll? ds).map tally = (mergeAll? es).map tally := by
  rw [map_tally_mergeAll?, map_tally_mergeAll?]
  exact h.foldl_eq' (fun d _ e _ t => tallyOnto_comm t d e) none

/-- Files with the same tallies, one by one, merge into files with the
same tally. -/
theorem tally_mergeAll?_of_map {ds es : List FileData}
    (h : ds.map tally = es.map tally) :
    (mergeAll? ds).map tally = (mergeAll? es).map tally := by
  have hsum : ∀ fs : List FileData, fs.foldl tallyOnto none
      = (fs.map tally).foldl
          (fun t u => Option.merge Tally.merge t (some u)) none := by
    intro fs
    rw [List.foldl_map]
    rfl
  rw [map_tally_mergeAll?, map_tally_mergeAll?, hsum, hsum, h]

end FileData

-- ================================================================= sets

namespace FileSet

/-- The tallies of the files, by name. -/
def tallies (S : FileSet) : Std.ExtTreeMap String Tally :=
  S.files.map fun _ d => d.tally

theorem getElem?_tallies (S : FileSet) (n : String) :
    S.tallies[n]? = (S.get? n).map FileData.tally :=
  Std.ExtTreeMap.getElem?_map

/-- Two sets have the same tallies if they do under every name. -/
theorem tallies_eq_iff {S T : FileSet} :
    S.tallies = T.tallies
      ↔ ∀ n, (S.get? n).map FileData.tally
        = (T.get? n).map FileData.tally := by
  simp only [← getElem?_tallies]
  exact ⟨fun h n => by rw [h], fun h =>
    Std.ExtTreeMap.ext_getElem? fun {n} => h n⟩

/-- Edits in another order leave the same tallies. -/
theorem tallies_applyAll_of_perm (S : FileSet) {es fs : List Edit}
    (h : es.Perm fs) :
    (S.applyAll es).tallies = (S.applyAll fs).tallies := by
  refine tallies_eq_iff.2 fun n => ?_
  rw [get?_applyAll, get?_applyAll, optionMap_merge FileData.tally_merge,
    optionMap_merge FileData.tally_merge,
    FileData.tally_mergeAll?_of_perm
      ((h.map Edit.data).filter (·.name = n))]

-- =========================================================== processing

variable {S T : FileSet} {s : Settings}

/-- Sets with the same tallies list the same names with the same
tallies. -/
theorem toList_of_tallies (h : S.tallies = T.tallies) :
    S.toList.map (fun p => (p.1, p.2.tally))
      = T.toList.map fun p => (p.1, p.2.tally) := by
  have hmap : ∀ U : FileSet, U.tallies.toList
      = U.toList.map fun p => (p.1, p.2.tally) := fun U =>
    Std.ExtTreeMap.toList_map
  rw [← hmap, ← hmap, h]

/-- Files that are gathered under a name have the same tallies, one by
one, if the files of the two sets have. -/
theorem gathering_of_tallies (h : S.tallies = T.tallies)
    (f : String → String) (m : String) :
    (S.gathering f m).map FileData.tally
      = (T.gathering f m).map FileData.tally := by
  have hfilter : ∀ q : String → Bool,
      (S.toList.filter fun p => q p.1).map (fun p => p.2.tally)
        = (T.toList.filter fun p => q p.1).map fun p => p.2.tally := by
    intro q
    have hsame := congrArg
      (fun l => (l.filter fun p => q p.1).map Prod.snd)
      (toList_of_tallies h)
    simpa only [List.filter_map, List.map_map, Function.comp_def]
      using hsame
  unfold gathering
  rw [List.map_map, List.map_map, List.map_append, List.map_append]
  exact congrArg₂ (· ++ ·) (hfilter fun n => f n = m ∧ n = m)
    (hfilter fun n => f n = m ∧ n ≠ m)

/-- Lines are derived alike. -/
theorem tally_map_withRegionLines {d e : Option FileData}
    (h : d.map FileData.tally = e.map FileData.tally) :
    (d.map FileData.withRegionLines).map FileData.tally
      = (e.map FileData.withRegionLines).map FileData.tally := by
  cases d with
  | none =>
      cases e with
      | none => rfl
      | some e => cases h
  | some d =>
      cases e with
      | none => cases h
      | some e =>
          rw [Option.map_some, Option.map_some, Option.some_inj] at h
          exact congrArg some (FileData.tally_withRegionLines h)

variable [Libraries]

/-- What is kept under a name has the same tally. -/
theorem kept_of_tallies (h : S.tallies = T.tallies) (s : Settings)
    (m : String) :
    (S.kept s m).map FileData.tally = (T.kept s m).map FileData.tally := by
  unfold kept gathered
  split
  · exact FileData.tally_mergeAll?_of_map (gathering_of_tallies h _ m)
  · rfl

/-- The same names clash. -/
theorem clash_of_tallies (h : S.tallies = T.tallies) {m : String}
    (hm : S.Clash s m) : T.Clash s m := by
  obtain ⟨d, hd, hclash⟩ := hm
  have hkept := kept_of_tallies h s m
  rw [hd, Option.map_some] at hkept
  obtain ⟨e, he, htally⟩ := Option.map_eq_some_iff.1 hkept.symm
  refine ⟨e, he, ?_⟩
  rw [← FileData.clashes_iff, FileData.clashes_eq_of_tally htally,
    FileData.clashes_iff]
  exact hclash

/-- Sets with the same tallies are processed alike: with the same
outcome, into sets with the same tallies. -/
theorem tallies_process (hs : s.RootAbsolute) (hS : S.Keyed)
    (hT : T.Keyed) (h : S.tallies = T.tallies) :
    (S.process s).2 = (T.process s).2
      ∧ (S.process s).1.tallies = (T.process s).1.tallies := by
  by_cases hclash : ∃ m, S.Clash s m
  · obtain ⟨m, hm⟩ := hclash
    obtain ⟨k, hk, hleast⟩ := exists_least_of_clash hs hS hm
    obtain ⟨hfaultS, hgetS⟩ := process_of_clash hs hS hk hleast
    obtain ⟨hfaultT, hgetT⟩ := process_of_clash hs hT
      (clash_of_tallies h hk) fun n hn =>
        hleast n (clash_of_tallies h.symm hn)
    refine ⟨hfaultS.trans hfaultT.symm, tallies_eq_iff.2 fun n => ?_⟩
    rw [hgetS, hgetT]
    split
    · exact tally_map_withRegionLines (kept_of_tallies h s n)
    · exact kept_of_tallies h s n
  · have hnoS : ∀ m, ¬ S.Clash s m := fun m hm => hclash ⟨m, hm⟩
    have hnoT : ∀ m, ¬ T.Clash s m := fun m hm =>
      hnoS m (clash_of_tallies h.symm hm)
    obtain ⟨hfaultS, hgetS⟩ := process_of_no_clash hs hS hnoS
    obtain ⟨hfaultT, hgetT⟩ := process_of_no_clash hs hT hnoT
    refine ⟨hfaultS.trans hfaultT.symm, tallies_eq_iff.2 fun n => ?_⟩
    rw [hgetS, hgetT]
    exact tally_map_withRegionLines (kept_of_tallies h s n)

end FileSet

end Coverage
