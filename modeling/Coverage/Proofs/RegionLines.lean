/-
What regions say about lines. A line that is derived has the hits of all
regions that touch it, added up (`getElem?_regionLines`), and it is there
only if some region touches it.

Said this way the lines are totals over the regions, so the lines of
merged files are the merged lines of the files (`regionLines_merge`).
Counts are cut off at their limit on either way, in other places, but the
sums are the same. It follows that files may be merged before or after
their lines are derived, as long as the merged file does not clash
(`withRegionLines_merge`).
-/
import Coverage.Proofs.DerivedLines
import Coverage.Proofs.Totals

namespace Coverage

theorem Region.nodup_lines (r : Region) : r.lines.Nodup :=
  List.nodup_range'

namespace Ledger

variable {K V : Type} [Ord K] [Std.TransOrd K] [Std.LawfulEqOrd K]
  [AddMonoid V]

/-- A value posted at distinct keys is added at each of them. -/
theorem getElem?_foldl_post [DecidableEq K] {ks : List K} (hks : ks.Nodup)
    (m : Ledger K V) (j : K) (v : V) :
    (ks.foldl (fun m k => post m k v) m)[j]?
      = Option.merge (· + ·) m[j]? (if j ∈ ks then some v else none) := by
  induction ks generalizing m with
  | nil => exact Option.merge_none_right.symm
  | cons k ks ih =>
      obtain ⟨hk, hks⟩ := List.nodup_cons.1 hks
      rw [List.foldl_cons, ih hks, post_eq_merge, getElem?_merge_eq,
        getElem?_post, Std.ExtTreeMap.getElem?_empty, Option.getD_none,
        zero_add]
      by_cases hj : j = k
      · subst hj
        rw [if_pos Std.ReflCmp.compare_self, if_neg hk,
          if_pos List.mem_cons_self, Option.merge_none_right]
      · have hne : ¬ compare k j = .eq := fun h =>
          hj (Std.LawfulEqOrd.eq_of_compare h).symm
        have hmem : j ∈ k :: ks ↔ j ∈ ks := by simp [hj]
        rw [if_neg hne, Option.merge_none_right]
        simp only [hmem]

/-- Only empty ledgers merge into an empty one. -/
theorem merge_eq_empty_iff {m n : Ledger K V} :
    m.merge n = ∅ ↔ m = ∅ ∧ n = ∅ := by
  constructor
  · intro h
    have hkey : ∀ k : K, m[k]? = none ∧ n[k]? = none := by
      intro k
      rw [← Option.merge_eq_none_iff, ← getElem?_merge_eq, h]
      exact Std.ExtTreeMap.getElem?_empty
    constructor
    · refine Std.ExtTreeMap.ext_getElem? fun {k} => ?_
      rw [(hkey k).1, Std.ExtTreeMap.getElem?_empty]
    · refine Std.ExtTreeMap.ext_getElem? fun {k} => ?_
      rw [(hkey k).2, Std.ExtTreeMap.getElem?_empty]
  · rintro ⟨rfl, rfl⟩
    exact merge_empty ∅

end Ledger

namespace FileData

variable (d e : FileData)

-- =========================================================== exact hits

/-- What a region gives a line: its hits, if it touches the line. -/
def regionShare (line : Nat) (r : Region) (hits : Count) : Option Count :=
  if r.Touches line then some hits else none

/-- Lines that have the hits of the listed regions, which are gone through
in that order. -/
def linesFrom (entries : List (Region × Count)) : Ledger Nat Count :=
  entries.foldl (fun m p => p.1.lines.foldl (·.post · p.2) m) ∅

/-- Every listed region adds its hits to the lines that it touches. -/
theorem getElem?_linesFrom (entries : List (Region × Count)) (line : Nat) :
    (linesFrom entries)[line]?
      = (entries.map fun p => regionShare line p.1 p.2).foldl
          (Option.merge (· + ·)) none := by
  have hfold : ∀ m : Ledger Nat Count,
      (entries.foldl (fun m p => p.1.lines.foldl (·.post · p.2) m)
          m)[line]?
        = (entries.map fun p => regionShare line p.1 p.2).foldl
            (Option.merge (· + ·)) m[line]? := by
    induction entries with
    | nil => exact fun m => rfl
    | cons p rest ih =>
        intro m
        rw [List.foldl_cons, ih,
          Ledger.getElem?_foldl_post p.1.nodup_lines]
        simp only [Region.mem_lines]
        rfl
  exact hfold ∅

theorem regionLines_eq_linesFrom :
    d.regionLines = linesFrom d.regions.toList :=
  Std.ExtTreeMap.foldl_eq_foldl_toList

/-- A line that is derived has the hits of the regions that touch it. -/
theorem getElem?_regionLines (line : Nat) :
    d.regionLines[line]? = totalOf (· + ·) (regionShare line) d.regions := by
  rw [regionLines_eq_linesFrom, getElem?_linesFrom]
  rfl

/-- The lines of merged regions are the merged lines. -/
theorem regionLines_merge :
    (d.merge e).regionLines = d.regionLines.merge e.regionLines := by
  refine Std.ExtTreeMap.ext_getElem? fun {line} => ?_
  rw [Ledger.getElem?_merge_eq, getElem?_regionLines,
    getElem?_regionLines, getElem?_regionLines, merge,
    Ledger.totalOf_merge]
  intro r u v
  unfold regionShare
  split
  · rfl
  · rfl

-- ==================================================== deriving, merging

/-- Merged files clash if one of them does. -/
theorem clashes_merge (h : d.clashes = true ∨ e.clashes = true) :
    (d.merge e).clashes = true := by
  have hregions := Ledger.merge_eq_empty_iff (m := d.regions) (n := e.regions)
  have hlines := Ledger.merge_eq_empty_iff (m := d.lines) (n := e.lines)
  simp only [clashes_iff, merge, ne_eq, hregions, hlines] at h ⊢
  tauto

/-- Without lines nothing is lost when they are derived. -/
theorem withRegionLines_of_lines_eq_empty (h : d.lines = ∅) :
    d.withRegionLines = { d with lines := d.regionLines } := by
  unfold withRegionLines
  split
  · next hempty =>
      have hregions : d.regions = ∅ :=
        Std.ExtTreeMap.isEmpty_iff.1 hempty
      have hnone : d.regionLines = d.lines := by
        rw [regionLines, hregions, h]
        rfl
      rw [hnone]
  · rfl

/-- If the merged file does not clash, lines may as well be derived
before the files are merged. -/
theorem withRegionLines_merge (h : (d.merge e).clashes = false) :
    (d.merge e).withRegionLines
      = d.withRegionLines.merge e.withRegionLines := by
  by_cases hregions : (d.merge e).regions = ∅
  · -- there is nothing to derive in any of the three
    obtain ⟨hd, he⟩ := Ledger.merge_eq_empty_iff.1 hregions
    have hsame : ∀ f : FileData, f.regions = ∅ → f.withRegionLines = f :=
      fun f hf => if_pos (Std.ExtTreeMap.isEmpty_iff.2 hf)
    rw [hsame _ hregions, hsame d hd, hsame e he]
  · have hlines : (d.merge e).lines = ∅ := by
      by_contra hne
      have hclash := (clashes_iff _).2 ⟨hregions, hne⟩
      rw [h] at hclash
      cases hclash
    obtain ⟨hd, he⟩ := Ledger.merge_eq_empty_iff.1 hlines
    rw [withRegionLines_of_lines_eq_empty _ hlines,
      withRegionLines_of_lines_eq_empty d hd,
      withRegionLines_of_lines_eq_empty e he, regionLines_merge]
    rfl

end FileData

end Coverage
