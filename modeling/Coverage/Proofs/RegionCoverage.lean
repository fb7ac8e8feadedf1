/-
What deriving lines does to a file. If the file has no lines, a line is
there afterwards just when some region reaches over it, with the exact sum
of the hits of all regions that do, cut off once; all else about the file
stays (`FileData.deriveLines_exact`). If it has lines, nothing is done.

Counting is a matter of sets then. The lines are the union of the lines of
all regions, and those that were hit are the union over the regions that
were, however these overlap and in whatever order they are gone through.

# How it is proved

A derived line is a total over the regions (`getElem?_regionLines`), and
such a total is an exact sum (`Count.sum_eq`). The ratio counts entries of
the ledger of lines, whose keys are distinct, so each count is the size of
a set of lines that is known by its members (`Ledger.countP_values`).
-/
import Mathlib.Data.Finset.Union
import Mathlib.Order.Interval.Finset.Nat
import Coverage.Proofs.Contents
import Coverage.Proofs.RegionLines

namespace Coverage

-- ================================================================ counts

theorem Count.isHit_add (a b : Count) :
    (a + b).isHit = (a.isHit || b.isHit) := by
  have hpos : 0 < limit := by decide
  rw [Bool.eq_iff_iff]
  simp only [isHit, toNat_add, bne_iff_ne, Bool.or_eq_true, ne_eq]
  omega

/-- Something was hit if one of the parts was. -/
theorem Count.isHit_total (cs : List Count) :
    (total cs).isHit = true ↔ ∃ c ∈ cs, c.isHit = true := by
  rw [← sum_eq]
  induction cs with
  | nil => simp [isHit]
  | cons c cs ih =>
      rw [List.sum_cons, isHit_add, Bool.or_eq_true, ih,
        List.exists_mem_cons_iff]

/-- The entries of a ledger whose values pass a test are as many as the
keys that they stand at. -/
theorem Ledger.countP_values {K V : Type} [Ord K] [Std.TransOrd K]
    [Std.LawfulEqOrd K] [DecidableEq K] (m : Ledger K V) (p : V → Bool)
    {s : Finset K} (hs : ∀ k, k ∈ s ↔ ∃ v, m[k]? = some v ∧ p v = true) :
    m.values.countP p = s.card := by
  have hnodup : ((m.toList.filter (p ·.2)).map Prod.fst).Nodup := by
    rw [List.Nodup, List.pairwise_map]
    exact (pairwise_ne_toList m).filter _
  have hset : ((m.toList.filter (p ·.2)).map Prod.fst).toFinset = s := by
    ext k
    rw [hs]
    simp [Std.ExtTreeMap.mem_toList_iff_getElem?_eq_some]
  rw [values_eq_map_toList, List.countP_map, List.countP_eq_length_filter,
    ← hset, List.toFinset_card_of_nodup hnodup, List.length_map]
  rfl

-- =============================================================== regions

/-- The lines of the regions, taken together. -/
def Region.union (rs : List Region) : Finset Nat :=
  rs.toFinset.biUnion fun r => Finset.Icc r.startLine r.endLine

theorem Region.mem_union {rs : List Region} {line : Nat} :
    line ∈ union rs ↔ ∃ r ∈ rs, r.Touches line := by
  simp [union, Touches]

namespace FileData

variable (d : FileData)

/-- The regions that ran. -/
def hitRegions : List Region :=
  (d.regions.toList.filter (·.2.isHit)).map (·.1)

/-- The hits of all regions that reach over the line, added up. -/
def hitsOver (line : Nat) : Nat :=
  ((d.regions.toList.filter (·.1.Touches line)).map
    (·.2.toNat)).foldr (· + ·) 0

/-- The second file is the first with lines derived from its regions. -/
structure IsDerived (d e : FileData) : Prop where
  name : e.name = d.name
  functions : e.functions = d.functions
  branches : e.branches = d.branches
  regions : e.regions = d.regions
  mem_lines : ∀ line, line ∈ e.lines
    ↔ ∃ r ∈ d.regions, r.startLine ≤ line ∧ line ≤ r.endLine
  hits : ∀ line c, e.lines[line]? = some c →
    c.toNat = min (d.hitsOver line) Count.limit
  total : e.lineRatio.total = (Region.union d.regions.keys).card
  hit : e.lineRatio.hits = (Region.union d.hitRegions).card
  order : ∀ entries, entries.Perm d.regions.toList →
    e.lines = linesFrom entries

-- ========================================================= derived lines

/-- The hits of the regions that touch a line. -/
theorem filterMap_regionShare (line : Nat) :
    d.regions.toList.filterMap (fun p => regionShare line p.1 p.2)
      = (d.regions.toList.filter (·.1.Touches line)).map (·.2) := by
  induction d.regions.toList with
  | nil => rfl
  | cons p rest ih =>
      by_cases hp : p.1.Touches line
      · have hshare : regionShare line p.1 p.2 = some p.2 := if_pos hp
        simp [hshare, hp, ih]
      · have hshare : regionShare line p.1 p.2 = none := if_neg hp
        simp [hshare, hp, ih]

/-- A derived line has the sum of the hits of the regions that touch
it. -/
theorem getElem?_regionLines_eq_total (line : Nat) :
    d.regionLines[line]?
      = ifAny Count.total
          ((d.regions.toList.filter (·.1.Touches line)).map (·.2)) := by
  rw [getElem?_regionLines, totalOf, foldl_merge_eq_ifAny,
    filterMap_regionShare, funext Count.sum_eq]

/-- There is a derived line that passes a test for each line that is
touched by a region that passes it, if a sum passes just when one of its
parts does. -/
theorem exists_regionLines_iff {p : Count → Bool}
    (hp : ∀ cs, cs ≠ [] →
      (p (Count.total cs) = true ↔ ∃ c ∈ cs, p c = true))
    (line : Nat) :
    (∃ c, d.regionLines[line]? = some c ∧ p c = true)
      ↔ ∃ (r : Region) (c : Count), d.regions[r]? = some c ∧ p c = true
        ∧ r.Touches line := by
  have hmem : ∀ c, c ∈ (d.regions.toList.filter
      (·.1.Touches line)).map (·.2)
        ↔ ∃ r : Region, d.regions[r]? = some c ∧ r.Touches line := by
    intro c
    simp [Std.ExtTreeMap.mem_toList_iff_getElem?_eq_some]
  rw [getElem?_regionLines_eq_total, ifAny]
  constructor
  · rintro ⟨c, hc, hpc⟩
    split at hc
    · cases hc
    · next hne =>
        cases hc
        obtain ⟨c, hc, hpc⟩ := (hp _ hne).1 hpc
        obtain ⟨r, hr, htouch⟩ := (hmem c).1 hc
        exact ⟨r, c, hr, hpc, htouch⟩
  · rintro ⟨r, c, hr, hpc, htouch⟩
    have hc := (hmem c).2 ⟨r, hr, htouch⟩
    have hne := List.ne_nil_of_mem hc
    exact ⟨_, if_neg hne, (hp _ hne).2 ⟨c, hc, hpc⟩⟩

/-- A line is derived if some region touches it. -/
theorem exists_regionLines_iff_touches (line : Nat) :
    (∃ c, d.regionLines[line]? = some c)
      ↔ ∃ r ∈ d.regions, r.Touches line := by
  have h := d.exists_regionLines_iff (p := fun _ => true) (fun cs hne => by
    simpa using List.exists_mem_of_ne_nil cs hne) line
  simp only [and_true, true_and] at h
  rw [h]
  simp only [Std.ExtTreeMap.mem_iff_isSome_getElem?,
    Option.isSome_iff_exists]
  constructor
  · rintro ⟨r, c, hr, htouch⟩
    exact ⟨r, ⟨c, hr⟩, htouch⟩
  · rintro ⟨r, ⟨c, hr⟩, htouch⟩
    exact ⟨r, c, hr, htouch⟩

/-- There are as many derived lines as lines that regions touch. -/
theorem length_values_regionLines :
    d.regionLines.values.length = (Region.union d.regions.keys).card := by
  rw [← List.countP_true]
  refine Ledger.countP_values _ _ fun line => ?_
  simp only [and_true, exists_regionLines_iff_touches, Region.mem_union,
    Std.ExtTreeMap.mem_keys]

/-- And as many of them were hit as are touched by regions that were. -/
theorem countP_values_regionLines :
    d.regionLines.values.countP Count.isHit
      = (Region.union d.hitRegions).card := by
  refine Ledger.countP_values _ _ fun line => ?_
  rw [d.exists_regionLines_iff fun cs _ => Count.isHit_total cs,
    Region.mem_union]
  simp only [hitRegions, List.mem_map, List.mem_filter,
    Std.ExtTreeMap.mem_toList_iff_getElem?_eq_some, Prod.exists]
  grind

/-- The regions may be gone through in any order. -/
theorem regionLines_eq_of_perm {entries : List (Region × Count)}
    (h : entries.Perm d.regions.toList) :
    d.regionLines = linesFrom entries := by
  refine Std.ExtTreeMap.ext_getElem? fun {line} => ?_
  rw [regionLines_eq_linesFrom, getElem?_linesFrom, getElem?_linesFrom]
  exact ((h.map _).foldl_op_eq).symm

theorem isDerived_regionLines :
    d.IsDerived { d with lines := d.regionLines } where
  name := rfl
  functions := rfl
  branches := rfl
  regions := rfl
  mem_lines line := by
    rw [Std.ExtTreeMap.mem_iff_isSome_getElem?, Option.isSome_iff_exists]
    exact d.exists_regionLines_iff_touches line
  hits line c hc := by
    rw [getElem?_regionLines_eq_total, ifAny] at hc
    split at hc
    · cases hc
    · cases hc
      show min ((((d.regions.toList.filter (·.1.Touches line)).map
        (·.2)).map Count.toNat).foldr (· + ·) 0) Count.limit = _
      rw [List.map_map]
      rfl
  total := d.length_values_regionLines
  hit := d.countP_values_regionLines
  order _ h := d.regionLines_eq_of_perm h

/-- Deriving the lines of a file that has none gives it just the lines
that its regions reach over, each with the exact sum of their hits, cut
off at the limit; nothing else about the file changes. It has as many
lines then as there are in the union of the regions, and as many that were
hit as in the union of the regions that were. A file that has lines is
refused by its name and stays as it is. -/
theorem deriveLines_exact (d : FileData) :
    (d.lines = ∅ → ∃ e, d.deriveLines = .ok e ∧ d.IsDerived e)
      ∧ (d.lines ≠ ∅ → d.deriveLines = .error (.linesPresent d.name)
        ∧ d.tryDeriveLines = d) := by
  constructor
  · intro h
    refine ⟨{ d with lines := d.regionLines }, ?_, d.isDerived_regionLines⟩
    exact if_pos (Std.ExtTreeMap.isEmpty_iff.2 h)
  · intro h
    have hrefused : d.deriveLines = .error (.linesPresent d.name) :=
      if_neg (mt Std.ExtTreeMap.isEmpty_iff.1 h)
    refine ⟨hrefused, ?_⟩
    rw [tryDeriveLines, hrefused]

/-- Two regions that overlap, the second of which did not run, and one that
ends before it starts. -/
def overlapping : FileData :=
  (((FileData.empty "a.c").addRegion ⟨1, 1, 3, 1⟩ (.saturate 2)).addRegion
    ⟨2, 1, 4, 1⟩ 0).addRegion ⟨9, 1, 5, 1⟩ (.saturate 1)

/-- Four lines are derived, three of them hit; and not a second time. -/
theorem deriveLines_exact_overlapping :
    overlapping.lines = ∅
      ∧ ∃ e, overlapping.deriveLines = .ok e ∧ overlapping.IsDerived e
        ∧ e.lineRatio = ⟨3, 4⟩
        ∧ e.lines ≠ ∅ ∧ e.deriveLines = .error (.linesPresent "a.c") := by
  have hnone : overlapping.lines = ∅ := rfl
  obtain ⟨e, he, hderived⟩ := (deriveLines_exact overlapping).1 hnone
  have htotal : (Region.union overlapping.regions.keys).card = 4 := by
    decide +kernel
  have hhit : (Region.union overlapping.hitRegions).card = 3 := by
    decide +kernel
  have hratio : e.lineRatio = ⟨3, 4⟩ := by
    ext1
    · exact hderived.hit.trans hhit
    · exact hderived.total.trans htotal
  have hlines : e.lines ≠ ∅ := by
    intro h
    have hzero : e.lineRatio.total = 0 := by
      rw [lineRatio, h]
      rfl
    rw [hratio] at hzero
    cases hzero
  have hagain := ((deriveLines_exact e).2 hlines).1
  rw [hderived.name] at hagain
  exact ⟨hnone, e, he, hderived, hratio, hlines, hagain⟩

end FileData

end Coverage
