/-
Shards may be processed one by one. If two sets merged can be processed,
each of them can, and merging what comes out agrees with processing the
merged set: the same files with the same counts, branches in some order,
and the same starts where they are settled.

The condition is on the merged set. A file may have lines in one set and
regions in the other; then each of the sets can be processed, but the
hits would count twice in the end, and the merged set is refused.

# How it is proved

What is kept under a name has the same tally on both ways
(`map_tally_kept_merge`), so a clash in one of the sets is a clash in the
merged one (`clash_merge`). Without a clash lines may be derived before
files are merged (`FileData.withRegionLines_merge`), and the tallies that
come out are the same (`tallies_process_merge`). Starts are picked from
what the two sets know, on either way.
-/
import Coverage.Proofs.Agreement
import Coverage.Proofs.RegionLines
import Coverage.Proofs.Regrouping

namespace Coverage

/-- Deriving lines does not change the name. -/
@[simp]
theorem FileData.name_withRegionLines (d : FileData) :
    d.withRegionLines.name = d.name := by
  unfold withRegionLines
  split <;> rfl

namespace FileSet

variable {A B S : FileSet} {s : Settings}

-- ======================================================== what is kept

section

variable [Libraries]

/-- What is kept of merged sets has the tally of what is kept of each,
merged. -/
theorem map_tally_kept_merge (A : FileSet) (hB : B.Keyed) (s : Settings)
    (m : String) :
    ((A.merge B).kept s m).map FileData.tally
      = (Option.merge .merge (A.kept s m) (B.kept s m)).map
          FileData.tally := by
  rw [optionMap_merge FileData.tally_merge]
  unfold kept
  split
  · exact map_tally_gathered_merge _ _ A hB
  · rfl

/-- A file that would clash makes the name clash. -/
theorem clash_of_map_tally {m : String} {d : FileData}
    (h : (S.kept s m).map FileData.tally = some d.tally)
    (hd : d.clashes = true) : S.Clash s m := by
  obtain ⟨e, he, htally⟩ := Option.map_eq_some_iff.1 h
  refine ⟨e, he, (FileData.clashes_iff e).1 ?_⟩
  rw [FileData.clashes_eq_of_tally htally, hd]

/-- A name that clashes in one of the sets clashes in both merged. -/
theorem clash_merge (hB : B.Keyed) {m : String}
    (h : A.Clash s m ∨ B.Clash s m) : (A.merge B).Clash s m := by
  have hkept := map_tally_kept_merge A hB s m
  rcases h with ⟨d, hd, hclash⟩ | ⟨e, he, hclash⟩
  · rw [← FileData.clashes_iff] at hclash
    rw [hd] at hkept
    cases hb : B.kept s m with
    | none =>
        rw [hb, Option.merge_none_right, Option.map_some] at hkept
        exact clash_of_map_tally hkept hclash
    | some e =>
        rw [hb, Option.merge_some_some, Option.map_some] at hkept
        exact clash_of_map_tally hkept (d.clashes_merge e (.inl hclash))
  · rw [← FileData.clashes_iff] at hclash
    rw [he] at hkept
    cases ha : A.kept s m with
    | none =>
        rw [ha, Option.merge_none_left, Option.map_some] at hkept
        exact clash_of_map_tally hkept hclash
    | some d =>
        rw [ha, Option.merge_some_some, Option.map_some] at hkept
        exact clash_of_map_tally hkept (d.clashes_merge e (.inr hclash))

/-- If no name clashes in the merged set, none does in either. -/
theorem no_clash_of_merge (hB : B.Keyed)
    (hno : ∀ m, ¬ (A.merge B).Clash s m) :
    (∀ m, ¬ A.Clash s m) ∧ ∀ m, ¬ B.Clash s m :=
  ⟨fun m hm => hno m (clash_merge hB (.inl hm)),
    fun m hm => hno m (clash_merge hB (.inr hm))⟩

/-- What processing leaves is keyed again. -/
theorem keyed_process (hs : s.RootAbsolute) (hS : S.Keyed)
    (hno : ∀ m, ¬ S.Clash s m) : (S.process s).1.Keyed := by
  intro m e he
  rw [(process_of_no_clash hs hS hno).2, Option.map_eq_some_iff] at he
  obtain ⟨d, hd, rfl⟩ := he
  rw [FileData.name_withRegionLines]
  unfold kept at hd
  split at hd
  · exact name_of_gathered hd
  · cases hd

end

-- ============================================================= tallies

/-- Without a clash lines may be derived before files are merged. -/
theorem map_withRegionLines_merge {o p : Option FileData}
    (h : ∀ d, Option.merge .merge o p = some d → d.clashes = false) :
    (Option.merge .merge o p).map FileData.withRegionLines
      = Option.merge .merge (o.map FileData.withRegionLines)
          (p.map FileData.withRegionLines) := by
  cases o with
  | none => rw [Option.merge_none_left, Option.map_none,
      Option.merge_none_left]
  | some d =>
      cases p with
      | none => rw [Option.merge_none_right, Option.map_none,
          Option.merge_none_right]
      | some e =>
          exact congrArg some (d.withRegionLines_merge e (h _ rfl))

/-- Processed shards have the tallies of the processed whole. -/
theorem tallies_process_merge [Libraries] (hs : s.RootAbsolute) (hA : A.Keyed)
    (hB : B.Keyed) (hno : ∀ m, ¬ (A.merge B).Clash s m) :
    ((A.process s).1.merge (B.process s).1).tallies
      = ((A.merge B).process s).1.tallies := by
  obtain ⟨hnoA, hnoB⟩ := no_clash_of_merge hB hno
  refine tallies_eq_iff.2 fun m => ?_
  have hkept := map_tally_kept_merge A hB s m
  have hclean : ∀ d, Option.merge .merge (A.kept s m) (B.kept s m) = some d
      → d.clashes = false := by
    intro d hd
    rw [hd, Option.map_some] at hkept
    rw [Bool.eq_false_iff]
    exact fun hc => hno m (clash_of_map_tally hkept hc)
  rw [get?_merge _ (keyed_process hs hB hnoB),
    (process_of_no_clash hs hA hnoA).2, (process_of_no_clash hs hB hnoB).2,
    (process_of_no_clash hs (hA.merge B) hno).2,
    ← map_withRegionLines_merge hclean]
  exact tally_map_withRegionLines hkept.symm

-- ============================================================== starts

/-- One of the sets knows this start line for the function, in a file
whose name becomes the given one. -/
def KnownStart (A B : FileSet) (f : String → String) (m g : String)
    (u : Nat) : Prop :=
  u ≠ 0 ∧ ∃ n, f n = m ∧ (A.startOf n g = u ∨ B.startOf n g = u)

/-- All start lines that the sets know for the function agree. -/
def StartsSettled (A B : FileSet) (f : String → String) (m g : String) :
    Prop :=
  ∀ u v, KnownStart A B f m g u → KnownStart A B f m g v → u = v

/-- A function starts where the set knows it to start. -/
theorem picks_startOf (S : FileSet) (n g : String) :
    Picks (S.startOf n g) fun u => u ≠ 0 ∧ S.startOf n g = u := by
  constructor
  · exact fun hne => ⟨hne, rfl⟩
  · rintro h0 u ⟨hu, rfl⟩
    exact hu h0

/-- In merged sets the first one that knows decides. -/
theorem startOf_merge (A : FileSet) (hB : B.Keyed) (n g : String) :
    (A.merge B).startOf n g
      = if A.startOf n g = 0 then B.startOf n g else A.startOf n g := by
  unfold startOf
  rw [get?_merge A hB]
  exact FileData.startIn_merge _ _ g

/-- A settled start is the same on both ways. -/
theorem startOf_process_merge [Libraries] (hs : s.RootAbsolute) (hA : A.Keyed)
    (hB : B.Keyed) (hno : ∀ m, ¬ (A.merge B).Clash s m) {m g : String}
    (hsettled : StartsSettled A B s.nameOf m g) :
    ((A.process s).1.merge (B.process s).1).startOf m g
      = ((A.merge B).process s).1.startOf m g := by
  obtain ⟨hnoA, hnoB⟩ := no_clash_of_merge hB hno
  rw [startOf_merge _ (keyed_process hs hB hnoB)]
  by_cases hm : s.keeps m = true
  · -- both ways pick from what the two sets know
    have hparts := (picks_process_of_keeps hs hA hnoA
      (fun n => A.picks_startOf n g) hm).first
      (picks_process_of_keeps hs hB hnoB (fun n => B.picks_startOf n g) hm)
    have hwhole := picks_process_of_keeps hs (hA.merge B) hno
      (fun n => by
        rw [startOf_merge A hB]
        exact (A.picks_startOf n g).first (B.picks_startOf n g)) hm
    refine (hparts.congr fun u => ?_).unique (hwhole.congr fun u => ?_)
      hsettled
    · unfold KnownStart
      grind
    · unfold KnownStart
      grind
  · -- the file is dropped on both
    have hgone : ∀ T : FileSet, T.Keyed → (∀ n, ¬ T.Clash s n) →
        (T.process s).1.startOf m g = 0 := by
      intro T hT hnoT
      rw [startOf, (process_of_no_clash hs hT hnoT).2, kept, if_neg hm]
      rfl
    rw [hgone A hA hnoA, hgone B hB hnoB, if_pos rfl,
      hgone _ (hA.merge B) hno]

-- ========================================================= the statement

/-- If two sets merged can be processed, under an absolute source root or
under none, each of them can, and what comes out of each, merged, agrees
with what comes out of the merged set. -/
theorem agree_process_merge [Libraries] (hs : s.RootAbsolute) (hA : A.Keyed)
    (hB : B.Keyed) (h : ((A.merge B).process s).2 = none) :
    (A.process s).2 = none ∧ (B.process s).2 = none
      ∧ Agree (StartsSettled A B s.nameOf)
          ((A.process s).1.merge (B.process s).1)
          ((A.merge B).process s).1 := by
  have hno := no_clash_of_process hs (hA.merge B) h
  obtain ⟨hnoA, hnoB⟩ := no_clash_of_merge hB hno
  refine ⟨(process_of_no_clash hs hA hnoA).1,
    (process_of_no_clash hs hB hnoB).1, ?_⟩
  refine agree_of_tallies ((keyed_process hs hA hnoA).merge _)
    (keyed_process hs (hA.merge B) hno)
    (tallies_process_merge hs hA hB hno) ?_
  intro m g hsettled
  exact startOf_process_merge hs hA hB hno hsettled

open BuiltIn

/-- A region whose hits are at the limit, under an absolute name. -/
def firstShard : FileSet :=
  .ofList
    [(FileData.empty "/r/a.go").addRegion ⟨1, 1, 2, 9⟩
      (.saturate Count.limit)]

/-- The same region, and one that overlaps it, under the name that the
absolute one becomes; and a file with lines only. -/
def secondShard : FileSet :=
  .ofList
    [((FileData.empty "a.go").addRegion ⟨1, 1, 2, 9⟩
        (.saturate 1)).addRegion ⟨2, 1, 3, 9⟩ (.saturate 5),
      (FileData.empty "b.c").addLine 7 (.saturate 2)]

/-- The two shards, with names relative to `/r`: sums are cut off in
other places on either way. -/
theorem agree_process_shards :
    belowR.RootAbsolute ∧ firstShard.Keyed ∧ secondShard.Keyed
      ∧ ((firstShard.merge secondShard).process belowR).2 = none
      ∧ (firstShard.process belowR).2 = none
      ∧ (secondShard.process belowR).2 = none
      ∧ Agree (StartsSettled firstShard secondShard belowR.nameOf)
          ((firstShard.process belowR).1.merge
            (secondShard.process belowR).1)
          ((firstShard.merge secondShard).process belowR).1 := by
  have hs : belowR.RootAbsolute := by
    intro root hroot
    cases hroot
    rfl
  have hA : firstShard.Keyed := Keyed.empty.insertMany _
  have hB : secondShard.Keyed := Keyed.empty.insertMany _
  have h : ((firstShard.merge secondShard).process belowR).2 = none := by
    decide +kernel
  exact ⟨hs, hA, hB, h, agree_process_merge hs hA hB h⟩

end FileSet

end Coverage
