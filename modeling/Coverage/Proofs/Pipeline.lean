/-
What processing a set of files does. Processing makes names relative,
drops files and derives lines, one pass after the other; its outcome is
said here in one piece, name by name.

A name is kept if it is not absolute, or absolute names are kept, and it
is not excluded; this is judged on the name as it is in the end. Under a
kept name stand the files whose names become it, merged (`kept`). A name
clashes if what is kept under it has both regions and lines. Nothing
else can fail: without a clash every kept file is there with its lines
derived, and otherwise the least clash is named and the names before it
are done. Files that are dropped never count.

Which texts are patterns, and in which names they occur, is up to the
libraries: all of this holds for any of them.
-/
import Coverage.BuiltIn
import Coverage.Proofs.DerivedLines
import Coverage.Proofs.Renaming

namespace Coverage

namespace Settings

/-- The source root, if there is one, is an absolute path, as it is when
`withSourceRoot` sets it. -/
def RootAbsolute (s : Settings) : Prop :=
  ∀ root, s.sourceRoot = some root → SourcePath.isAbsolute root = true

/-- The name that a file goes by after processing: relative to the source
root if it lies under it, else as it was. -/
def nameOf (s : Settings) (n : String) : String :=
  (s.sourceRoot.bind (FileSet.relativeName? · n)).getD n

/-- The name is excluded: there is a text to exclude by, it is not empty,
it is a pattern, and the pattern occurs in the name. -/
def excludes [Libraries] (s : Settings) (n : String) : Bool :=
  match s.exclude with
  | none => false
  | some text => ! text.isEmpty && (Libraries.search? text).any (· n)

/-- Files of the name are kept. -/
def keeps [Libraries] (s : Settings) (n : String) : Bool :=
  (s.includeExternal || ! SourcePath.isAbsolute n.toList)
    && ! s.excludes n

end Settings

namespace FileSet

variable {S : FileSet} {s : Settings}

-- ================================================= names and their root

/-- The first pass gathers the files by their new names. -/
theorem get?_normalized (hs : s.RootAbsolute) (hS : S.Keyed)
    (m : String) :
    ((s.sourceRoot.map S.normalize).getD S).get? m
      = S.gathered s.nameOf m := by
  cases hroot : s.sourceRoot with
  | none =>
      have hname : s.nameOf = id := by
        funext n
        rw [Settings.nameOf, hroot]
        rfl
      rw [hname, gathered_id hS]
      rfl
  | some root =>
      have hname : s.nameOf = nameBelow root := by
        funext n
        rw [Settings.nameOf, hroot]
        rfl
      rw [hname, ← get?_normalize (hs root hroot) hS]
      rfl

/-- The second pass drops absolute names, unless they are kept. -/
theorem get?_filterExternal (S : FileSet) (keep : Bool) (m : String) :
    (S.filterExternal keep).get? m
      = if keep || ! SourcePath.isAbsolute m.toList then S.get? m
        else none := by
  unfold filterExternal
  cases keep with
  | true => rfl
  | false =>
      rw [if_neg Bool.false_ne_true, get?_filter_name S fun n =>
        ! SourcePath.isAbsolute n.toList, Bool.false_or]

-- ============================================== before lines are derived

section

variable [Libraries]

/-- What processing keeps under a name: the files whose names become it,
merged, unless the name is dropped. -/
def kept (S : FileSet) (s : Settings) (m : String) : Option FileData :=
  if s.keeps m then S.gathered s.nameOf m else none

/-- The name clashes: what is kept under it has both regions and
lines. -/
def Clash (S : FileSet) (s : Settings) (m : String) : Prop :=
  ∃ d, S.kept s m = some d ∧ d.regions ≠ ∅ ∧ d.lines ≠ ∅

/-- The set with relative names and without the dropped files. -/
def selected (S : FileSet) (s : Settings) : FileSet :=
  let S := (s.sourceRoot.map S.normalize).getD S
  let S := S.filterExternal s.includeExternal
  (s.exclude.map S.filterExcluded).getD S

/-- Processing derives the lines of what is selected. -/
theorem process_eq_deriveLines (S : FileSet) (s : Settings) :
    S.process s = (S.selected s).deriveLines := rfl

/-- A text drops the names in which it occurs, if it is a pattern and is
not empty. -/
theorem get?_filterExcluded (S : FileSet) (text m : String) :
    (S.filterExcluded text).get? m
      = if ! text.isEmpty && (Libraries.search? text).any (· m) then none
        else S.get? m := by
  unfold filterExcluded exclusions?
  cases text.isEmpty with
  | true =>
      -- the empty text is a test that no name passes
      show (S.filter fun _ _ => ! false).get? m = S.get? m
      rw [get?_filter_name S fun _ => ! false, if_pos (Bool.not_false)]
  | false =>
      cases Libraries.search? text with
      | none => rfl
      | some occurs =>
          show (S.filter fun n _ => ! occurs n).get? m
            = if occurs m then none else S.get? m
          rw [get?_filter_name S fun n => ! occurs n]
          cases occurs m <;> rfl

/-- The third pass drops the excluded names. -/
theorem get?_excluded (S : FileSet) (s : Settings) (m : String) :
    ((s.exclude.map S.filterExcluded).getD S).get? m
      = if s.excludes m then none else S.get? m := by
  unfold Settings.excludes
  cases s.exclude with
  | none => rfl
  | some text => exact get?_filterExcluded S text m

/-- The second and the third pass leave the kept names. -/
theorem get?_selected_of_keeps (S : FileSet) (s : Settings) (m : String) :
    (S.selected s).get? m
      = if s.keeps m then ((s.sourceRoot.map S.normalize).getD S).get? m
        else none := by
  unfold selected
  rw [get?_excluded, get?_filterExternal, Settings.keeps]
  cases s.excludes m with
  | true => rw [if_pos rfl, Bool.not_true, Bool.and_false,
      if_neg Bool.false_ne_true]
  | false => rw [if_neg Bool.false_ne_true, Bool.not_false, Bool.and_true]

/-- What the passes before the last one leave is what is kept. -/
theorem get?_selected (hs : s.RootAbsolute) (hS : S.Keyed) (m : String) :
    (S.selected s).get? m = S.kept s m := by
  rw [get?_selected_of_keeps, get?_normalized hs hS, kept]

/-- What is selected is filed under its own name. -/
theorem keyed_selected (hs : s.RootAbsolute) (hS : S.Keyed) :
    (S.selected s).Keyed := by
  intro m d hd
  rw [get?_selected hs hS, kept] at hd
  split at hd
  · exact name_of_gathered hd
  · cases hd

/-- A name is kept with some file under it if it is the new name of
some. -/
theorem isSome_kept (S : FileSet) (s : Settings) (m : String) :
    (S.kept s m).isSome
      ↔ s.keeps m = true ∧ ∃ n ∈ S.names, s.nameOf n = m := by
  unfold kept
  split
  · next hm => rw [isSome_gathered, and_iff_right hm]
  · next hm => simp [hm]

/-- A name clashes if the selected file under it does. -/
theorem clash_iff (hs : s.RootAbsolute) (hS : S.Keyed) (m : String) :
    S.Clash s m
      ↔ ∃ d, (S.selected s).get? m = some d ∧ d.clashes = true := by
  simp only [Clash, get?_selected hs hS, FileData.clashes_iff]

-- ==================================================== the whole pipeline

/-- Processing without a clash derives the lines of all that is kept. -/
theorem process_of_no_clash (hs : s.RootAbsolute) (hS : S.Keyed)
    (h : ∀ m, ¬ S.Clash s m) :
    (S.process s).2 = none
      ∧ ∀ m, (S.process s).1.get? m
        = (S.kept s m).map FileData.withRegionLines := by
  have hno : ∀ m d, (S.selected s).get? m = some d
      → d.clashes = false := by
    intro m d hd
    rw [Bool.eq_false_iff]
    exact fun hc => h m ((clash_iff hs hS m).2 ⟨d, hd, hc⟩)
  obtain ⟨hfault, hget⟩ := deriveLines_of_no_clash hno
  rw [process_eq_deriveLines]
  refine ⟨hfault, fun m => ?_⟩
  rw [hget, get?_selected hs hS]

/-- Processing with a clash names the least one and derives the lines
before it only. -/
theorem process_of_clash (hs : s.RootAbsolute) (hS : S.Keyed)
    {m : String} (hm : S.Clash s m)
    (hleast : ∀ n, S.Clash s n → ¬ n < m) :
    (S.process s).2 = some (.linesPresent m)
      ∧ ∀ n, (S.process s).1.get? n
        = if n < m then (S.kept s n).map FileData.withRegionLines
          else S.kept s n := by
  obtain ⟨d, hd, hc⟩ := (clash_iff hs hS m).1 hm
  have hleast' : ∀ n e, (S.selected s).get? n = some e
      → e.clashes = true → ¬ n < m := fun n e he hce =>
    hleast n ((clash_iff hs hS n).2 ⟨e, he, hce⟩)
  obtain ⟨hfault, hget⟩ :=
    deriveLines_of_clash (keyed_selected hs hS) hd hc hleast'
  rw [process_eq_deriveLines]
  refine ⟨hfault, fun n => ?_⟩
  rw [hget, get?_selected hs hS]

/-- Of the names that clash one is the least. -/
theorem exists_least_of_clash (hs : s.RootAbsolute) (hS : S.Keyed)
    {m : String} (hm : S.Clash s m) :
    ∃ k, S.Clash s k ∧ ∀ n, S.Clash s n → ¬ n < k := by
  obtain ⟨d, hd, hc⟩ := (clash_iff hs hS m).1 hm
  obtain ⟨k, e, he, hce, hleast⟩ := exists_least_clash hd hc
  refine ⟨k, (clash_iff hs hS k).2 ⟨e, he, hce⟩, fun n hn => ?_⟩
  obtain ⟨f, hf, hcf⟩ := (clash_iff hs hS n).1 hn
  exact hleast n f hf hcf

/-- Where processing succeeds no name clashes. -/
theorem no_clash_of_process (hs : s.RootAbsolute) (hS : S.Keyed)
    (h : (S.process s).2 = none) (m : String) : ¬ S.Clash s m := by
  intro hm
  obtain ⟨k, hk, hleast⟩ := exists_least_of_clash hs hS hm
  rw [(process_of_clash hs hS hk hleast).1] at h
  cases h

/-- Processing a keyed set under an absolute source root, or under none.

- It succeeds exactly when no kept name clashes.
- In any case the names that are left are the kept ones among the new
  names.
- If it succeeds, each file is what is kept under its name, with lines
  derived from its regions if it has any.
- If it fails, the fault names the least clash; files before it have
  their lines derived, it and the files behind it are what is kept. -/
theorem process_eq_kept (hs : s.RootAbsolute) (hS : S.Keyed) :
    ((S.process s).2 = none ↔ ∀ m, ¬ S.Clash s m)
      ∧ (∀ m, (S.process s).1.contains m = true
          ↔ s.keeps m = true ∧ ∃ n ∈ S.names, s.nameOf n = m)
      ∧ ((S.process s).2 = none → ∀ m, (S.process s).1.get? m
          = (S.kept s m).map FileData.withRegionLines)
      ∧ ∀ fault, (S.process s).2 = some fault →
          ∃ m, fault = .linesPresent m ∧ S.Clash s m
            ∧ (∀ n, S.Clash s n → m ≤ n)
            ∧ ∀ n, (S.process s).1.get? n
              = if n < m then (S.kept s n).map FileData.withRegionLines
                else S.kept s n := by
  by_cases h : ∃ m, S.Clash s m
  · obtain ⟨m, hm⟩ := h
    -- of several clashes the one with the least name counts
    obtain ⟨k, hk, hleast⟩ := exists_least_of_clash hs hS hm
    obtain ⟨hfault, hget⟩ := process_of_clash hs hS hk hleast
    rw [hfault]
    refine ⟨⟨nofun, fun hno => absurd hk (hno k)⟩, fun n => ?_, nofun, ?_⟩
    · rw [contains_eq_isSome, hget, ← isSome_kept]
      split
      · rw [Option.isSome_map]
      · rfl
    · intro fault hf
      cases hf
      exact ⟨k, rfl, hk, fun n hn => String.not_lt.1 (hleast n hn), hget⟩
  · have hno : ∀ m, ¬ S.Clash s m := fun m hm => h ⟨m, hm⟩
    obtain ⟨hfault, hget⟩ := process_of_no_clash hs hS hno
    rw [hfault]
    refine ⟨⟨fun _ => hno, fun _ => rfl⟩, fun n => ?_, fun _ => hget,
      nofun⟩
    rw [contains_eq_isSome, hget, Option.isSome_map, ← isSome_kept]

end

open BuiltIn

/-- Lines under absolute names, and regions under the names that these
become below `/r`. -/
def colliding : FileSet :=
  .ofList
    [(FileData.empty "/r/a.c").addLine 3 (.saturate 1),
      (FileData.empty "a.c").addRegion ⟨1, 1, 2, 1⟩ (.saturate 1),
      (FileData.empty "/r/a.h").addLine 5 (.saturate 2),
      (FileData.empty "a.h").addRegion ⟨1, 1, 9, 1⟩ (.saturate 2)]

/-- The settings under which these names become relative. -/
def belowR : Settings := { sourceRoot := some ['/', 'r'] }

/-- The same settings with a text to exclude by. -/
def belowRWithout (text : String) : Settings :=
  { belowR with exclude := some text }

/-- Two files that do not clash themselves may clash once they are
merged. The pattern `c$` drops `a.c`, whose clash then does not count; the
text `[]` is no pattern, so every name is kept. -/
theorem process_colliding_eq_kept :
    colliding.Keyed
      ∧ ((belowRWithout "c$").RootAbsolute
        ∧ (belowRWithout "c$").excludes "a.c" = true
        ∧ (colliding.process (belowRWithout "c$")).2
          = some (.linesPresent "a.h")
        ∧ colliding.Clash (belowRWithout "c$") "a.h"
        ∧ ∀ n, colliding.Clash (belowRWithout "c$") n → "a.h" ≤ n)
      ∧ ((belowRWithout "[]").RootAbsolute
        ∧ Libraries.search? "[]" = none
        ∧ (colliding.process (belowRWithout "[]")).2
          = some (.linesPresent "a.c")
        ∧ colliding.Clash (belowRWithout "[]") "a.c"
        ∧ ∀ n, colliding.Clash (belowRWithout "[]") n → "a.c" ≤ n) := by
  have hs : ∀ text, (belowRWithout text).RootAbsolute := by
    intro text root hroot
    cases hroot
    rfl
  have hS : colliding.Keyed := Keyed.empty.insertMany _
  have hpattern : (colliding.process (belowRWithout "c$")).2
      = some (.linesPresent "a.h") := by
    decide +kernel
  have hnone : (colliding.process (belowRWithout "[]")).2
      = some (.linesPresent "a.c") := by
    decide +kernel
  obtain ⟨m, heq, hm, hleast, -⟩ :=
    (process_eq_kept (hs "c$") hS).2.2.2 _ hpattern
  obtain ⟨k, heq', hk, hleast', -⟩ :=
    (process_eq_kept (hs "[]") hS).2.2.2 _ hnone
  cases heq
  cases heq'
  exact ⟨hS, ⟨hs _, by decide +kernel, hpattern, hm, hleast⟩,
    hs _, rfl, hnone, hk, hleast'⟩

end FileSet

end Coverage
