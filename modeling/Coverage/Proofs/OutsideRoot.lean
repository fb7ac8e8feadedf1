/-
Files outside the source root. Absolute names that stay absolute are
dropped, so what counts is how a name is written: whether its components
start with those of the root. Where it leads is another matter, since two
points go up and nothing resolves them. A name may be written under the
root and lead out of it again.

Of the entries with absolute names that lead outside the root, those that
are not written under it leave no trace: processing gives the same set
and the same fault without them. Those that are written under it survive
under the rest of their names, with all their data, unless that name is
excluded (`FileSet.process_outside`). Only two points behind the root
bring this about (`SourcePath.parent_mem_of_isOutside`).

# How it is proved

What stands under a name in the end was gathered from the names that
become it. So an entry whose new name is dropped may be left out from the
start (`FileSet.process_filter`), and an entry whose new name is kept is
one of the parts that are merged under it (`FileData.partOf_mergeAll?`).
-/
import Coverage.Proofs.BelowRoot
import Coverage.Proofs.Growth
import Coverage.Proofs.Pipeline

namespace Coverage

namespace SourcePath

-- ================================================== where a path leads

/-- The way on from a directory, which is given by the names that lead to
it. From the root of the file system nothing leads up. -/
def follow (directory : List (List Char)) :
    Component → List (List Char)
  | .root => directory
  | .here => directory
  | .parent => directory.dropLast
  | .named name => directory ++ [name]

/-- The names that an absolute path leads through in the end. -/
def resolve (path : List Char) : List (List Char) :=
  (components path).foldl follow []

/-- The path is absolute and leads outside the root. -/
def isOutside (root path : List Char) : Bool :=
  isAbsolute path && ! (resolve root).isPrefixOf (resolve path)

/-- The path is written as the root and more, or as the root. -/
def isWrittenUnder (root path : List Char) : Bool :=
  (components root).isPrefixOf (components path)

/-- Without two points the way only goes on. -/
theorem prefix_foldl_follow {cs : List Component}
    (h : Component.parent ∉ cs) (directory : List (List Char)) :
    directory <+: cs.foldl follow directory := by
  induction cs generalizing directory with
  | nil => exact List.prefix_rfl
  | cons c cs ih =>
      rw [List.mem_cons, not_or] at h
      have hrest := ih h.2 (follow directory c)
      cases c with
      | root => exact hrest
      | here => exact hrest
      | parent => exact absurd rfl h.1
      | named name => exact (List.prefix_append directory [name]).trans hrest

/-- A path that is written under the root and leads out of it has two
points behind the root. -/
theorem parent_mem_of_isOutside {root path : List Char}
    (hwritten : isWrittenUnder root path = true)
    (houtside : isOutside root path = true) :
    Component.parent
      ∈ (components path).drop (components root).length := by
  obtain ⟨rest, hrest⟩ := List.isPrefixOf_iff_prefix.1 hwritten
  rw [← hrest, List.drop_left]
  by_contra hparent
  have hstart : resolve root <+: resolve path := by
    rw [resolve, resolve, ← hrest, List.foldl_append]
    exact prefix_foldl_follow hparent _
  rw [isOutside, List.isPrefixOf_iff_prefix.2 hstart, Bool.not_true,
    Bool.and_false] at houtside
  cases houtside

end SourcePath

-- ======================================================= parts of files

namespace FileData

/-- Every line, function, branch and region of the first file is one of
the second. -/
structure PartOf (d e : FileData) : Prop where
  lines : ∀ line : Nat, line ∈ d.lines → line ∈ e.lines
  functions : ∀ g : String, g ∈ d.functions → g ∈ e.functions
  branches : ∀ line : Nat, line ∈ d.branches → line ∈ e.branches
  regions : ∀ r : Region, r ∈ d.regions → r ∈ e.regions

theorem PartOf.refl (d : FileData) : d.PartOf d :=
  ⟨fun _ => id, fun _ => id, fun _ => id, fun _ => id⟩

theorem PartOf.trans {d e f : FileData} (h : d.PartOf e)
    (h' : e.PartOf f) : d.PartOf f where
  lines k hk := h'.lines k (h.lines k hk)
  functions k hk := h'.functions k (h.functions k hk)
  branches k hk := h'.branches k (h.branches k hk)
  regions k hk := h'.regions k (h.regions k hk)

theorem partOf_merge_left (d e : FileData) : d.PartOf (d.merge e) where
  lines _ hk := Ledger.mem_merge (Or.inl hk)
  functions _ hk := Ledger.mem_merge (Or.inl hk)
  branches _ hk := Ledger.mem_merge (Or.inl hk)
  regions _ hk := Ledger.mem_merge (Or.inl hk)

theorem partOf_merge_right (d e : FileData) : e.PartOf (d.merge e) where
  lines _ hk := Ledger.mem_merge (Or.inr hk)
  functions _ hk := Ledger.mem_merge (Or.inr hk)
  branches _ hk := Ledger.mem_merge (Or.inr hk)
  regions _ hk := Ledger.mem_merge (Or.inr hk)

/-- Each of the files that are merged is a part of what comes out. -/
theorem partOf_mergeAll? {ds : List FileData} {d e : FileData}
    (hmem : d ∈ ds) (h : mergeAll? ds = some e) : d.PartOf e := by
  induction ds generalizing e with
  | nil => exact absurd hmem List.not_mem_nil
  | cons first rest ih =>
      rw [mergeAll?_cons] at h
      cases hrest : mergeAll? rest with
      | none =>
          have hnil : rest = [] := by
            by_contra hne
            have hsome := (isSome_mergeAll? rest).2 hne
            rw [hrest] at hsome
            cases hsome
          rw [hnil, List.mem_singleton] at hmem
          rw [hrest, Option.merge_none_right] at h
          cases h
          exact hmem ▸ .refl d
      | some others =>
          rw [hrest, Option.merge_some_some] at h
          cases h
          rcases List.mem_cons.1 hmem with rfl | hmem
          · exact partOf_merge_left d others
          · exact (ih hmem hrest).trans (partOf_merge_right first others)

/-- A file that knows whatever another does has it as a part. -/
theorem Within.partOf {d e : FileData} (h : d.Within e) : d.PartOf e := by
  have hkeys : ∀ {K V : Type} [Ord K] [Std.TransOrd K]
      [Std.LawfulEqOrd K] {R : V → V → Prop} {m n : Ledger K V},
      Ledger.Within R m n → ∀ k, k ∈ m → k ∈ n := by
    intro K V _ _ _ R m n hmn k hk
    rw [Std.ExtTreeMap.mem_iff_isSome_getElem?,
      Option.isSome_iff_exists] at hk
    obtain ⟨v, hv⟩ := hk
    obtain ⟨w, hw, -⟩ := hmn k v hv
    rw [Std.ExtTreeMap.mem_iff_isSome_getElem?, hw]
    rfl
  exact ⟨hkeys h.lines, hkeys h.functions, hkeys h.branches,
    hkeys h.regions⟩

end FileData

namespace FileSet

variable {S : FileSet} {s : Settings} {root : List Char}

-- ================================================= what leaves no trace

/-- The entries that are kept are listed as they were. -/
theorem toList_filter (S : FileSet) (keep : String → FileData → Bool) :
    (S.filter keep).toList = S.toList.filter fun p => keep p.1 p.2 :=
  Std.ExtTreeMap.toList_filter

/-- Making names relative leaves the same under a name if the files that
become it are the same. -/
theorem get?_normalize_filter {p : String → Bool}
    (habs : SourcePath.isAbsolute root = true) {m : String}
    (h : ∀ n, nameBelow root n = m → p n = true) :
    ((S.filter fun n _ => p n).normalize root).get? m
      = (S.normalize root).get? m := by
  have hstable := stable_relativeName? habs
  have hwait := waiting_toList (relativeName? root)
  show ((S.filter _).renameAll ((S.filter _).renamings root)).get? m
    = (S.renameAll (S.renamings root)).get? m
  rw [renamings_eq_moves, renamings_eq_moves]
  by_cases hm : relativeName? root m = none
  · have hself : p m = true := h m (by rw [nameBelow, hm, Option.getD_none])
    have hmoved : (S.toList.filter fun q => p q.1).filter
        (relativeName? root ·.1 = some m)
          = S.toList.filter (relativeName? root ·.1 = some m) := by
      rw [List.filter_filter]
      refine List.filter_congr fun q _ => ?_
      by_cases hq : relativeName? root q.1 = some m
      · rw [h q.1 (by rw [nameBelow, hq, Option.getD_some]), Bool.and_true]
      · rw [decide_eq_false hq, Bool.false_and]
    rw [get?_renameAll_of_fixed hstable (hwait _) hm,
      get?_renameAll_of_fixed hstable (hwait _) hm, get?_filter_name,
      if_pos hself, toList_filter, hmoved]
  · have hmem : ∀ T : FileSet,
        T.get? m = none ∨ m ∈ T.toList.map Prod.fst := by
      intro T
      rw [← names_eq_map_toList, mem_names]
      exact (T.get? m).eq_none_or_eq_some
    rw [get?_renameAll_of_moved hstable (hwait _) hm (hmem _),
      get?_renameAll_of_moved hstable (hwait _) hm (hmem _)]

/-- Entries whose new names are dropped may be left out from the start. -/
theorem process_filter [Libraries] (hs : s.RootAbsolute) {p : String → Bool}
    (h : ∀ n, p n = false → s.keeps (s.nameOf n) = false) :
    (S.filter fun n _ => p n).process s = S.process s := by
  have hselected : (S.filter fun n _ => p n).selected s
      = S.selected s := by
    refine ext_get? fun m => ?_
    rw [get?_selected_of_keeps, get?_selected_of_keeps]
    cases hm : s.keeps m with
    | false => rfl
    | true =>
        rw [if_pos rfl, if_pos rfl]
        have hpass : ∀ n, s.nameOf n = m → p n = true := by
          rintro n rfl
          by_contra hn
          rw [h n (Bool.eq_false_iff.2 hn)] at hm
          cases hm
        cases hroot : s.sourceRoot with
        | none =>
            have hself : p m = true :=
              hpass m (by rw [Settings.nameOf, hroot]; rfl)
            show (S.filter fun n _ => p n).get? m = S.get? m
            rw [get?_filter_name, if_pos hself]
        | some root =>
            refine get?_normalize_filter (hs root hroot) fun n hn => ?_
            refine hpass n ?_
            rw [Settings.nameOf, hroot, Option.bind_some, ← hn, nameBelow]
  rw [process_eq_deriveLines, hselected, process_eq_deriveLines]

-- ======================================================== what survives

/-- A file that is renamed is a part of what stands under its new
name. -/
theorem partOf_normalize (habs : SourcePath.isAbsolute root = true)
    {n m : String} {d : FileData} (hd : S.get? n = some d)
    (hn : relativeName? root n = some m) :
    ∃ e, (S.normalize root).get? m = some e ∧ d.PartOf e := by
  have hstable := stable_relativeName? habs
  have hmem : { d with name := m } ∈ (S.toList.filter
      (relativeName? root ·.1 = some m)).map
        fun p => { p.2 with name := m } := by
    refine List.mem_map.2 ⟨(n, d), List.mem_filter.2 ?_, rfl⟩
    exact ⟨(mem_toList S).2 hd, decide_eq_true hn⟩
  obtain ⟨moved, hmoved⟩ := Option.isSome_iff_exists.1
    ((FileData.isSome_mergeAll? _).2 (List.ne_nil_of_mem hmem))
  have hpart : d.PartOf moved := by
    obtain ⟨hlines, hfunctions, hbranches, hregions⟩ :=
      FileData.partOf_mergeAll? hmem hmoved
    exact ⟨hlines, hfunctions, hbranches, hregions⟩
  show ∃ e, (S.renameAll (S.renamings root)).get? m = some e ∧ _
  rw [renamings_eq_moves, get?_renameAll_of_fixed hstable
    (waiting_toList _ S) (hstable n m hn), hmoved]
  cases S.get? m with
  | none => exact ⟨moved, rfl, hpart⟩
  | some old =>
      exact ⟨old.merge moved, rfl,
        hpart.trans (FileData.partOf_merge_right old moved)⟩

section

variable [Libraries]

/-- What the passes keep under a name is a part of what is left in the
end. -/
theorem partOf_process {m : String} {e : FileData}
    (hm : s.keeps m = true)
    (he : ((s.sourceRoot.map S.normalize).getD S).get? m = some e) :
    ∃ f, (S.process s).1.get? m = some f ∧ e.PartOf f := by
  have hselected : (S.selected s).get? m = some e := by
    rw [get?_selected_of_keeps, if_pos hm, he]
  obtain ⟨f, hf, hef⟩ := within_deriveLines (S.selected s) m e hselected
  exact ⟨f, hf, hef.partOf⟩

/-- Under a name that is dropped nothing is left in the end. -/
theorem get?_process_of_not_keeps {m : String} (hm : s.keeps m = false) :
    (S.process s).1.get? m = none := by
  rw [process_eq_deriveLines, get?_fst_deriveLines, get?_selected_of_keeps,
    hm]
  split <;> rfl

end

-- ===================================================== outside the root

open SourcePath (isAbsolute components isOutside isWrittenUnder)

/-- A name that leads outside the root has a form relative to it if it is
written under it, and none otherwise. -/
theorem isSome_relativeName?_of_isOutside
    (habs : isAbsolute root = true) {n : String}
    (hn : isOutside root n.toList = true) :
    (relativeName? root n).isSome = isWrittenUnder root n.toList := by
  have hne : components root ≠ components n.toList := by
    intro heq
    rw [isOutside, SourcePath.resolve, SourcePath.resolve, heq,
      List.isPrefixOf_iff_prefix.2 List.prefix_rfl, Bool.not_true,
      Bool.and_false] at hn
    cases hn
  rw [relativeName?, Option.isSome_map, Bool.eq_iff_iff,
    SourcePath.isSome_relativeTo?_iff habs, and_iff_left hne,
    isWrittenUnder, List.isPrefixOf_iff_prefix]

/-- A name that leads outside the root and is not written under it is
dropped. -/
theorem keeps_nameOf_of_not_isWrittenUnder [Libraries]
    (hroot : s.sourceRoot = some root) (habs : isAbsolute root = true)
    (hext : s.includeExternal = false) {n : String}
    (hn : isOutside root n.toList = true)
    (hwritten : isWrittenUnder root n.toList = false) :
    s.keeps (s.nameOf n) = false := by
  have hnone : relativeName? root n = none := by
    rw [← Option.not_isSome_iff_eq_none,
      isSome_relativeName?_of_isOutside habs hn, hwritten]
    exact Bool.false_ne_true
  have hname : s.nameOf n = n := by
    rw [Settings.nameOf, hroot, Option.bind_some, hnone, Option.getD_none]
  rw [isOutside, Bool.and_eq_true] at hn
  rw [Settings.keeps, hname, hext, hn.1]
  rfl

/-- Under an absolute source root, with external files dropped, consider
the entries whose names are absolute and lead outside the root.

- Those that are not written under the root leave no trace: without them
  the same set and the same fault come out.
- Those that are written under it have two points behind it. They survive
  under the rest of their names, which are not absolute, and their data
  with them, unless that name is excluded. -/
theorem process_outside [Libraries] (hroot : s.sourceRoot = some root)
    (habs : isAbsolute root = true) (hext : s.includeExternal = false)
    (S : FileSet) :
    (S.filter fun n _ => ! isOutside root n.toList
        || isWrittenUnder root n.toList).process s = S.process s
    ∧ ∀ n d, S.get? n = some d → isOutside root n.toList = true →
      isWrittenUnder root n.toList = true →
        .parent ∈ (components n.toList).drop (components root).length
        ∧ isAbsolute (s.nameOf n).toList = false
        ∧ if s.excludes (s.nameOf n) then
            (S.process s).1.get? (s.nameOf n) = none
          else ∃ e, (S.process s).1.get? (s.nameOf n) = some e
            ∧ d.PartOf e := by
  have hs : s.RootAbsolute := by
    intro r hr
    cases hroot.symm.trans hr
    exact habs
  refine ⟨process_filter hs fun n hn => ?_, fun n d hd hout hwritten => ?_⟩
  -- what is not spelled below the root keeps its absolute name
  · rw [Bool.or_eq_false_iff, Bool.not_eq_false'] at hn
    exact keeps_nameOf_of_not_isWrittenUnder hroot habs hext hn.1 hn.2
  -- what is spelled below it gets another, which is relative
  · have hsome := isSome_relativeName?_of_isOutside habs hout
    rw [hwritten] at hsome
    obtain ⟨m, hm⟩ := Option.isSome_iff_exists.1 hsome
    have hname : s.nameOf n = m := by
      rw [Settings.nameOf, hroot, Option.bind_some, hm, Option.getD_some]
    have hrelative : isAbsolute m.toList = false := by
      obtain ⟨rest, hrest, rfl⟩ := Option.map_eq_some_iff.1 hm
      rw [String.toList_ofList]
      exact SourcePath.isAbsolute_relativeTo? habs hrest
    have hkeeps : s.keeps m = ! s.excludes m := by
      rw [Settings.keeps, hext, hrelative]
      rfl
    rw [hname]
    refine ⟨SourcePath.parent_mem_of_isOutside hwritten hout, hrelative, ?_⟩
    cases hexcludes : s.excludes m with
    | true =>
        rw [hexcludes] at hkeeps
        exact get?_process_of_not_keeps hkeeps
    | false =>
        rw [hexcludes] at hkeeps
        -- no data is lost when names are merged, nor behind that
        obtain ⟨e, he, hde⟩ := partOf_normalize habs hd hm
        have hnormalized :
            ((s.sourceRoot.map S.normalize).getD S).get? m = some e := by
          rw [hroot]
          exact he
        obtain ⟨f, hf, hef⟩ := partOf_process hkeeps hnormalized
        exact ⟨f, hf, hde.trans hef⟩

open BuiltIn

/-- A header outside `/r` whose name begins with it, one whose name does
not, and a file below `/r`. -/
def climbing : FileSet :=
  .ofList
    [(FileData.empty "/r/../etc/x.h").addLine 1 (.saturate 1),
      (FileData.empty "/usr/include/y.h").addLine 2 (.saturate 1),
      (FileData.empty "/r/a.c").addLine 3 (.saturate 1)]

/-- Both headers lie outside `/r`. One is dropped, the other survives
with its line. -/
theorem process_climbing :
    belowR.sourceRoot = some ['/', 'r'] ∧ isAbsolute ['/', 'r'] = true
      ∧ belowR.includeExternal = false
      ∧ isOutside ['/', 'r'] "/r/../etc/x.h".toList = true
      ∧ isOutside ['/', 'r'] "/usr/include/y.h".toList = true
      ∧ (climbing.process belowR).2 = none
      ∧ (climbing.process belowR).1.names = ["../etc/x.h", "a.c"]
      ∧ (climbing.filter fun n _ => ! isOutside ['/', 'r'] n.toList
          || isWrittenUnder ['/', 'r'] n.toList).process belowR
        = climbing.process belowR
      ∧ ∃ e, (climbing.process belowR).1.get? "../etc/x.h" = some e
        ∧ 1 ∈ e.lines := by
  have hroot : belowR.sourceRoot = some ['/', 'r'] := rfl
  obtain ⟨hsame, hsurvives⟩ :=
    process_outside hroot (by decide) rfl climbing
  have hmem : "/r/../etc/x.h" ∈ climbing.names := by decide +kernel
  obtain ⟨d, hd⟩ := (mem_names _).1 hmem
  have hline : 1 ∈ d.lines := by
    have hhit : ((climbing.get? "/r/../etc/x.h").bind
        (·.lines[1]?)).isSome := by
      decide +kernel
    rw [hd, Option.bind_some] at hhit
    exact Std.ExtTreeMap.mem_iff_isSome_getElem?.2 hhit
  have hname : belowR.nameOf "/r/../etc/x.h" = "../etc/x.h" := by
    decide +kernel
  have hsurvivor := (hsurvives _ d hd (by decide +kernel)
    (by decide +kernel)).2.2
  rw [hname, if_neg (by decide +kernel)] at hsurvivor
  obtain ⟨e, he, hde⟩ := hsurvivor
  exact ⟨hroot, by decide, rfl, by decide +kernel, by decide +kernel,
    by decide +kernel, by decide +kernel, hsame, e, he,
    hde.lines 1 hline⟩

end FileSet

end Coverage
