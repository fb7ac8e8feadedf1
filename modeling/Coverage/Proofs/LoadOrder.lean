/-
The order in which inputs are loaded does not matter. Inputs that can
all be decoded can be decoded in any order, processing then meets the
same fault or none, and the reports agree: totals and files are the
same, and functions are listed in the same order with the same hits.

One thing may differ. Of the start lines that the inputs supply for a
function the first one is kept, so a report may show another start if
they do not agree among themselves. `Report.Agrees` says what two
reports have in common, and leaves the starts of functions open whose
starts are not settled.

# How it is proved

The sets themselves differ. But their tallies are the same
(`tallies_applyAll_of_perm`, `tallies_process`), a report shows nothing
of a file but its tally and the starts of its functions, and these are
picked from what the inputs supply, in whatever order.
-/
import Mathlib.Data.List.Forall2
import Coverage.Loading
import Coverage.Proofs.ReportContents
import Coverage.Proofs.StartLine
import Coverage.Proofs.Tally
import Coverage.Report

namespace Coverage

-- ============================================================== reports

/-- Lists that look alike through `f` look alike through everything that
depends on `f` only. -/
theorem map_eq_of_map_eq {α β γ : Type} {f : α → β} {g : α → γ}
    (hg : ∀ a b, f a = f b → g a = g b) {l l' : List α}
    (h : l.map f = l'.map f) : l.map g = l'.map g := by
  induction l generalizing l' with
  | nil =>
      cases l' with
      | nil => rfl
      | cons b l' => cases h
  | cons a l ih =>
      cases l' with
      | nil => cases h
      | cons b l' =>
          obtain ⟨hab, hl⟩ := List.cons.inj h
          exact congrArg₂ List.cons (hg a b hab) (ih hl)

namespace FileData

/-- The outcomes of all branches, in no order. -/
theorem coe_outcomes (os : List Outcomes) :
    ((os.flatMap (·.toList) : List BranchStatus) : Multiset BranchStatus)
      = (os.map fun o => (o.toList : Multiset BranchStatus)).sum := by
  induction os with
  | nil => rfl
  | cons o os ih =>
      rw [List.flatMap_cons, ← Multiset.coe_add, ih, List.map_cons,
        List.sum_cons]

/-- Mapping the values of a ledger maps the list of its values. -/
theorem values_map {K V W : Type} [Ord K] [Std.TransOrd K]
    (m : Ledger K V) (f : V → W) :
    (m.map fun _ v => f v).values = m.values.map f := by
  rw [Ledger.values_eq_map_toList, Ledger.values_eq_map_toList,
    Std.ExtTreeMap.toList_map, List.map_map, List.map_map]
  rfl

/-- The ratios of a file show its tally only. -/
theorem ratios_of_tally {d e : FileData} (h : d.tally = e.tally) :
    d.ratios = e.ratios := by
  have hlines : d.lines = e.lines := congrArg Tally.lines h
  have hregions : d.regions = e.regions := congrArg Tally.regions h
  have hfunctions : d.functions.values.map FunctionData.hits
      = e.functions.values.map FunctionData.hits := by
    rw [← values_map, ← values_map]
    exact congrArg (fun t => t.functions.values) h
  have hbranches : (d.branches.values.flatMap (·.toList)).Perm
      (e.branches.values.flatMap (·.toList)) := by
    rw [← Multiset.coe_eq_coe, coe_outcomes, coe_outcomes, ← values_map,
      ← values_map]
    exact congrArg (fun t => t.branches.values.sum) h
  have hcount : ∀ fs : List FunctionData,
      Ratio.countIn (·.hits.isHit) fs
        = Ratio.countIn Count.isHit (fs.map FunctionData.hits) := by
    intro fs
    rw [Ratio.countIn, Ratio.countIn, List.countP_map, List.length_map]
    rfl
  simp only [ratios, lineRatio, functionRatio, branchRatio, regionRatio,
    hcount]
  rw [hlines, hregions, hfunctions, Ratio.countIn_of_perm _ hbranches]

end FileData

/-- The entry without its start. -/
def FunctionEntry.withoutStart (e : FunctionEntry) : FunctionEntry :=
  { e with start := 0 }

namespace Report

variable {S T : FileSet}

/-- The reports agree: totals and files are the same, and so are the
functions, one by one, except for starts that are not settled. -/
structure Agrees (settled : String → String → Prop) (r q : Report) :
    Prop where
  totals : r.totals = q.totals
  files : r.files = q.files
  functions : List.Forall₂ (fun e f => e.name = f.name ∧ e.file = f.file
    ∧ e.hits = f.hits ∧ (settled e.file e.name → e.start = f.start))
    r.functions q.functions

/-- The files of a report show tallies only. -/
theorem files_of_tallies (h : S.tallies = T.tallies) :
    (collect S).files = (collect T).files := by
  refine map_eq_of_map_eq ?_ (FileSet.toList_of_tallies h)
  rintro ⟨n, d⟩ ⟨m, e⟩ heq
  obtain ⟨rfl, htally⟩ := Prod.mk.inj heq
  have hlines : d.lines = e.lines := congrArg Tally.lines htally
  show fileEntry n d = fileEntry n e
  rw [fileEntry, fileEntry, FileData.ratios_of_tally htally, hlines]

/-- Apart from starts, the functions of a file show its tally only. -/
theorem withoutStart_functionEntries (file : String) (d : FileData) :
    (functionEntries file d).map FunctionEntry.withoutStart
      = d.tally.functions.toList.map fun p => ⟨p.1, file, 0, p.2⟩ := by
  unfold FileData.tally functionEntries
  rw [Std.ExtTreeMap.toList_map, List.map_map, List.map_map]
  rfl

/-- Apart from starts, the functions of a report show tallies only, and
so does their order. -/
theorem functions_of_tallies (h : S.tallies = T.tallies) :
    (collect S).functions.map FunctionEntry.withoutStart
      = (collect T).functions.map FunctionEntry.withoutStart := by
  have hsort : ∀ l : List FunctionEntry,
      (l.mergeSort FunctionEntry.precedes).map FunctionEntry.withoutStart
        = (l.map FunctionEntry.withoutStart).mergeSort
            FunctionEntry.precedes := fun l =>
    List.map_mergeSort fun _ _ _ _ => rfl
  show (List.mergeSort _ _).map _ = (List.mergeSort _ _).map _
  rw [hsort, hsort, List.map_flatMap, List.map_flatMap,
    List.flatMap_def, List.flatMap_def]
  refine congrArg (fun l => (List.flatten l).mergeSort _)
    (map_eq_of_map_eq ?_ (FileSet.toList_of_tallies h))
  rintro ⟨n, d⟩ ⟨m, e⟩ heq
  obtain ⟨rfl, htally⟩ := Prod.mk.inj heq
  show (functionEntries n d).map _ = (functionEntries n e).map _
  rw [withoutStart_functionEntries, withoutStart_functionEntries, htally]

/-- A function is listed with the start that the set has for it. -/
theorem start_of_mem {e : FunctionEntry}
    (he : e ∈ (collect S).functions) :
    (S.get? e.file).isSome ∧ e.start = S.startOf e.file e.name := by
  obtain ⟨d, f, hd, hf, hstart, -⟩ :=
    (mem_functions_withStatistics _ S e).1 he
  constructor
  · rw [hd]
    rfl
  · rw [hstart, FileSet.startOf, hd]
    show f.start = (d.functions[e.name]?.getD 0).start
    rw [hf]
    rfl

/-- Reports of sets with the same tallies agree, up to starts. Where the
sets have the same start, the reports do. -/
theorem agrees_of_tallies (h : S.tallies = T.tallies)
    {settled : String → String → Prop}
    (hstart : ∀ n g, (S.get? n).isSome → (T.get? n).isSome →
      settled n g → S.startOf n g = T.startOf n g) :
    Agrees settled (collect S) (collect T) where
  totals := by
    have hfiles := files_of_tallies h
    exact congrArg (fun es : List FileEntry => Ratios.mk
      (.sum (es.map (·.ratios.lines))) (.sum (es.map (·.ratios.functions)))
      (.sum (es.map (·.ratios.branches)))
      (.sum (es.map (·.ratios.regions)))) hfiles
  files := files_of_tallies h
  functions := by
    have hsame := functions_of_tallies h
    refine List.forall₂_iff_get.2 ⟨?_, fun i hi hj => ?_⟩
    · have hlength := congrArg List.length hsame
      rwa [List.length_map, List.length_map] at hlength
    · -- entries in the same place differ in the start at most
      have heq : ((collect S).functions[i]).withoutStart
          = ((collect T).functions[i]).withoutStart := by
        have hget := congrArg (·[i]?) hsame
        simpa only [List.getElem?_map, List.getElem?_eq_getElem hi,
          List.getElem?_eq_getElem hj, Option.map_some,
          Option.some_inj] using hget
      have hname := congrArg FunctionEntry.name heq
      have hfile := congrArg FunctionEntry.file heq
      have hhits := congrArg FunctionEntry.hits heq
      refine ⟨hname, hfile, hhits, fun hsettled => ?_⟩
      -- the start of an entry is the one in the set
      obtain ⟨hS, hstartS⟩ := start_of_mem (List.getElem_mem hi)
      obtain ⟨hT, hstartT⟩ := start_of_mem (List.getElem_mem hj)
      have hname' : (collect T).functions[i].name
          = (collect S).functions[i].name := hname.symm
      have hfile' : (collect T).functions[i].file
          = (collect S).functions[i].file := hfile.symm
      rw [hfile', hname'] at hstartT
      rw [hfile'] at hT
      show (collect S).functions[i].start = (collect T).functions[i].start
      rw [hstartS, hstartT]
      exact hstart _ _ hS hT hsettled

end Report

-- ============================================================== loading

section

variable [Libraries]

/-- Some input supplies this start line for the function, in a file whose
name becomes the given one. -/
def Supplied (s : Settings) (inputs : List Input) (f : String → String)
    (file g : String) (start : Nat) : Prop :=
  ∃ i ∈ inputs, ∃ n, f n = file ∧ Supplies (i.journal s).edits n g start

/-- All start lines that the inputs supply for the function agree. -/
def StartsAgree (s : Settings) (inputs : List Input)
    (f : String → String) (file g : String) : Prop :=
  ∀ u v, Supplied s inputs f file g u → Supplied s inputs f file g v →
    u = v

/-- Which start lines there are does not depend on the order. -/
theorem supplied_of_perm {inputs shuffled : List Input}
    (h : inputs.Perm shuffled) {s : Settings} {f : String → String}
    {file g : String} (start : Nat) :
    Supplied s shuffled f file g start
      ↔ Supplied s inputs f file g start :=
  exists_congr fun _ => and_congr_left fun _ => h.mem_iff.symm

namespace FileSet

/-- The set that the edits of all inputs make. -/
def loaded (s : Settings) (inputs : List Input) : FileSet :=
  FileSet.empty.applyAll (inputs.flatMap fun i => (i.journal s).edits)

variable {s : Settings} {inputs shuffled : List Input}

/-- Inputs that can be decoded are, and all their edits are made. -/
theorem loadInputs_of_no_fault (S : FileSet) (count : Nat)
    (hok : ∀ i ∈ inputs, (i.journal s).fault = none) :
    S.loadInputs s count inputs
      = (S.applyAll (inputs.flatMap fun i => (i.journal s).edits),
          .ok (count + inputs.length)) := by
  induction inputs generalizing S count with
  | nil => rfl
  | cons i rest ih =>
      have hi := hok i List.mem_cons_self
      have hrest := fun j hj => hok j (List.mem_cons_of_mem i hj)
      rw [loadInputs, record, hi]
      show (S.applyAll (i.journal s).edits).loadInputs s (count + 1) rest
        = _
      rw [ih _ _ hrest, List.flatMap_cons, applyAll_append,
        List.length_cons, Nat.add_right_comm, Nat.add_assoc]

/-- Loading such inputs from the start makes the set of all their
edits. -/
theorem loadInputs_eq_loaded
    (hok : ∀ i ∈ inputs, (i.journal s).fault = none) :
    FileSet.empty.loadInputs s 0 inputs
      = (loaded s inputs, .ok inputs.length) := by
  rw [loadInputs_of_no_fault FileSet.empty 0 hok, Nat.zero_add]
  rfl

/-- What is loaded is filed under its own name. -/
theorem keyed_loaded (s : Settings) (inputs : List Input) :
    (loaded s inputs).Keyed :=
  Keyed.empty.applyAll _

/-- In another order the same tallies are loaded. -/
theorem tallies_loaded_of_perm (hperm : inputs.Perm shuffled) :
    (loaded s inputs).tallies = (loaded s shuffled).tallies :=
  tallies_applyAll_of_perm FileSet.empty
    (hperm.flatMap_right fun i => (i.journal s).edits)

/-- A function starts where one of the inputs says, if any does. -/
theorem picks_loaded (s : Settings) (inputs : List Input)
    (n g : String) :
    Picks ((loaded s inputs).startOf n g) (Supplied s inputs id n g) := by
  refine (picks_applyAll _ n g).congr fun u => ?_
  constructor
  · rintro ⟨hu, hits, he⟩
    obtain ⟨i, hi, he⟩ := List.mem_flatMap.1 he
    exact ⟨i, hi, n, rfl, hu, hits, he⟩
  · rintro ⟨i, hi, n, rfl, hu, hits, he⟩
    exact ⟨hu, hits, List.mem_flatMap.2 ⟨i, hi, he⟩⟩

/-- So it does after processing. -/
theorem picks_process_loaded (hs : s.RootAbsolute)
    (hfault : ((loaded s inputs).process s).2 = none) {m : String}
    (hm : (((loaded s inputs).process s).1.get? m).isSome) (g : String) :
    Picks (((loaded s inputs).process s).1.startOf m g)
      (Supplied s inputs s.nameOf m g) := by
  refine (picks_process hs (keyed_loaded s inputs) hfault
    (fun n => picks_loaded s inputs n g) hm).congr fun u => ?_
  constructor
  · rintro ⟨n, hn, i, hi, k, rfl, hu⟩
    exact ⟨i, hi, k, hn, hu⟩
  · rintro ⟨i, hi, n, hn, hu⟩
    exact ⟨n, hn, i, hi, n, rfl, hu⟩

/-- Inputs that can all be decoded can be loaded in any order. In either
order processing, under an absolute source root or none, has the same
outcome, and the reports agree, before processing and after it if it
succeeds. A function starts at the same line if the start lines agree
that the inputs supply for it. -/
theorem collect_loadInputs_of_perm (hs : s.RootAbsolute)
    (hperm : inputs.Perm shuffled)
    (hok : ∀ i ∈ inputs, (i.journal s).fault = none) :
    ∃ S T,
      FileSet.empty.loadInputs s 0 inputs = (S, .ok inputs.length)
      ∧ FileSet.empty.loadInputs s 0 shuffled = (T, .ok inputs.length)
      ∧ (S.process s).2 = (T.process s).2
      ∧ Report.Agrees (StartsAgree s inputs id)
          (.collect S) (.collect T)
      ∧ ((S.process s).2 = none →
          Report.Agrees (StartsAgree s inputs s.nameOf)
            (.collect (S.process s).1) (.collect (T.process s).1)) := by
  have hok' : ∀ i ∈ shuffled, (i.journal s).fault = none := fun i hi =>
    hok i (hperm.mem_iff.2 hi)
  have htallies := tallies_loaded_of_perm (s := s) hperm
  obtain ⟨hfault, hprocessed⟩ := tallies_process hs
    (keyed_loaded s inputs) (keyed_loaded s shuffled) htallies
  refine ⟨loaded s inputs, loaded s shuffled, loadInputs_eq_loaded hok,
    hperm.length_eq ▸ loadInputs_eq_loaded hok', hfault, ?_,
    fun hnone => ?_⟩
  · refine Report.agrees_of_tallies htallies fun n g _ _ hagree => ?_
    have hpick := (picks_loaded s shuffled n g).congr
      (supplied_of_perm hperm)
    exact (picks_loaded s inputs n g).unique hpick hagree
  · refine Report.agrees_of_tallies hprocessed fun m g hm hm' hagree => ?_
    have hpick := (picks_process_loaded hs (hfault ▸ hnone) hm' g).congr
      (supplied_of_perm hperm)
    exact (picks_process_loaded hs hnone hm g).unique hpick hagree

end FileSet

end

namespace FileSet

open BuiltIn

/-- A run that knows where the function starts, but did not call it. -/
def gcovRun : Input :=
  ⟨"run.gcov", .gcov,
    .ok "file:/r/a.c\nfunction:4,0,f\n".toUTF8.data.toList⟩

/-- A run that called the function. -/
def lcovRun : Input :=
  ⟨"run.info", .lcov,
    .ok "SF:/r/a.c\nFNDA:2,f\nend_of_record\n".toUTF8.data.toList⟩

/-- The two runs in either order, with names relative to `/r`. -/
theorem collect_loadInputs_runs :
    let s : Settings := { sourceRoot := some ['/', 'r'] }
    s.RootAbsolute ∧ [gcovRun, lcovRun].Perm [lcovRun, gcovRun]
      ∧ (∀ i ∈ [gcovRun, lcovRun], (i.journal s).fault = none)
      ∧ ∃ S T,
        FileSet.empty.loadInputs s 0 [gcovRun, lcovRun] = (S, .ok 2)
        ∧ FileSet.empty.loadInputs s 0 [lcovRun, gcovRun] = (T, .ok 2)
        ∧ (S.process s).2 = none ∧ (T.process s).2 = none
        ∧ Report.Agrees (StartsAgree s [gcovRun, lcovRun] id)
            (.collect S) (.collect T)
        ∧ Report.Agrees (StartsAgree s [gcovRun, lcovRun] s.nameOf)
            (.collect (S.process s).1) (.collect (T.process s).1) := by
  intro s
  have hs : s.RootAbsolute := by
    intro root hroot
    cases hroot
    rfl
  have hperm : [gcovRun, lcovRun].Perm [lcovRun, gcovRun] :=
    .swap lcovRun gcovRun []
  have hok : ∀ i ∈ [gcovRun, lcovRun], (i.journal s).fault = none := by
    decide
  obtain ⟨S, T, hS, hT, hfault, hbefore, hafter⟩ :=
    collect_loadInputs_of_perm hs hperm hok
  have hnone : (S.process s).2 = none := by
    have hloaded : ((FileSet.empty.loadInputs s 0
        [gcovRun, lcovRun]).1.process s).2 = none := by
      decide +kernel
    rwa [hS] at hloaded
  exact ⟨hs, hperm, hok, S, T, hS, hT, hnone, hfault ▸ hnone, hbefore,
    hafter hnone⟩

end FileSet

end Coverage
