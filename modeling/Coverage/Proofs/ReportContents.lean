/-
What a report says of a set of files. It has one entry for each file, in
the order of the names, and one for each function of each file, in the
order of names and files. Its totals are those of the set and the sums of
those of the files, no ratio exceeds one, and the ratio of functions counts
the functions that are listed. The lines of a file that its ratio leaves
out are those that lie in its missed ranges (`Report.RollsUp`). None of
this depends on what the report said before.

# How it is proved

The ratios count the same things in three places: in the ledgers of a file,
in the entries of a report, and in the set. `Ratio.countIn_flatMap` leads
from one to the next, since counting in parts and adding up is counting in
all of them. Sorting functions changes neither what they are nor how many
(`List.mergeSort_perm`); no two have both name and file in common, so an
order that allows for equals is strict here (`pairwise_before_mergeSort`).
That missed lines are the ones in missed ranges is
`isMissedRanges_missedRanges`.
-/
import Mathlib.Algebra.Order.BigOperators.Group.List
import Mathlib.Algebra.Order.Ring.Nat
import Coverage.Proofs.FileSet
import Coverage.Proofs.MissedRanges
import Coverage.Report

namespace Coverage

-- =============================================================== ratios

namespace Ratio

/-- Hits and totals are added up separately. -/
theorem sum_eq (parts : List Ratio) :
    sum parts = ⟨(parts.map (·.hits)).sum, (parts.map (·.total)).sum⟩ := by
  have hfold : ∀ r : Ratio, parts.foldl (· + ·) r
      = ⟨r.hits + (parts.map (·.hits)).sum,
          r.total + (parts.map (·.total)).sum⟩ := by
    induction parts with
    | nil => exact fun r => rfl
    | cons p parts ih =>
        intro r
        rw [List.foldl_cons, ih, hits_add, total_add]
        simp only [List.map_cons, List.sum_cons, Nat.add_assoc]
  rw [sum, hfold, hits_zero, total_zero, Nat.zero_add, Nat.zero_add]

/-- A sum does not exceed one if no part does. -/
theorem hits_le_total_sum {parts : List Ratio}
    (h : ∀ r ∈ parts, r.hits ≤ r.total) :
    (sum parts).hits ≤ (sum parts).total := by
  rw [sum_eq]
  exact List.sum_le_sum h

section Counting

variable {α β : Type} (hit : β → Bool)

theorem hits_le_total_countIn (items : List β) :
    (countIn hit items).hits ≤ (countIn hit items).total :=
  List.countP_le_length

/-- A ratio does not depend on the order of the items. -/
theorem countIn_of_perm {items items' : List β} (h : items.Perm items') :
    countIn hit items = countIn hit items' := by
  rw [countIn, countIn, h.countP_eq, h.length_eq]

/-- Counting in parts and adding up is counting in all of them. -/
theorem countIn_flatMap (parts : List α) (f : α → List β) :
    countIn hit (parts.flatMap f)
      = sum (parts.map fun a => countIn hit (f a)) := by
  rw [sum_eq, List.map_map, List.map_map, countIn, List.countP_flatMap,
    List.length_flatMap]
  rfl

end Counting

end Ratio

/-- None of the four ratios exceeds one. -/
structure Ratios.Bounded (r : Ratios) : Prop where
  lines : r.lines.hits ≤ r.lines.total
  functions : r.functions.hits ≤ r.functions.total
  branches : r.branches.hits ≤ r.branches.total
  regions : r.regions.hits ≤ r.regions.total

theorem FileData.bounded_ratios (d : FileData) : d.ratios.Bounded where
  lines := Ratio.hits_le_total_countIn _ _
  functions := Ratio.hits_le_total_countIn _ _
  branches := Ratio.hits_le_total_countIn _ _
  regions := Ratio.hits_le_total_countIn _ _

theorem FileSet.bounded_ratios (S : FileSet) : S.ratios.Bounded := by
  have hsum : ∀ part : FileData → Ratio,
      (∀ d, (part d).hits ≤ (part d).total) →
        (Ratio.sum (S.values.map part)).hits
          ≤ (Ratio.sum (S.values.map part)).total := by
    intro part hpart
    refine Ratio.hits_le_total_sum fun r hr => ?_
    obtain ⟨d, -, rfl⟩ := List.mem_map.1 hr
    exact hpart d
  exact ⟨hsum _ fun d => d.bounded_ratios.lines,
    hsum _ fun d => d.bounded_ratios.functions,
    hsum _ fun d => d.bounded_ratios.branches,
    hsum _ fun d => d.bounded_ratios.regions⟩

-- ========================================================= missed lines

/-- A line with data lies in a missed range just when it was never hit. -/
theorem exists_missedRange_iff (m : Ledger Nat Count) {line : Nat}
    {c : Count} (hc : m[line]? = some c) :
    (∃ r ∈ missedRanges m, r.Contains line) ↔ c.isHit = false := by
  have hranges := isMissedRanges_missedRanges m
  constructor
  · rintro ⟨r, hr, hin⟩
    rw [Bool.eq_false_iff]
    exact fun hhit => hranges.clear line c hc hhit r hr hin
  · intro hmissed
    rw [(Count.isHit_eq_false_iff c).1 hmissed] at hc
    obtain ⟨r, ⟨hr, hin⟩, -⟩ := hranges.covered line hc
    exact ⟨r, hr, hin⟩

/-- There is no missed range just when every line was hit. -/
theorem missedRanges_eq_nil_iff (m : Ledger Nat Count) :
    missedRanges m = []
      ↔ ∀ (line : Nat) (c : Count), m[line]? = some c → c.isHit = true := by
  constructor
  · intro hnil line c hc
    rw [← Bool.not_eq_false, ← exists_missedRange_iff m hc, hnil]
    rintro ⟨r, hr, -⟩
    cases hr
  · intro hall
    refine List.eq_nil_iff_forall_not_mem.2 fun r hr => ?_
    have hfirst := ((isMissedRanges_missedRanges m).ends r hr).1
    cases hall _ _ hfirst

/-- The lines that were hit and those that lie in missed ranges are all
lines. -/
theorem countP_isHit_add_countP_missed (m : Ledger Nat Count) :
    m.values.countP Count.isHit
        + m.keys.countP (fun line => ∃ r ∈ missedRanges m, r.Contains line)
      = m.values.length := by
  have hmissed : m.toList.countP
        (fun e => ∃ r ∈ missedRanges m, r.Contains e.1)
      = m.toList.countP fun e => !e.2.isHit := by
    refine List.countP_congr fun e he => ?_
    have he := Std.ExtTreeMap.mem_toList_iff_getElem?_eq_some.1 he
    rw [decide_eq_true_eq, Bool.not_eq_true', exists_missedRange_iff m he]
  rw [← Std.ExtTreeMap.map_fst_toList_eq_keys,
    Ledger.values_eq_map_toList, List.countP_map, List.countP_map,
    List.length_map,
    List.length_eq_countP_add_countP (fun e : Nat × Count => e.2.isHit)]
  refine congrArg₂ (· + ·) rfl (hmissed.trans ?_)
  simp only [Bool.not_eq_true, Bool.decide_eq_false]

-- ================================================== the order of functions

namespace FunctionEntry

/-- The entry stands before the other, by name and then by file. -/
def Before (a b : FunctionEntry) : Prop :=
  a.name < b.name ∨ a.name = b.name ∧ a.file < b.file

/-- Functions compared by name, and those of one name by file. -/
def order : FunctionEntry → FunctionEntry → Ordering :=
  compareLex (compareOn (·.name)) (compareOn (·.file))

instance : Std.TransCmp order :=
  inferInstanceAs (Std.TransCmp (compareLex _ _))

theorem precedes_eq (a b : FunctionEntry) :
    a.precedes b = (order a b).isLE := rfl

/-- Of two different functions one that precedes the other stands before
it. -/
theorem before_of_precedes {a b : FunctionEntry} (h : a.precedes b)
    (hne : a.name = b.name → a.file ≠ b.file) : a.Before b := by
  rw [precedes, Ordering.isLE_then_iff_or] at h
  rcases h with hname | ⟨hname, hfile⟩
  · exact .inl (compareOfLessAndEq_eq_lt.1 hname)
  · have hname := Std.LawfulEqOrd.eq_of_compare hname
    refine .inr ⟨hname, ?_⟩
    cases hcompare : compare a.file b.file with
    | lt => exact compareOfLessAndEq_eq_lt.1 hcompare
    | eq => exact absurd (Std.LawfulEqOrd.eq_of_compare hcompare) (hne hname)
    | gt =>
        rw [hcompare] at hfile
        cases hfile

/-- Sorted, different functions are in strict order. -/
theorem pairwise_before_mergeSort {es : List FunctionEntry}
    (h : es.Pairwise fun a b => a.name = b.name → a.file ≠ b.file) :
    (es.mergeSort precedes).Pairwise Before := by
  have hsorted : (es.mergeSort precedes).Pairwise
      fun a b => a.precedes b := by
    refine List.pairwise_mergeSort (fun a b c hab hbc => ?_)
      (fun a b => ?_) es
    · rw [precedes_eq] at hab hbc ⊢
      exact Std.TransCmp.isLE_trans hab hbc
    · have hswap : order b a = (order a b).swap := Std.OrientedCmp.eq_swap
      rw [precedes_eq, precedes_eq, hswap]
      cases order a b <;> rfl
  have hdifferent : (es.mergeSort precedes).Pairwise fun a b =>
      a.name = b.name → a.file ≠ b.file :=
    h.perm (List.mergeSort_perm es precedes).symm
      fun hab hname hfile => hab hname.symm hfile.symm
  exact hsorted.imp₂ (fun _ _ hle hne => before_of_precedes hle hne) hdifferent

end FunctionEntry

-- ============================================================= reports

/-- The entry says of the file how much of it ran and where it did not: what
its ratio of lines leaves out lies in its missed ranges. -/
structure FileEntry.Describes (e : FileEntry) (d : FileData) : Prop where
  ratios : e.ratios = d.ratios
  bounded : e.ratios.Bounded
  missed : e.missed = missedRanges d.lines
  unhit : e.ratios.lines.total - e.ratios.lines.hits
    = d.lines.keys.countP fun line => ∃ r ∈ e.missed, r.Contains line
  complete : e.missed = []
    ↔ ∀ (line : Nat) (c : Count), d.lines[line]? = some c → c.isHit = true

/-- The entry of a file describes it. -/
theorem FileEntry.describes_fileEntry (name : String) (d : FileData) :
    (Report.fileEntry name d).Describes d where
  ratios := rfl
  bounded := d.bounded_ratios
  missed := rfl
  unhit := by
    have hcount : d.lineRatio.hits
        + d.lines.keys.countP
            (fun line => ∃ r ∈ missedRanges d.lines, r.Contains line)
        = d.lineRatio.total := countP_isHit_add_countP_missed d.lines
    exact Nat.sub_eq_of_eq_add' hcount.symm
  complete := missedRanges_eq_nil_iff d.lines

namespace Report

/-- The report lists the files of the set and their functions, once each
and in order, with totals that are those of the set and those of the
entries. -/
structure RollsUp (r : Report) (S : FileSet) : Prop where
  names : r.files.map (·.name) = S.names
  filesSorted : r.files.Pairwise fun a b => a.name < b.name
  files : ∀ e ∈ r.files, ∃ d, S.get? e.name = some d ∧ e.Describes d
  functionsSorted : r.functions.Pairwise FunctionEntry.Before
  functions : ∀ e, e ∈ r.functions
    ↔ ∃ d f, S.get? e.file = some d ∧ d.functions[e.name]? = some f
      ∧ e.start = f.start ∧ e.hits = f.hits
  totals : r.totals = S.ratios
  sums : r.totals =
    { lines := .sum (r.files.map (·.ratios.lines))
      functions := .sum (r.files.map (·.ratios.functions))
      branches := .sum (r.files.map (·.ratios.branches))
      regions := .sum (r.files.map (·.ratios.regions)) }
  bounded : r.totals.Bounded
  functionsTotal : r.totals.functions.total = r.functions.length
  functionsHit : r.totals.functions.hits
    = r.functions.countP (·.hits.isHit)

variable (r : Report) (S : FileSet)

/-- Sums over the files of a set may be taken over its listing. -/
theorem sum_map_values (part : FileData → Ratio) :
    Ratio.sum (S.values.map part)
      = .sum (S.toList.map fun p => part p.2) := by
  rw [FileSet.values_eq_map_toList, List.map_map]
  rfl

/-- The totals of a report are those of the set. -/
theorem totals_withStatistics : (r.withStatistics S).totals = S.ratios := by
  have hsum : ∀ part : Ratios → Ratio,
      Ratio.sum ((r.withStatistics S).files.map fun e => part e.ratios)
        = .sum (S.values.map fun d => part d.ratios) := by
    intro part
    rw [sum_map_values, withStatistics, List.map_map]
    rfl
  have hsums : (r.withStatistics S).totals
      = ⟨.sum ((r.withStatistics S).files.map (·.ratios.lines)),
          .sum ((r.withStatistics S).files.map (·.ratios.functions)),
          .sum ((r.withStatistics S).files.map (·.ratios.branches)),
          .sum ((r.withStatistics S).files.map (·.ratios.regions))⟩ := rfl
  rw [hsums, hsum (·.lines), hsum (·.functions), hsum (·.branches),
    hsum (·.regions)]
  rfl

/-- The functions of a file are listed with their start and their hits. -/
theorem mem_functionEntries (file : String) (d : FileData)
    (e : FunctionEntry) :
    e ∈ functionEntries file d
      ↔ e.file = file ∧ ∃ f, d.functions[e.name]? = some f
        ∧ e.start = f.start ∧ e.hits = f.hits := by
  unfold functionEntries
  rw [List.mem_map]
  constructor
  · rintro ⟨⟨g, f⟩, hf, rfl⟩
    exact ⟨rfl, f, Std.ExtTreeMap.mem_toList_iff_getElem?_eq_some.1 hf,
      rfl, rfl⟩
  · obtain ⟨g, n, start, hits⟩ := e
    rintro ⟨rfl, f, hf, rfl, rfl⟩
    exact ⟨(g, f), Std.ExtTreeMap.mem_toList_iff_getElem?_eq_some.2 hf, rfl⟩

/-- The functions of a report are those of the files of the set. -/
theorem mem_functions_withStatistics (e : FunctionEntry) :
    e ∈ (r.withStatistics S).functions
      ↔ ∃ d f, S.get? e.file = some d ∧ d.functions[e.name]? = some f
        ∧ e.start = f.start ∧ e.hits = f.hits := by
  rw [withStatistics, List.mem_mergeSort, List.mem_flatMap]
  constructor
  · rintro ⟨⟨n, d⟩, hd, he⟩
    obtain ⟨rfl, f, hf⟩ := (mem_functionEntries n d e).1 he
    exact ⟨d, f, (S.mem_toList).1 hd, hf⟩
  · rintro ⟨d, f, hd, hf⟩
    exact ⟨(e.file, d), (S.mem_toList).2 hd,
      (mem_functionEntries e.file d e).2 ⟨rfl, f, hf⟩⟩

/-- No function is listed twice, and they are in order. -/
theorem pairwise_functions_withStatistics :
    (r.withStatistics S).functions.Pairwise FunctionEntry.Before := by
  refine FunctionEntry.pairwise_before_mergeSort ?_
  rw [List.pairwise_flatMap]
  constructor
  · -- functions of one file differ by name
    rintro ⟨n, d⟩ -
    refine List.pairwise_map.2 ?_
    exact (Ledger.pairwise_ne_toList d.functions).imp
      fun hne hname => absurd hname hne
  · -- those of two files differ by file
    refine S.pairwise_ne_toList.imp ?_
    intro p q hne a ha b hb hname
    rw [((mem_functionEntries _ _ a).1 ha).1,
      ((mem_functionEntries _ _ b).1 hb).1]
    exact hne

/-- The ratio of functions counts those that are listed. -/
theorem functionRatio_eq_countIn :
    S.functionRatio
      = .countIn (·.hits.isHit) (r.withStatistics S).functions := by
  have hfile : ∀ p : String × FileData, p.2.functionRatio
      = .countIn (·.hits.isHit) (functionEntries p.1 p.2) := by
    intro p
    rw [FileData.functionRatio, Ledger.values_eq_map_toList,
      functionEntries, Ratio.countIn, Ratio.countIn, List.countP_map,
      List.countP_map, List.length_map, List.length_map]
    rfl
  calc S.functionRatio
      = .sum (S.toList.map fun p => p.2.functionRatio) := sum_map_values S _
    _ = .sum (S.toList.map fun p =>
          .countIn (·.hits.isHit) (functionEntries p.1 p.2)) := by
        simp only [hfile]
    _ = .countIn (·.hits.isHit)
          (S.toList.flatMap fun p => functionEntries p.1 p.2) :=
        (Ratio.countIn_flatMap _ _ _).symm
    _ = .countIn (·.hits.isHit) (r.withStatistics S).functions :=
        Ratio.countIn_of_perm _ (List.mergeSort_perm _ _).symm

/-- Collecting statistics keeps the heading of a report, whatever else it
said before, and rolls up the set. -/
theorem rollsUp_withStatistics :
    r.withStatistics S
        = { collect S with
            title := r.title, testId := r.testId, sourceId := r.sourceId }
      ∧ (r.withStatistics S).RollsUp S := by
  have htotals := totals_withStatistics r S
  have hfunctions : (r.withStatistics S).totals.functions
      = .countIn (·.hits.isHit) (r.withStatistics S).functions := by
    rw [htotals]
    exact functionRatio_eq_countIn r S
  refine ⟨rfl, ?_⟩
  constructor
  case names =>
    rw [S.names_eq_map_toList, withStatistics, List.map_map]
    rfl
  case filesSorted => exact List.pairwise_map.2 S.pairwise_lt_toList
  case files =>
    intro e he
    obtain ⟨⟨n, d⟩, hd, rfl⟩ := List.mem_map.1 he
    exact ⟨d, S.mem_toList.1 hd, FileEntry.describes_fileEntry n d⟩
  case functionsSorted => exact pairwise_functions_withStatistics r S
  case functions => exact mem_functions_withStatistics r S
  case totals => exact htotals
  case sums => rfl
  case bounded =>
    rw [htotals]
    exact S.bounded_ratios
  case functionsTotal =>
    rw [hfunctions]
    rfl
  case functionsHit =>
    rw [hfunctions]
    rfl

end Report

end Coverage
