/-
The spans of functions cut a file into pieces, and the listings give each
function and each line its piece. From the least known start line on every
line lies in exactly one span (`FileData.IsSpanned`). Every function whose
start is known is named once, under its own start, and the lines listed
under the spans, one span after the other, are the lines of the file from
the least start on (`FileData.IsListed`).

# How it is proved

The start lines are strictly increasing, and everything about spans
follows by going through them as `spansFrom` does, two neighbours at a
time. A sorted list is cut at each start into what lies before it and what
does not (`filter_lt_append_filter_le`); putting the pieces together again
gives the list.

`functionListings?` asks for the lines of a span by its ends, as words, and
computes the ends with operations that may fail. No start is zero, so none
of them does.
-/
import Mathlib.Data.List.Chain
import Mathlib.Data.List.Perm.Basic
import Mathlib.Data.Set.Basic
import Mathlib.Order.Bounds.Defs
import Coverage.FunctionSpan
import Coverage.Proofs.Ledger
import Coverage.Proofs.LineWords

namespace Coverage

-- ========================================================= sorted lists

/-- A sorted list is what lies before a number and then the rest. -/
theorem filter_lt_append_filter_le {α : Type} {f : α → Nat} {l : List α}
    (hsorted : l.Pairwise fun a b => f a < f b) (n : Nat) :
    l.filter (fun a => decide (f a < n))
      ++ l.filter (fun a => decide (n ≤ f a)) = l := by
  induction l with
  | nil => rfl
  | cons a l ih =>
      obtain ⟨ha, hsorted⟩ := List.pairwise_cons.1 hsorted
      by_cases hlt : f a < n
      · rw [List.filter_cons_of_pos (by simpa using hlt),
          List.filter_cons_of_neg (by simpa using hlt), List.cons_append,
          ih hsorted]
      · have hnone : l.filter (fun b => decide (f b < n)) = [] := by
          rw [List.filter_eq_nil_iff]
          intro b hb
          have hab := ha b hb
          simp only [decide_eq_true_eq]
          omega
        rw [List.filter_cons_of_neg (by simpa using hlt),
          List.filter_cons_of_pos (by simpa using hlt), hnone,
          List.nil_append]
        congr 1
        rw [List.filter_eq_self]
        intro b hb
        have hab := ha b hb
        rw [decide_eq_true_eq]
        omega

/-- Taking from a list what belongs to one key after the other takes what
belongs to any of them, if no key comes twice. -/
theorem flatMap_filter_perm {α : Type} (f : α → Nat) (l : List α)
    {keys : List Nat} (hnodup : keys.Nodup) :
    (keys.flatMap fun k => l.filter (f · == k)).Perm
      (l.filter fun a => decide (f a ∈ keys)) := by
  induction keys with
  | nil =>
      have hnone : l.filter (fun a => decide (f a ∈ ([] : List Nat))) = [] := by
        simp
      rw [hnone]
      exact .refl _
  | cons k keys ih =>
      obtain ⟨hk, hnodup⟩ := List.nodup_cons.1 hnodup
      have hhead : l.filter (f · == k)
          = (l.filter fun a => decide (f a ∈ k :: keys)).filter (f · == k) := by
        rw [List.filter_filter]
        refine List.filter_congr fun a _ => ?_
        by_cases heq : f a = k
        · simp [heq]
        · simp [heq]
      have htail : l.filter (fun a => decide (f a ∈ keys))
          = (l.filter fun a => decide (f a ∈ k :: keys)).filter
              (fun a => !(f a == k)) := by
        rw [List.filter_filter]
        refine List.filter_congr fun a _ => ?_
        by_cases heq : f a = k
        · simp [heq, hk]
        · simp [heq]
      rw [List.flatMap_cons]
      refine ((ih hnodup).append_left _).trans ?_
      rw [hhead, htail]
      exact List.filter_append_perm _ _

-- ================================================================ spans

namespace FunctionSpan

theorem contains_iff (s : FunctionSpan) (line : Nat) :
    s.contains line = true
      ↔ s.first ≤ line ∧ ∀ last ∈ s.last, line ≤ last := by
  rw [contains, Bool.and_eq_true, decide_eq_true_eq]
  cases s.last <;> simp

end FunctionSpan

theorem map_first_spansFrom (starts : List Nat) :
    (spansFrom starts).map (·.first) = starts := by
  fun_induction spansFrom starts with
  | case1 => rfl
  | case2 first => rfl
  | case3 first next rest ih => rw [List.map_cons, ih]

/-- A span begins with one of the starts. -/
theorem first_mem_of_mem_spansFrom {starts : List Nat} {s : FunctionSpan}
    (h : s ∈ spansFrom starts) : s.first ∈ starts := by
  have hmem : s.first ∈ (spansFrom starts).map (·.first) :=
    List.mem_map_of_mem h
  rwa [map_first_spansFrom] at hmem

/-- Each span ends just before the next one. -/
theorem isChain_spansFrom {starts : List Nat} (hzero : 0 ∉ starts) :
    (spansFrom starts).IsChain fun s t =>
      ∃ last, s.last = some last ∧ last + 1 = t.first := by
  fun_induction spansFrom starts with
  | case1 => exact .nil
  | case2 first => exact .singleton _
  | case3 first next rest ih =>
      have hrest := ih fun hmem => hzero (List.mem_cons_of_mem _ hmem)
      have hnext : next ≠ 0 := by
        rintro rfl
        exact hzero (by simp)
      have hhead : ((spansFrom (next :: rest)).head?).map (·.first)
          = some next := by
        rw [← List.head?_map, map_first_spansFrom]
        rfl
      refine List.isChain_cons.2 ⟨fun t ht => ⟨next - 1, rfl, ?_⟩, hrest⟩
      rw [Option.mem_def.1 ht, Option.map_some, Option.some_inj] at hhead
      omega

/-- The last span runs to the end of the file. -/
theorem last_of_mem_getLast?_spansFrom {starts : List Nat} :
    ∀ s ∈ (spansFrom starts).getLast?, s.last = none := by
  fun_induction spansFrom starts with
  | case1 => simp
  | case2 first => simp
  | case3 first next rest ih =>
      have hne : spansFrom (next :: rest) ≠ [] := by
        intro hnil
        have hmap := map_first_spansFrom (next :: rest)
        rw [hnil] at hmap
        cases hmap
      rw [List.getLast?_cons_of_ne_nil hne]
      exact ih

/-- A span does not end before it begins. -/
theorem first_le_of_mem_spansFrom {starts : List Nat}
    (hsorted : starts.Pairwise (· < ·)) :
    ∀ s ∈ spansFrom starts, ∀ last ∈ s.last, s.first ≤ last := by
  fun_induction spansFrom starts with
  | case1 => simp
  | case2 first => simp
  | case3 first next rest ih =>
      obtain ⟨hfirst, hrest⟩ := List.pairwise_cons.1 hsorted
      intro s hs last hlast
      rcases List.mem_cons.1 hs with rfl | hs
      · have hnext := hfirst next List.mem_cons_self
        cases hlast
        show first ≤ next - 1
        omega
      · exact ih hrest s hs last hlast

/-- No span begins before the first start. -/
theorem not_contains_of_lt {starts : List Nat} {line : Nat}
    (h : ∀ start ∈ starts, line < start) :
    ∀ s ∈ spansFrom starts, s.contains line = false := by
  intro s hs
  have hlt := h _ (first_mem_of_mem_spansFrom hs)
  rw [← Bool.not_eq_true, s.contains_iff]
  rintro ⟨hle, -⟩
  omega

/-- From the first start on exactly one span contains a line. -/
theorem existsUnique_contains {first : Nat} {rest : List Nat}
    (hsorted : (first :: rest).Pairwise (· < ·)) {line : Nat}
    (hline : first ≤ line) :
    ∃! s, s ∈ spansFrom (first :: rest) ∧ s.contains line = true := by
  induction rest generalizing first with
  | nil =>
      refine ⟨⟨first, none⟩, ⟨List.mem_cons_self, ?_⟩, ?_⟩
      · exact (FunctionSpan.contains_iff _ _).2 ⟨hline, by simp⟩
      · rintro s ⟨hs, -⟩
        exact List.mem_singleton.1 hs
  | cons next rest ih =>
      obtain ⟨hfirst, hrest⟩ := List.pairwise_cons.1 hsorted
      have hnext := hfirst next List.mem_cons_self
      have hhead : FunctionSpan.contains ⟨first, some (next - 1)⟩ line = true
          ↔ line < next := by
        rw [FunctionSpan.contains_iff]
        constructor
        · rintro ⟨-, hle⟩
          have hle := hle _ rfl
          omega
        · intro hlt
          refine ⟨hline, fun last hlast => ?_⟩
          cases hlast
          omega
      -- The line is in the first span if it lies before the next start,
      -- and else in none but the rest.
      by_cases hlt : line < next
      · refine ⟨⟨first, some (next - 1)⟩,
          ⟨List.mem_cons_self, hhead.2 hlt⟩, ?_⟩
        rintro s ⟨hs, hin⟩
        rcases List.mem_cons.1 hs with rfl | hs
        · rfl
        · -- all other spans begin behind the line
          have hlater : ∀ start ∈ next :: rest, line < start := by
            intro start hstart
            rcases List.mem_cons.1 hstart with rfl | hstart
            · exact hlt
            · exact Nat.lt_trans hlt
                ((List.pairwise_cons.1 hrest).1 start hstart)
          rw [not_contains_of_lt hlater s hs] at hin
          cases hin
      · obtain ⟨s, ⟨hs, hin⟩, hunique⟩ := ih hrest (Nat.not_lt.1 hlt)
        refine ⟨s, ⟨List.mem_cons_of_mem _ hs, hin⟩, ?_⟩
        rintro t ⟨ht, htin⟩
        rcases List.mem_cons.1 ht with rfl | ht
        · exact absurd (hhead.1 htin) hlt
        · exact hunique t ⟨ht, htin⟩

/-- What belongs to the spans, one after the other, is what does not lie
before the first start. -/
theorem flatMap_filter_contains {first : Nat} {rest : List Nat}
    (hsorted : (first :: rest).Pairwise (· < ·)) {α : Type}
    {lines : List (Nat × α)}
    (hlines : lines.Pairwise fun a b => a.1 < b.1) :
    ((spansFrom (first :: rest)).flatMap fun s =>
        lines.filter (s.contains ·.1))
      = lines.filter fun e => decide (first ≤ e.1) := by
  induction rest generalizing first with
  | nil =>
      show lines.filter _ ++ [] = _
      rw [List.append_nil]
      refine List.filter_congr fun e _ => Bool.eq_iff_iff.2 ?_
      rw [FunctionSpan.contains_iff, decide_eq_true_eq]
      simp
  | cons next rest ih =>
      obtain ⟨hfirst, hrest⟩ := List.pairwise_cons.1 hsorted
      have hnext := hfirst next List.mem_cons_self
      -- The first span takes the lines before the next start, and the
      -- others take the rest; in order, these two make up all lines.
      have hhead : lines.filter
            (FunctionSpan.contains ⟨first, some (next - 1)⟩ ·.1)
          = (lines.filter fun e => decide (first ≤ e.1)).filter
              fun e => decide (e.1 < next) := by
        rw [List.filter_filter]
        refine List.filter_congr fun e _ => Bool.eq_iff_iff.2 ?_
        rw [FunctionSpan.contains_iff]
        simp only [Option.mem_some, forall_eq', Bool.and_eq_true,
          decide_eq_true_eq]
        omega
      have htail : lines.filter (fun e => decide (next ≤ e.1))
          = (lines.filter fun e => decide (first ≤ e.1)).filter
              fun e => decide (next ≤ e.1) := by
        rw [List.filter_filter]
        refine List.filter_congr fun e _ => Bool.eq_iff_iff.2 ?_
        simp only [Bool.and_eq_true, decide_eq_true_eq]
        omega
      have hcons : spansFrom (first :: next :: rest)
          = ⟨first, some (next - 1)⟩ :: spansFrom (next :: rest) := rfl
      rw [hcons, List.flatMap_cons, hhead, ih hrest, htail]
      exact filter_lt_append_filter_le (hlines.filter _) next

namespace FileData

variable (d : FileData)

-- ======================================================== start lines

/-- The start lines of functions, as far as they are known. -/
def knownStarts : Set Nat :=
  {line | line ≠ 0 ∧ ∃ (g : String) (f : FunctionData),
    d.functions[g]? = some f ∧ f.start = line}

theorem mem_startLines (line : Nat) :
    line ∈ d.startLines ↔ line ∈ d.knownStarts := by
  have hvalues : (∃ f ∈ d.functions.values, f.start = line)
      ↔ ∃ (g : String) (f : FunctionData),
          d.functions[g]? = some f ∧ f.start = line := by
    simp only [Ledger.values_eq_map_toList, List.mem_map, Prod.exists,
      Std.ExtTreeMap.mem_toList_iff_getElem?_eq_some, exists_eq_right]
    exact ⟨fun ⟨f, ⟨g, hg⟩, hf⟩ => ⟨g, f, hg, hf⟩,
      fun ⟨g, f, hg, hf⟩ => ⟨f, ⟨g, hg⟩, hf⟩⟩
  simp only [startLines, knownStarts, Std.ExtTreeSet.mem_toList,
    Std.ExtTreeSet.mem_ofList, List.contains_iff_mem, List.mem_filter,
    List.mem_map, bne_iff_ne, Set.mem_ofPred_eq, hvalues]
  exact and_comm

theorem pairwise_startLines : d.startLines.Pairwise (· < ·) := by
  have hsorted : d.startLines.Pairwise fun a b => compare a b = .lt :=
    Std.ExtTreeSet.ordered_toList
  exact hsorted.imp Nat.compare_eq_lt.1

theorem zero_not_mem_startLines : 0 ∉ d.startLines := by
  rw [mem_startLines]
  exact fun h => h.1 rfl

/-- The least known start is the first one. -/
theorem startLines_eq_cons {least : Nat} (h : IsLeast d.knownStarts least) :
    ∃ rest, d.startLines = least :: rest := by
  have hmem := (d.mem_startLines least).2 h.1
  have hsorted := d.pairwise_startLines
  cases hstarts : d.startLines with
  | nil =>
      rw [hstarts] at hmem
      cases hmem
  | cons first rest =>
      rw [hstarts] at hmem hsorted
      have hle : least ≤ first := by
        refine h.2 ((d.mem_startLines first).1 ?_)
        rw [hstarts]
        exact List.mem_cons_self
      rcases List.mem_cons.1 hmem with rfl | hmem
      · exact ⟨rest, rfl⟩
      · have hlt := (List.pairwise_cons.1 hsorted).1 least hmem
        omega

-- =============================================================== spans

/-- The spans cut the file at its known starts. They are in order, there is
one for each start, each ends just before the next, and only the last runs
to the end of the file. From the least start on exactly one contains a
line, and before it none. -/
structure IsSpanned (spans : List FunctionSpan) : Prop where
  sorted : spans.Pairwise fun s t => s.first < t.first
  starts : ∀ line, line ∈ spans.map (·.first) ↔ line ∈ d.knownStarts
  adjacent : spans.IsChain fun s t =>
    ∃ last, s.last = some last ∧ last + 1 = t.first
  unbounded : ∀ s ∈ spans.getLast?, s.last = none
  covered : ∀ least, IsLeast d.knownStarts least → ∀ line, least ≤ line →
    ∃! s, s ∈ spans ∧ s.contains line = true
  before : ∀ least, IsLeast d.knownStarts least → ∀ line, line < least →
    ∀ s ∈ spans, s.contains line = false

theorem isSpanned_functionSpans : d.IsSpanned d.functionSpans where
  sorted := by
    rw [← List.pairwise_map (f := FunctionSpan.first), functionSpans,
      map_first_spansFrom]
    exact d.pairwise_startLines
  starts line := by
    rw [functionSpans, map_first_spansFrom, mem_startLines]
  adjacent := isChain_spansFrom d.zero_not_mem_startLines
  unbounded := last_of_mem_getLast?_spansFrom
  covered least hleast line hline := by
    obtain ⟨rest, hstarts⟩ := d.startLines_eq_cons hleast
    have hsorted := d.pairwise_startLines
    rw [hstarts] at hsorted
    rw [functionSpans, hstarts]
    exact existsUnique_contains hsorted hline
  before least hleast line hline := by
    refine not_contains_of_lt fun start hstart => ?_
    have hle : least ≤ start := hleast.2 ((d.mem_startLines start).1 hstart)
    omega

-- ============================================================ listings

/-- The listings give every function and every line of the file its
place. -/
structure IsListed (listings : List FunctionListing) : Prop where
  spans : listings.map (·.span) = d.functionSpans
  names : ∀ l ∈ listings, ∀ g : String, g ∈ l.names
    ↔ ∃ f : FunctionData, d.functions[g]? = some f
        ∧ f.start = l.span.first
  sorted : ∀ l ∈ listings, l.names.Pairwise (· < ·)
  once : (listings.flatMap (·.names)).Perm
    ((d.functions.toList.filter fun p => p.2.start != 0).map (·.1))
  lines : ∀ l ∈ listings, ∀ (line : Nat) (c : Count), (line, c) ∈ l.lines
    ↔ d.lines[line]? = some c ∧ l.span.contains line = true
  whole : ∀ least, IsLeast d.knownStarts least →
    listings.flatMap (·.lines)
      = d.lines.toList.filter fun e => decide (least ≤ e.1)

/-- All names, start by start, are those of the functions with a known
start. -/
theorem flatMap_names_perm :
    (d.functionListings.flatMap (·.names)).Perm
      ((d.functions.toList.filter fun p => p.2.start != 0).map (·.1)) := by
  have hnames : d.functionListings.flatMap (·.names)
      = (d.startLines.flatMap fun start =>
          d.functions.toList.filter fun p => p.2.start == start).map
            (·.1) := by
    have hstarts := map_first_spansFrom d.startLines
    rw [functionListings, functionSpans, List.flatMap_map, List.map_flatMap]
    conv_rhs => rw [← hstarts, List.flatMap_map]
    rfl
  have hknown : d.functions.toList.filter
        (fun p => decide (p.2.start ∈ d.startLines))
      = d.functions.toList.filter fun p => p.2.start != 0 := by
    refine List.filter_congr fun p hp => Bool.eq_iff_iff.2 ?_
    rw [decide_eq_true_eq, mem_startLines, bne_iff_ne]
    refine and_iff_left ⟨p.1, p.2, ?_, rfl⟩
    exact Std.ExtTreeMap.mem_toList_iff_getElem?_eq_some.1 hp
  have hnodup : d.startLines.Nodup := d.pairwise_startLines.imp Nat.ne_of_lt
  rw [hnames, ← hknown]
  exact (flatMap_filter_perm (·.2.start) d.functions.toList hnodup).map _

theorem isListed_functionListings : d.IsListed d.functionListings where
  spans := by
    rw [functionListings, List.map_map]
    exact List.map_id' _
  names l hl g := by
    obtain ⟨span, -, rfl⟩ := List.mem_map.1 hl
    simp [listing, Std.ExtTreeMap.mem_toList_iff_getElem?_eq_some]
  sorted l hl := by
    obtain ⟨span, -, rfl⟩ := List.mem_map.1 hl
    exact List.pairwise_map.2
      ((Ledger.pairwise_lt_names d.functions).filter _)
  once := d.flatMap_names_perm
  lines l hl line c := by
    obtain ⟨span, -, rfl⟩ := List.mem_map.1 hl
    simp [listing, Std.ExtTreeMap.mem_toList_iff_getElem?_eq_some]
  whole least hleast := by
    obtain ⟨rest, hstarts⟩ := d.startLines_eq_cons hleast
    have hsorted := d.pairwise_startLines
    rw [hstarts] at hsorted
    rw [functionListings, functionSpans, hstarts, List.flatMap_map]
    exact flatMap_filter_contains hsorted (Ledger.pairwise_lt_toList d.lines)

end FileData

-- ============================================================ with words

/-- `spansFrom` with line numbers as words: the line before the next start
is found by a subtraction that may fail. -/
def spansFrom? : List Nat → Option (List FunctionSpan)
  | [] => some []
  | [first] => some [⟨first, none⟩]
  | first :: next :: rest => do
    let last ← LineWord.sub? next 1
    let spans ← spansFrom? (next :: rest)
    some (⟨first, some last⟩ :: spans)

/-- No subtraction fails if no start is zero. -/
theorem spansFrom?_eq {starts : List Nat} (hzero : 0 ∉ starts) :
    spansFrom? starts = some (spansFrom starts) := by
  fun_induction spansFrom? starts with
  | case1 => rfl
  | case2 first => rfl
  | case3 first next rest ih =>
      have hrest : 0 ∉ next :: rest := fun hmem =>
        hzero (List.mem_cons_of_mem _ hmem)
      have hnext : 1 ≤ next := by
        rw [Nat.one_le_iff_ne_zero]
        rintro rfl
        exact hrest List.mem_cons_self
      rw [LineWord.sub?_of_le hnext, ih hrest]
      rfl

namespace FileData

variable (d : FileData)

/-- `listing` with line numbers as words: the lines of a span are asked for
by its ends, of which the last word stands for the end of the file. -/
def listing? (span : FunctionSpan) : Option FunctionListing := do
  let lines ← d.lines.upTo? span.first (span.last.getD LineWord.last)
  some { d.listing span with lines }

/-- `functionListings` with line numbers as words. -/
def functionListings? : Option (List FunctionListing) := do
  let spans ← spansFrom? d.startLines
  spans.mapM d.listing?

/-- All lines with data and all known starts are words. -/
structure FitsWords : Prop where
  lines : d.lines.FitsWords
  starts : ∀ line ∈ d.knownStarts, line ≤ LineWord.last

/-- No span ends before it begins, so its lines can be asked for; they are
the lines that the span contains. -/
theorem listing?_eq (hwords : d.FitsWords) {span : FunctionSpan}
    (hspan : span ∈ d.functionSpans) :
    d.listing? span = some (d.listing span) := by
  have hfirst : span.first ≤ LineWord.last := by
    refine hwords.starts _ ((d.mem_startLines _).1 ?_)
    exact first_mem_of_mem_spansFrom hspan
  have hends : span.first ≤ span.last.getD LineWord.last := by
    cases hlast : span.last with
    | none => exact hfirst
    | some last =>
        exact first_le_of_mem_spansFrom d.pairwise_startLines span hspan
          last hlast
  have hlines : d.lines.toList.filter (fun e =>
        decide (span.first ≤ e.1 ∧ e.1 ≤ span.last.getD LineWord.last))
      = d.lines.toList.filter (span.contains ·.1) := by
    refine List.filter_congr fun e he => Bool.eq_iff_iff.2 ?_
    rw [decide_eq_true_eq, FunctionSpan.contains_iff]
    refine and_congr_right' ?_
    cases hlast : span.last with
    | some last => simp
    | none =>
        have he := Std.ExtTreeMap.mem_toList_iff_getElem?_eq_some.1 he
        exact iff_of_true (hwords.lines.le he) (by simp)
  rw [listing?, Ledger.upTo?, if_pos hends, hlines]
  rfl

/-- Nothing fails if all lines are words. -/
theorem functionListings?_eq (hwords : d.FitsWords) :
    d.functionListings? = some d.functionListings := by
  have hall : ∀ spans : List FunctionSpan,
      (∀ span ∈ spans, span ∈ d.functionSpans) →
        spans.mapM d.listing? = some (spans.map d.listing) := by
    intro spans hspans
    induction spans with
    | nil => rfl
    | cons span spans ih =>
        obtain ⟨hspan, hspans⟩ := List.forall_mem_cons.1 hspans
        rw [List.mapM_cons, d.listing?_eq hwords hspan, ih hspans]
        rfl
  rw [functionListings?, spansFrom?_eq d.zero_not_mem_startLines]
  exact hall _ fun _ h => h

/-- The spans cut a file at its known starts, the listings give every
function and every line its place, and with lines that are words neither
the ends of spans nor the lines between them meet an operation that
fails. -/
theorem functionListings_exact (d : FileData) :
    d.IsSpanned d.functionSpans ∧ d.IsListed d.functionListings
      ∧ (d.FitsWords → d.functionListings? = some d.functionListings) :=
  ⟨d.isSpanned_functionSpans, d.isListed_functionListings,
    d.functionListings?_eq⟩

/-- Two functions with one start, one that starts at the last line there
can be, and one whose start is not known. -/
def sharedStart : FileData :=
  ((((((FileData.empty "a.cpp").addFunction "b" 2 0).addFunction "a" 2
    0).addFunction "last" LineWord.last 0).addFunction "unknown" 0
    0).addLine 1 0).addLine LineWord.last (.saturate 1)

/-- The two share a listing, the last line has its own, and the line before
all starts is in none. -/
theorem functionListings_exact_sharedStart :
    sharedStart.FitsWords
      ∧ sharedStart.functionSpans
        = [⟨2, some (LineWord.last - 1)⟩, ⟨LineWord.last, none⟩]
      ∧ sharedStart.functionListings.map (·.names) = [["a", "b"], ["last"]]
      ∧ sharedStart.functionListings.flatMap (·.lines)
        = [(LineWord.last, .saturate 1)]
      ∧ sharedStart.functionListings? = some sharedStart.functionListings := by
  have hwords : sharedStart.FitsWords := by
    have hlines : sharedStart.lines.FitsWords := by decide +kernel
    have hstarts : ∀ line ∈ sharedStart.startLines,
        line ≤ LineWord.last := by
      decide +kernel
    exact ⟨hlines, fun line hline =>
      hstarts line ((mem_startLines _ line).2 hline)⟩
  exact ⟨hwords, by decide +kernel, by decide +kernel, by decide +kernel,
    (functionListings_exact sharedStart).2.2 hwords⟩

end FileData

end Coverage
