/-
The ranges of missed lines are what they are meant to be. Every line that
was never hit lies in exactly one of them, and no line that was hit in any.
A range begins and ends at a missed line, and of two missed lines that
follow one another the second is in the range of the first just when at
most two lines lie between them, none of which has data
(`IsMissedRanges`). Nothing else is left open: a list of ranges of which
this holds is the list that comes out (`IsMissedRanges.eq_missedRanges`).

# How it is proved

The loop keeps a range open while no line that was hit has come up, so
that it never has to look back into the ledger. `extend` does look back:
it takes the missed lines one by one and compares each with the end of the
range found last. What its ranges are is an invariant of a single step
(`Covers.extend`), and the loop over all entries is a run of `extend`
(`Follows.step`, `missedRanges_eq`).

`missedRanges?` is the run of `extend` once more, with line numbers as
words and with operations that may fail. None of them does
(`missedRanges?_eq`), since the range found last ends before the next
missed line.
-/
import Mathlib.Data.List.Basic
import Mathlib.Data.List.Induction
import Mathlib.Data.List.Perm.Basic
import Mathlib.Data.Nat.Find
import Coverage.MissedRanges
import Coverage.Proofs.Ledger
import Coverage.Proofs.LineWords

namespace Coverage

theorem Count.isHit_eq_false_iff (c : Count) : c.isHit = false ↔ c = 0 := by
  rw [isHit, bne_eq_false_iff_eq, Count.ext_iff, toNat_zero]

/-- The line lies in the range. -/
def LineRange.Contains (r : LineRange) (line : Nat) : Prop :=
  r.first ≤ line ∧ line ≤ r.last

instance (r : LineRange) (line : Nat) : Decidable (r.Contains line) :=
  inferInstanceAs (Decidable (_ ∧ _))

namespace MissedRanges

variable (m : Ledger Nat Count)

/-- Nothing separates two missed lines: the lines between them are few, and
none of them has data. -/
def Bridges (a b : Nat) : Prop :=
  b - a - 1 ≤ maxGap ∧ ∀ line, a < line → line < b → m[line]? = none

/-- The lines of entries that were never hit. -/
def missedIn (entries : List (Nat × Count)) : List Nat :=
  (entries.filter fun e => !e.2.isHit).map (·.1)

/-- A line is missed if it is listed and was never hit. -/
theorem mem_missedIn_toList (line : Nat) :
    line ∈ missedIn m.toList ↔ m[line]? = some 0 := by
  simp only [missedIn, List.mem_map, List.mem_filter,
    Std.ExtTreeMap.mem_toList_iff_getElem?_eq_some, Bool.not_eq_true',
    Count.isHit_eq_false_iff, Prod.exists]
  constructor
  · rintro ⟨line, c, ⟨hc, rfl⟩, rfl⟩
    exact hc
  · intro h
    exact ⟨line, 0, ⟨h, rfl⟩, rfl⟩

/-- No line between has data just when none of the listed ones is. -/
theorem forall_mem_toList_iff (a b : Nat) :
    (∀ e ∈ m.toList, ¬ (a < e.1 ∧ e.1 < b))
      ↔ ∀ line, a < line → line < b → m[line]? = none := by
  constructor
  · intro h line ha hb
    cases hc : m[line]? with
    | none => rfl
    | some c =>
        have hmem := Std.ExtTreeMap.mem_toList_iff_getElem?_eq_some.2 hc
        exact absurd ⟨ha, hb⟩ (h _ hmem)
  · rintro h ⟨line, c⟩ hmem ⟨ha, hb⟩
    have hc := Std.ExtTreeMap.mem_toList_iff_getElem?_eq_some.1 hmem
    rw [h line ha hb] at hc
    cases hc

instance (a b : Nat) : Decidable (Bridges m a b) :=
  decidable_of_iff (b - a - 1 ≤ maxGap
      ∧ ∀ e ∈ m.toList, ¬ (a < e.1 ∧ e.1 < b))
    (and_congr_right' (forall_mem_toList_iff m a b))

/-- Takes the next missed line: the range found last grows up to it if the
two are bridged, else a range of its own begins. The latest range comes
first. -/
def extend (found : List LineRange) (line : Nat) : List LineRange :=
  match found with
  | [] => [⟨line, line⟩]
  | range :: before =>
    if Bridges m range.last line then
      { range with last := line } :: before
    else ⟨line, line⟩ :: range :: before

-- ======================================================== the invariant

/-- The ranges found are those of the missed lines taken so far. -/
structure Covers (lines : List Nat) (found : List LineRange) : Prop where
  ends : ∀ r ∈ found, r.first ∈ lines ∧ r.last ∈ lines ∧ r.first ≤ r.last
  apart : found.Pairwise fun s r => r.last + 1 < s.first
  covered : ∀ line ∈ lines, ∃ r ∈ found, r.Contains line
  clear : ∀ r ∈ found, ∀ line c, r.Contains line → m[line]? = some c →
    line ∈ lines
  joined : ∀ a ∈ lines, ∀ b ∈ lines, a < b →
    (∀ line ∈ lines, ¬ (a < line ∧ line < b)) →
      ((∃ r ∈ found, r.Contains a ∧ r.Contains b) ↔ Bridges m a b)

variable {m}

/-- Nothing is covered by no ranges. -/
theorem Covers.nil : Covers m [] [] where
  ends := by simp
  apart := .nil
  covered := by simp
  clear := by simp
  joined := by simp

/-- The range found last reaches to the last of the lines. -/
theorem Covers.le_last {lines : List Nat} {range : LineRange}
    {before : List LineRange} (h : Covers m lines (range :: before))
    {line : Nat} (hline : line ∈ lines) : line ≤ range.last := by
  obtain ⟨r, hr, -, hlast⟩ := h.covered line hline
  rcases List.mem_cons.1 hr with rfl | hr
  · exact hlast
  · have hapart := (List.pairwise_cons.1 h.apart).1 r hr
    have hends := (h.ends range List.mem_cons_self).2.2
    omega

/-- If there is a line there is a range. -/
theorem Covers.eq_nil {lines : List Nat} (h : Covers m lines []) :
    lines = [] := by
  rw [List.eq_nil_iff_forall_not_mem]
  intro line hline
  obtain ⟨r, hr, -⟩ := h.covered line hline
  cases hr

/-- Two lines that follow one another after a greater line was added have
done so before, or the second of them is the new line and the first the
last one before it. -/
theorem follows_cases {lines : List Nat} {new a b : Nat}
    (hnew : ∀ line ∈ lines, line < new) (ha : a ∈ lines ++ [new])
    (hb : b ∈ lines ++ [new]) (hab : a < b)
    (hnone : ∀ line ∈ lines ++ [new], ¬ (a < line ∧ line < b)) :
    a ∈ lines
      ∧ ((b ∈ lines ∧ ∀ line ∈ lines, ¬ (a < line ∧ line < b))
        ∨ (b = new ∧ ∀ line ∈ lines, line ≤ a)) := by
  have hold : ∀ line ∈ lines, ¬ (a < line ∧ line < b) := fun line hline =>
    hnone line (List.mem_append_left _ hline)
  have hle : b ≤ new := by
    rcases List.mem_append.1 hb with hb | hb
    · exact Nat.le_of_lt (hnew b hb)
    · exact Nat.le_of_eq (List.mem_singleton.1 hb)
  have hmem : a ∈ lines := by
    rcases List.mem_append.1 ha with ha | ha
    · exact ha
    · have heq := List.mem_singleton.1 ha
      omega
  refine ⟨hmem, ?_⟩
  rcases List.mem_append.1 hb with hb | hb
  · exact Or.inl ⟨hb, hold⟩
  · have heq := List.mem_singleton.1 hb
    refine Or.inr ⟨heq, fun line hline => ?_⟩
    have hlt := hnew line hline
    have hbetween := hold line hline
    omega

/-- A range of its own may begin at the new line if the line before is not
bridged to it. -/
theorem Covers.begin {lines : List Nat} {found : List LineRange}
    {new : Nat} (h : Covers m lines found)
    (hnew : ∀ line ∈ lines, line < new)
    (hfar : ∀ a ∈ lines, (∀ line ∈ lines, line ≤ a) → ¬ Bridges m a new) :
    Covers m (lines ++ [new]) (⟨new, new⟩ :: found) where
  ends r hr := by
    rcases List.mem_cons.1 hr with rfl | hr
    · simp
    · obtain ⟨hfirst, hlast, hle⟩ := h.ends r hr
      exact ⟨List.mem_append_left _ hfirst, List.mem_append_left _ hlast,
        hle⟩
  apart := by
    refine List.pairwise_cons.2 ⟨fun r hr => ?_, h.apart⟩
    show r.last + 1 < new
    have hlast := (h.ends r hr).2.1
    have hlt := hnew _ hlast
    have hne : r.last + 1 ≠ new := by
      -- neighbours are bridged, whatever else there is
      intro heq
      refine hfar _ hlast (fun line hline => ?_)
        ⟨by omega, fun line ha hb => by omega⟩
      have hline := hnew line hline
      omega
    omega
  covered line hline := by
    rcases List.mem_append.1 hline with hline | hline
    · obtain ⟨r, hr, hin⟩ := h.covered line hline
      exact ⟨r, List.mem_cons_of_mem _ hr, hin⟩
    · have heq := List.mem_singleton.1 hline
      exact ⟨_, List.mem_cons_self, Nat.le_of_eq heq.symm,
        Nat.le_of_eq heq⟩
  clear r hr line c hin hc := by
    rcases List.mem_cons.1 hr with rfl | hr
    · have heq : line = new := Nat.le_antisymm hin.2 hin.1
      exact List.mem_append_right _ (List.mem_singleton.2 heq)
    · exact List.mem_append_left _ (h.clear r hr line c hin hc)
  joined a ha b hb hab hnone := by
    obtain ⟨hold, hcase⟩ := follows_cases hnew ha hb hab hnone
    have hlt := hnew a hold
    have hout : ¬ LineRange.Contains ⟨new, new⟩ a := fun hin => by
      have hle : new ≤ a := hin.1
      omega
    rw [List.exists_mem_cons_iff, or_iff_right fun hin => hout hin.1]
    rcases hcase with ⟨hb, hnone⟩ | ⟨rfl, hmax⟩
    · exact h.joined a hold b hb hab hnone
    · refine iff_of_false ?_ (hfar a hold hmax)
      rintro ⟨r, hr, -, -, hle⟩
      have hlast := hnew _ (h.ends r hr).2.1
      omega

/-- The range found last may grow up to the new line if it is bridged. -/
theorem Covers.grow {lines : List Nat} {range : LineRange}
    {before : List LineRange} {new : Nat}
    (h : Covers m lines (range :: before))
    (hnew : ∀ line ∈ lines, line < new)
    (hbridged : Bridges m range.last new) :
    Covers m (lines ++ [new]) ({ range with last := new } :: before) := by
  obtain ⟨hfirst, hlast, hle⟩ := h.ends range List.mem_cons_self
  have hlt := hnew _ hlast
  -- the grown range holds the lines of the old one, and the new line
  have hgrown : ∀ line ∈ lines,
      LineRange.Contains { range with last := new } line
        ↔ range.Contains line := fun line hline =>
    and_congr_right' (iff_of_true (Nat.le_of_lt (hnew line hline))
      (h.le_last hline))
  refine ⟨fun r hr => ?_, ?_, fun line hline => ?_,
    fun r hr line c hin hc => ?_, fun a ha b hb hab hnone => ?_⟩
  case refine_1 =>
    rcases List.mem_cons.1 hr with rfl | hr
    · exact ⟨List.mem_append_left _ hfirst, by simp, by
        show range.first ≤ new
        omega⟩
    · obtain ⟨hfirst, hlast, hle⟩ := h.ends r (List.mem_cons_of_mem _ hr)
      exact ⟨List.mem_append_left _ hfirst, List.mem_append_left _ hlast,
        hle⟩
  case refine_2 => exact List.pairwise_cons.2 (List.pairwise_cons.1 h.apart)
  case refine_3 =>
    rcases List.mem_append.1 hline with hline | hline
    · obtain ⟨r, hr, hin⟩ := h.covered line hline
      rcases List.mem_cons.1 hr with rfl | hr
      · exact ⟨_, List.mem_cons_self, (hgrown line hline).2 hin⟩
      · exact ⟨r, List.mem_cons_of_mem _ hr, hin⟩
    · have heq := List.mem_singleton.1 hline
      refine ⟨_, List.mem_cons_self, ?_, Nat.le_of_eq heq⟩
      show range.first ≤ line
      omega
  case refine_4 =>
    rcases List.mem_cons.1 hr with rfl | hr
    · have hin : range.first ≤ line ∧ line ≤ new := hin
      by_cases hold : line ≤ range.last
      · exact List.mem_append_left _
          (h.clear range List.mem_cons_self line c ⟨hin.1, hold⟩ hc)
      · -- between the old end and the new one there is no data
        by_cases heq : line = new
        · exact List.mem_append_right _ (List.mem_singleton.2 heq)
        · have hnone := hbridged.2 line (by omega) (by omega)
          rw [hc] at hnone
          cases hnone
    · exact List.mem_append_left _
        (h.clear r (List.mem_cons_of_mem _ hr) line c hin hc)
  case refine_5 =>
    obtain ⟨hold, hcase⟩ := follows_cases hnew ha hb hab hnone
    rcases hcase with ⟨hb, hnone⟩ | ⟨rfl, hmax⟩
    · rw [← h.joined a hold b hb hab hnone, List.exists_mem_cons_iff,
        List.exists_mem_cons_iff, hgrown a hold, hgrown b hb]
    · have heq : a = range.last :=
        Nat.le_antisymm (h.le_last hold) (hmax _ hlast)
      subst heq
      refine iff_of_true ⟨_, List.mem_cons_self, (hgrown _ hlast).2
        ⟨hle, Nat.le_refl _⟩, ?_, Nat.le_refl _⟩ hbridged
      show range.first ≤ b
      omega

/-- What a step keeps: a missed line behind all others is taken in. -/
theorem Covers.extend {lines : List Nat} {found : List LineRange}
    {new : Nat} (h : Covers m lines found)
    (hnew : ∀ line ∈ lines, line < new) :
    Covers m (lines ++ [new]) (MissedRanges.extend m found new) := by
  cases found with
  | nil =>
      refine h.begin hnew fun a ha => ?_
      rw [h.eq_nil] at ha
      cases ha
  | cons range before =>
      rw [MissedRanges.extend]
      split
      · next hbridged => exact h.grow hnew hbridged
      · next hfar =>
          refine h.begin hnew fun a ha hmax => ?_
          have hlast := (h.ends range List.mem_cons_self).2.1
          rwa [Nat.le_antisymm (h.le_last ha) (hmax _ hlast)]

/-- What a run keeps: the ranges of all missed lines. -/
theorem covers_foldl_extend (m : Ledger Nat Count) {lines : List Nat}
    (hsorted : lines.Pairwise (· < ·)) :
    Covers m lines (lines.foldl (extend m) []) := by
  induction lines using List.reverseRecOn with
  | nil => exact .nil
  | append_singleton lines new ih =>
      obtain ⟨hsorted, -, hnew⟩ := List.pairwise_append.1 hsorted
      rw [List.foldl_append]
      exact (ih hsorted).extend fun line hline => hnew line hline new
        List.mem_cons_self

-- ============================================================= the loop

variable (m)

/-- The lines missed are in order if the entries are. -/
theorem pairwise_missedIn {entries : List (Nat × Count)}
    (h : entries.Pairwise fun a b => a.1 < b.1) :
    (missedIn entries).Pairwise (· < ·) :=
  List.pairwise_map.2 (h.filter _)

/-- After some of the entries the loop has the ranges of their missed
lines. A range that still grows ends at the last line with data; if none
does, a line with data follows after every missed one. -/
structure Follows (taken : List (Nat × Count)) (p : Progress) : Prop where
  close : p.close = (missedIn taken).foldl (extend m) []
  growing : ∀ range, p.growing = some range → ∀ e ∈ taken, e.1 ≤ range.last
  closed : p.growing = none → ∀ line ∈ missedIn taken, ∃ e ∈ taken,
    line < e.1

variable {m}

/-- A line that was hit is not missed. -/
theorem missedIn_concat_of_hit (taken : List (Nat × Count)) {line : Nat}
    {hits : Count} (h : hits.isHit = true) :
    missedIn (taken ++ [(line, hits)]) = missedIn taken := by
  simp [missedIn, h]

/-- A line that was not hit is missed next. -/
theorem missedIn_concat_of_missed (taken : List (Nat × Count)) {line : Nat}
    {hits : Count} (h : hits.isHit = false) :
    missedIn (taken ++ [(line, hits)]) = missedIn taken ++ [line] := by
  simp [missedIn, h]

theorem exists_mem_of_mem_missedIn {taken : List (Nat × Count)}
    {line : Nat} (h : line ∈ missedIn taken) : ∃ e ∈ taken, e.1 = line := by
  obtain ⟨e, he, rfl⟩ := List.mem_map.1 h
  exact ⟨e, List.mem_of_mem_filter he, rfl⟩

section Split

variable {taken rest : List (Nat × Count)} {p : Progress} {line : Nat}
  {hits : Count}

/-- The entries taken before have smaller lines. -/
theorem lt_of_mem_taken (hsplit : m.toList = taken ++ (line, hits) :: rest) :
    ∀ e ∈ taken, e.1 < line := by
  have hsorted := Ledger.pairwise_lt_toList m
  rw [hsplit] at hsorted
  obtain ⟨-, -, hcross⟩ := List.pairwise_append.1 hsorted
  exact fun e he => hcross e he _ List.mem_cons_self

/-- And an entry with a smaller line was taken before. -/
theorem mem_taken_of_lt (hsplit : m.toList = taken ++ (line, hits) :: rest)
    {other : Nat} {c : Count} (hc : m[other]? = some c)
    (hlt : other < line) : (other, c) ∈ taken := by
  have hsorted := Ledger.pairwise_lt_toList m
  have hmem := Std.ExtTreeMap.mem_toList_iff_getElem?_eq_some.2 hc
  rw [hsplit] at hsorted hmem
  obtain ⟨-, hrest, -⟩ := List.pairwise_append.1 hsorted
  rcases List.mem_append.1 hmem with hmem | hmem
  · exact hmem
  · rcases List.mem_cons.1 hmem with heq | hmem
    · cases heq
      omega
    · have hgt := (List.pairwise_cons.1 hrest).1 _ hmem
      omega

/-- Lines come in order, so the last one is the greatest so far. -/
theorem le_of_mem_concat
    (hsplit : m.toList = taken ++ (line, hits) :: rest) :
    ∀ e ∈ taken ++ [(line, hits)], e.1 ≤ line := by
  intro e he
  rcases List.mem_append.1 he with he | he
  · exact Nat.le_of_lt (lt_of_mem_taken hsplit e he)
  · exact Nat.le_of_eq (congrArg Prod.fst (List.mem_singleton.1 he))

/-- When the last range is closed, all ranges cover what was missed. -/
theorem Follows.covers (h : Follows m taken p)
    (hsplit : m.toList = taken ++ (line, hits) :: rest) :
    Covers m (missedIn taken) p.close := by
  have hsorted := Ledger.pairwise_lt_toList m
  rw [hsplit] at hsorted
  rw [h.close]
  exact covers_foldl_extend m
    (pairwise_missedIn (List.pairwise_append.1 hsorted).1)

/-- A line that was hit closes the range. -/
theorem Follows.step_of_hit (h : Follows m taken p)
    (hsplit : m.toList = taken ++ (line, hits) :: rest)
    (hhit : hits.isHit = true) :
    Follows m (taken ++ [(line, hits)]) ⟨p.close, none⟩ where
  close := by
    rw [missedIn_concat_of_hit taken hhit, ← h.close]
    rfl
  growing := by simp
  closed _ other hother := by
    rw [missedIn_concat_of_hit taken hhit] at hother
    obtain ⟨e, he, rfl⟩ := exists_mem_of_mem_missedIn hother
    exact ⟨_, List.mem_append_right _ List.mem_cons_self,
      lt_of_mem_taken hsplit e he⟩

/-- After a line that was hit no range can be bridged to a missed one. -/
theorem Follows.extend_of_closed (h : Follows m taken p)
    (hsplit : m.toList = taken ++ (line, hits) :: rest)
    (hgrowing : p.growing = none) :
    extend m p.close line = ⟨line, line⟩ :: p.complete := by
  have hcovers := h.covers hsplit
  rw [Progress.close, hgrowing] at hcovers ⊢
  show extend m p.complete line = _
  cases hfound : p.complete with
  | nil => rfl
  | cons range before =>
      rw [hfound] at hcovers
      have hlast := (hcovers.ends range List.mem_cons_self).2.1
      obtain ⟨⟨other, c⟩, he, hother⟩ := h.closed hgrowing _ hlast
      have hmem : (other, c) ∈ m.toList := by
        rw [hsplit]
        exact List.mem_append_left _ he
      refine if_neg fun hbridged => ?_
      have hnone := hbridged.2 other hother (lt_of_mem_taken hsplit _ he)
      rw [Std.ExtTreeMap.mem_toList_iff_getElem?_eq_some.1 hmem] at hnone
      cases hnone

/-- While a range grows, the lines with data end where it does. So it can
be bridged to a missed line if that is near. -/
theorem Follows.extend_of_growing (h : Follows m taken p)
    (hsplit : m.toList = taken ++ (line, hits) :: rest)
    {range : LineRange} (hgrowing : p.growing = some range) :
    extend m p.close line
      = if line ≤ range.last + 1 + maxGap then
          { range with last := line } :: p.complete
        else ⟨line, line⟩ :: range :: p.complete := by
  have hcovers := h.covers hsplit
  rw [Progress.close, hgrowing] at hcovers ⊢
  have hlast := (hcovers.ends range List.mem_cons_self).2.1
  obtain ⟨e, he, heq⟩ := exists_mem_of_mem_missedIn hlast
  have hbefore : range.last < line := heq ▸ lt_of_mem_taken hsplit e he
  have hnear : Bridges m range.last line
      ↔ line ≤ range.last + 1 + maxGap := by
    constructor
    · rintro ⟨hgap, -⟩
      omega
    · refine fun hnear => ⟨by omega, fun other hfrom hto => ?_⟩
      cases hc : m[other]? with
      | none => rfl
      | some c =>
          have hend := h.growing range hgrowing _
            (mem_taken_of_lt hsplit hc hto)
          omega
  show (if Bridges m range.last line then _ else _) = _
  simp only [hnear]

/-- What a step of the loop keeps. -/
theorem Follows.step (h : Follows m taken p)
    (hsplit : m.toList = taken ++ (line, hits) :: rest) :
    Follows m (taken ++ [(line, hits)]) (p.step line hits) := by
  unfold Progress.step
  cases hhit : hits.isHit with
  | true =>
      rw [if_pos rfl]
      exact h.step_of_hit hsplit hhit
  | false =>
      rw [if_neg Bool.false_ne_true]
      have hle := le_of_mem_concat hsplit
      -- a missed line extends the closed ranges by itself
      have hclose : (missedIn (taken ++ [(line, hits)])).foldl (extend m) []
          = extend m p.close line := by
        rw [missedIn_concat_of_missed taken hhit, List.foldl_append,
          ← h.close]
        rfl
      cases hgrowing : p.growing with
      | none =>
          rw [h.extend_of_closed hsplit hgrowing] at hclose
          refine ⟨hclose.symm, fun range hrange => ?_, by simp⟩
          cases hrange
          exact hle
      | some range =>
          rw [h.extend_of_growing hsplit hgrowing] at hclose
          show Follows m _ (if line ≤ range.last + 1 + maxGap then _ else _)
          -- a range that still grows takes the line in if it is near
          by_cases hnear : line ≤ range.last + 1 + maxGap
          · rw [if_pos hnear] at hclose ⊢
            refine ⟨hclose.symm, fun grown hgrown => ?_, by simp⟩
            cases hgrown
            exact hle
          · rw [if_neg hnear] at hclose ⊢
            refine ⟨?_, fun grown hgrown => ?_, by simp⟩
            · rw [hclose]
              show ⟨line, line⟩ :: p.close = _
              rw [Progress.close, hgrowing]
            · cases hgrown
              exact hle

end Split

/-- The loop over all entries is a run over the missed lines. -/
theorem missedRanges_eq (m : Ledger Nat Count) :
    missedRanges m
      = ((missedIn m.toList).foldl (extend m) []).reverse := by
  have hrun : ∀ taken : List (Nat × Count), taken <+: m.toList →
      Follows m taken (taken.foldl (fun p e => p.step e.1 e.2) ⟨[], none⟩) := by
    intro taken hprefix
    induction taken using List.reverseRecOn with
    | nil => exact ⟨rfl, by simp, by simp [missedIn]⟩
    | append_singleton taken e ih =>
        obtain ⟨rest, hsplit⟩ := hprefix
        rw [List.append_assoc] at hsplit
        rw [List.foldl_append]
        exact (ih ⟨_, hsplit⟩).step hsplit.symm
  have hall := (hrun m.toList (List.prefix_refl _)).close
  rw [missedRanges, Std.ExtTreeMap.foldl_eq_foldl_toList, hall]

-- ============================================================ with words

variable (m)

/-- `Bridges` with line numbers as words: the width of the gap and what
lies in it are found out with operations that may fail. -/
def bridges? (a b : Nat) : Option Bool := do
  let distance ← LineWord.sub? b a
  let gap ← LineWord.sub? distance 1
  if gap ≤ maxGap then
    let first ← LineWord.succ? a
    let between ← m.before? first b
    some between.isEmpty
  else some false

/-- The step of `extend` with line numbers as words. -/
def extend? (found : List LineRange) (line : Nat) :
    Option (List LineRange) :=
  match found with
  | [] => some [⟨line, line⟩]
  | range :: before => do
    let bridged ← bridges? m range.last line
    if bridged then some ({ range with last := line } :: before)
    else some (⟨line, line⟩ :: range :: before)

/-- The loop over the missed lines with line numbers as words. -/
def missedRanges? : Option (List LineRange) :=
  ((missedIn m.toList).foldlM (extend? m) []).map List.reverse

variable {m}

/-- Nothing fails between a line and a word behind it. -/
theorem bridges?_eq {a b : Nat} (hlt : a < b) (hword : b ≤ LineWord.last) :
    bridges? m a b = some (decide (Bridges m a b)) := by
  have hdistance : LineWord.sub? b a = some (b - a) :=
    LineWord.sub?_of_le (Nat.le_of_lt hlt)
  have hgap : LineWord.sub? (b - a) 1 = some (b - a - 1) :=
    LineWord.sub?_of_le (by omega)
  have hfirst : LineWord.succ? a = some (a + 1) :=
    LineWord.succ?_of_lt (by omega)
  have hempty : (m.toList.filter fun e =>
        decide (a + 1 ≤ e.1 ∧ e.1 < b)).isEmpty = true
      ↔ ∀ line, a < line → line < b → m[line]? = none := by
    rw [List.isEmpty_iff, List.filter_eq_nil_iff, ← forall_mem_toList_iff]
    simp only [decide_eq_true_eq, Nat.succ_le_iff]
  have hbetween : m.before? (a + 1) b
      = some (m.toList.filter fun e => decide (a + 1 ≤ e.1 ∧ e.1 < b)) :=
    if_pos hlt
  simp only [bridges?, hdistance, hgap, hfirst, hbetween,
    Option.bind_eq_bind, Option.bind_some]
  by_cases hnear : b - a - 1 ≤ maxGap
  · rw [if_pos hnear]
    exact congrArg some (Bool.eq_iff_iff.2 (by
      rw [hempty, decide_eq_true_eq, Bridges, and_iff_right hnear]))
  · rw [if_neg hnear, decide_eq_false fun h => hnear h.1]

/-- Nothing fails in a step if the line is a word and lies behind the range
found last. -/
theorem extend?_eq {found : List LineRange} {line : Nat}
    (hbehind : ∀ range ∈ found.head?, range.last < line)
    (hword : line ≤ LineWord.last) :
    extend? m found line = some (extend m found line) := by
  cases found with
  | nil => rfl
  | cons range before =>
      rw [extend?, bridges?_eq (hbehind range rfl) hword, extend,
        Option.bind_eq_bind, Option.bind_some]
      by_cases hbridged : Bridges m range.last line
      · simp only [hbridged, decide_true, if_true]
      · simp only [hbridged, decide_false, if_false, Bool.false_eq_true]

/-- The range found last ends at the line that was taken last. -/
theorem last_of_mem_head?_extend {found : List LineRange} {line : Nat} :
    ∀ range ∈ (extend m found line).head?, range.last = line := by
  intro range hrange
  unfold extend at hrange
  split at hrange
  · cases hrange
    rfl
  · split at hrange
    · cases hrange
      rfl
    · cases hrange
      rfl

/-- Nothing fails in a run over words in order. -/
theorem foldlM_extend?_eq {lines : List Nat}
    (hsorted : lines.Pairwise (· < ·))
    (hwords : ∀ line ∈ lines, line ≤ LineWord.last)
    {found : List LineRange}
    (hbehind : ∀ line ∈ lines, ∀ range ∈ found.head?, range.last < line) :
    lines.foldlM (extend? m) found = some (lines.foldl (extend m) found) := by
  induction lines generalizing found with
  | nil => rfl
  | cons line lines ih =>
      obtain ⟨hline, hsorted⟩ := List.pairwise_cons.1 hsorted
      obtain ⟨hword, hwords⟩ := List.forall_mem_cons.1 hwords
      rw [List.foldlM_cons, List.foldl_cons,
        extend?_eq (hbehind line List.mem_cons_self) hword,
        Option.bind_eq_bind, Option.bind_some]
      refine ih hsorted hwords fun next hnext range hrange => ?_
      rw [last_of_mem_head?_extend range hrange]
      exact hline next hnext

/-- With lines that are words nothing fails in the loop. -/
theorem missedRanges?_eq (hwords : m.FitsWords) :
    missedRanges? m = some (missedRanges m) := by
  have hsorted := pairwise_missedIn (Ledger.pairwise_lt_toList m)
  have hlines : ∀ line ∈ missedIn m.toList, line ≤ LineWord.last :=
    fun line hline => hwords.le ((mem_missedIn_toList m line).1 hline)
  rw [missedRanges?, foldlM_extend?_eq hsorted hlines (by simp),
    Option.map_some, missedRanges_eq]

end MissedRanges

-- ============================================================ the ranges

/-- The ranges are those that the missed lines of the ledger make up. They
are in order, none is empty, and at least one line lies between two of
them. -/
structure IsMissedRanges (m : Ledger Nat Count) (rs : List LineRange) :
    Prop where
  nonempty : ∀ r ∈ rs, r.first ≤ r.last
  apart : rs.Pairwise fun r s => r.last + 1 < s.first
  ends : ∀ r ∈ rs, m[r.first]? = some 0 ∧ m[r.last]? = some 0
  covered : ∀ line, m[line]? = some 0 → ∃! r, r ∈ rs ∧ r.Contains line
  clear : ∀ line c, m[line]? = some c → c.isHit = true →
    ∀ r ∈ rs, ¬ r.Contains line
  joined : ∀ a b, a < b → m[a]? = some 0 → m[b]? = some 0 →
    (∀ line, a < line → line < b → m[line]? ≠ some 0) →
      ((∃ r ∈ rs, r.Contains a ∧ r.Contains b)
        ↔ b - a - 1 ≤ 2 ∧ ∀ line, a < line → line < b → m[line]? = none)

/-- Of ranges that lie apart at most one contains a line. -/
theorem LineRange.eq_of_contains {rs : List LineRange}
    (hapart : rs.Pairwise fun r s => r.last + 1 < s.first)
    {r s : LineRange} (hr : r ∈ rs) (hs : s ∈ rs) {line : Nat}
    (hrline : r.Contains line) (hsline : s.Contains line) : r = s := by
  have hr' : r.first ≤ line ∧ line ≤ r.last := hrline
  have hs' : s.first ≤ line ∧ line ≤ s.last := hsline
  induction rs with
  | nil => cases hr
  | cons q rs ih =>
      obtain ⟨hq, hapart⟩ := List.pairwise_cons.1 hapart
      rcases List.mem_cons.1 hr with rfl | hrmem
      · rcases List.mem_cons.1 hs with rfl | hsmem
        · rfl
        · have hlt := hq s hsmem
          omega
      · rcases List.mem_cons.1 hs with rfl | hsmem
        · have hlt := hq r hrmem
          omega
        · exact ih hapart hrmem hsmem

/-- The ranges that come out are those that the missed lines make up. -/
theorem isMissedRanges_missedRanges (m : Ledger Nat Count) :
    IsMissedRanges m (missedRanges m) := by
  -- the fold has covered all that was missed
  have hcovers := MissedRanges.covers_foldl_extend m
    (MissedRanges.pairwise_missedIn (Ledger.pairwise_lt_toList m))
  -- it keeps ranges in reverse
  have hmem : ∀ r, r ∈ missedRanges m
      ↔ r ∈ (MissedRanges.missedIn m.toList).foldl
          (MissedRanges.extend m) [] := fun r => by
    rw [MissedRanges.missedRanges_eq, List.mem_reverse]
  have hapart : (missedRanges m).Pairwise fun r s =>
      r.last + 1 < s.first := by
    rw [MissedRanges.missedRanges_eq, List.pairwise_reverse]
    exact hcovers.apart
  have hmissed := MissedRanges.mem_missedIn_toList m
  constructor
  case nonempty =>
    intro r hr
    exact (hcovers.ends r ((hmem r).1 hr)).2.2
  case apart => exact hapart
  case ends =>
    intro r hr
    obtain ⟨hfirst, hlast, -⟩ := hcovers.ends r ((hmem r).1 hr)
    exact ⟨(hmissed _).1 hfirst, (hmissed _).1 hlast⟩
  case covered =>
    intro line hline
    obtain ⟨r, hr, hin⟩ := hcovers.covered line ((hmissed line).2 hline)
    refine ⟨r, ⟨(hmem r).2 hr, hin⟩, ?_⟩
    rintro s ⟨hs, hsin⟩
    exact LineRange.eq_of_contains hapart hs ((hmem r).2 hr) hsin hin
  case clear =>
    intro line c hc hhit r hr hin
    have hline := hcovers.clear r ((hmem r).1 hr) line c hin hc
    rw [hmissed, hc, Option.some_inj] at hline
    rw [(Count.isHit_eq_false_iff c).2 hline] at hhit
    cases hhit
  case joined =>
    intro a b hab ha hb hnone
    have hjoined := hcovers.joined a ((hmissed a).2 ha) b
      ((hmissed b).2 hb) hab fun line hline hbetween =>
        hnone line hbetween.1 hbetween.2 ((hmissed line).1 hline)
    simp only [hmem]
    exact hjoined

/-- Where ranges of two such lists share a line, the one does not end
before the other. -/
theorem IsMissedRanges.last_le {m : Ledger Nat Count}
    {rs qs : List LineRange} (hrs : IsMissedRanges m rs)
    (hqs : IsMissedRanges m qs) {r q : LineRange} (hr : r ∈ rs) (hq : q ∈ qs)
    {line : Nat} (hrline : r.Contains line) (hqline : q.Contains line) :
    r.last ≤ q.last := by
  have hrline : r.first ≤ line ∧ line ≤ r.last := hrline
  have hqline : q.first ≤ line ∧ line ≤ q.last := hqline
  by_contra hlt
  have hex : ∃ b, q.last < b ∧ m[b]? = some 0 :=
    ⟨r.last, by omega, (hrs.ends r hr).2⟩
  -- the missed line after the end of the one range is still in the other
  obtain ⟨hnext, hmissed⟩ := Nat.find_spec hex
  have hle : Nat.find hex ≤ r.last :=
    Nat.find_min' hex ⟨by omega, (hrs.ends r hr).2⟩
  have hnone : ∀ other, q.last < other → other < Nat.find hex →
      m[other]? ≠ some 0 := fun other hfrom hto hother =>
    Nat.find_min hex hto ⟨hfrom, hother⟩
  have hsame : ∃ r ∈ rs, r.Contains q.last ∧ r.Contains (Nat.find hex) :=
    ⟨r, hr, ⟨by omega, by omega⟩, by omega, hle⟩
  have hjoined := (hqs.joined _ _ hnext (hqs.ends q hq).2 hmissed hnone).2
    ((hrs.joined _ _ hnext (hqs.ends q hq).2 hmissed hnone).1 hsame)
  obtain ⟨s, hs, hlast, hfind⟩ := hjoined
  have heq : s = q :=
    LineRange.eq_of_contains hqs.apart hs hq hlast ⟨by omega, Nat.le_refl _⟩
  subst heq
  exact absurd hnext (Nat.not_lt.2 hfind.2)

/-- A range of one such list is a range of the other. -/
theorem IsMissedRanges.subset {m : Ledger Nat Count}
    {rs qs : List LineRange} (hrs : IsMissedRanges m rs)
    (hqs : IsMissedRanges m qs) {r : LineRange} (hr : r ∈ rs) : r ∈ qs := by
  have hrange : r.first ≤ r.last := hrs.nonempty r hr
  obtain ⟨q, ⟨hq, hqline⟩, -⟩ := hqs.covered _ (hrs.ends r hr).1
  have hqrange : q.first ≤ r.first ∧ r.first ≤ q.last := hqline
  have hrline : r.Contains r.first := ⟨Nat.le_refl _, hrange⟩
  have hlast : r.last = q.last :=
    Nat.le_antisymm (hrs.last_le hqs hr hq hrline hqline)
      (hqs.last_le hrs hq hr hqline hrline)
  -- what contains the first line of `q` ends where `q` does, so it is `r`
  obtain ⟨s, ⟨hs, hsline⟩, -⟩ := hrs.covered _ (hqs.ends q hq).1
  have hsrange : s.first ≤ q.first ∧ q.first ≤ s.last := hsline
  have hend : q.last ≤ s.last :=
    hqs.last_le hrs hq hs ⟨Nat.le_refl _, by omega⟩ hsline
  have hin : s.Contains r.first := ⟨by omega, by omega⟩
  have heq : s = r := LineRange.eq_of_contains hrs.apart hs hr hin hrline
  subst heq
  have hfirst : s.first = q.first := by omega
  have hsame : s = q := congrArg₂ LineRange.mk hfirst hlast
  rwa [hsame]

/-- There is only one list of such ranges. -/
theorem IsMissedRanges.eq_missedRanges {m : Ledger Nat Count}
    {rs : List LineRange} (hrs : IsMissedRanges m rs) :
    rs = missedRanges m := by
  have hqs := isMissedRanges_missedRanges m
  have hsorted : ∀ {qs}, IsMissedRanges m qs →
      qs.Pairwise fun r s => r.first < s.first := by
    intro qs hqs
    refine hqs.apart.imp_of_mem fun {r s} hr _ hapart => ?_
    have hrange := hqs.nonempty r hr
    omega
  have hnodup : ∀ {qs}, IsMissedRanges m qs → qs.Nodup := fun hqs =>
    (hsorted hqs).imp fun hlt heq => absurd (heq ▸ hlt) (Nat.lt_irrefl _)
  have hperm : rs.Perm (missedRanges m) :=
    (List.perm_ext_iff_of_nodup (hnodup hrs) (hnodup hqs)).2 fun r =>
      ⟨hrs.subset hqs, hqs.subset hrs⟩
  exact hperm.eq_of_pairwise
    (fun r s _ _ hrs hsr => absurd hsr (Nat.lt_asymm hrs))
    (hsorted hrs) (hsorted hqs)

/-- The ranges of a ledger are those that its missed lines make up, no
other list of ranges is, and the loop that finds them never leaves the
words if the lines are words. -/
theorem missedRanges_exact (m : Ledger Nat Count) :
    IsMissedRanges m (missedRanges m)
      ∧ (∀ rs, IsMissedRanges m rs → rs = missedRanges m)
      ∧ (m.FitsWords →
          MissedRanges.missedRanges? m = some (missedRanges m)) :=
  ⟨isMissedRanges_missedRanges m, fun _ => IsMissedRanges.eq_missedRanges,
    MissedRanges.missedRanges?_eq⟩

/-- Lines with data from the first to the last that a word can number: a
gap of two lines, one of three, and one with a line that was hit. -/
def MissedRanges.farApart : Ledger Nat Count :=
  .ofList [(0, 0), (3, 0), (7, 0), (8, Count.saturate 1), (9, 0),
    (LineWord.last, 0)]

/-- Only the gap of two lines is bridged, and both ends of the words are
met without leaving them. -/
theorem missedRanges_exact_farApart :
    MissedRanges.farApart.FitsWords
      ∧ IsMissedRanges MissedRanges.farApart
          [⟨0, 3⟩, ⟨7, 7⟩, ⟨9, 9⟩, ⟨LineWord.last, LineWord.last⟩]
      ∧ MissedRanges.missedRanges? MissedRanges.farApart
        = some [⟨0, 3⟩, ⟨7, 7⟩, ⟨9, 9⟩, ⟨LineWord.last, LineWord.last⟩] := by
  have hwords : MissedRanges.farApart.FitsWords := by decide +kernel
  have hranges : missedRanges MissedRanges.farApart
      = [⟨0, 3⟩, ⟨7, 7⟩, ⟨9, 9⟩, ⟨LineWord.last, LineWord.last⟩] := by
    decide +kernel
  obtain ⟨hexact, -, hloop⟩ := missedRanges_exact MissedRanges.farApart
  rw [hranges] at hexact hloop
  exact ⟨hwords, hexact, hloop hwords⟩

end Coverage
