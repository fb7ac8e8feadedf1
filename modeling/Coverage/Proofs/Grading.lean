/-
Grades of ratios. The grade is that of the exact share of what ran:
from nine tenths on it is high, from three quarters on medium, else low.
So it hangs on the share alone, more hits never lower it, and a larger
total never raises it.

Scopes are put together by adding up hits and totals. The whole has a
grade if one of its parts has, and that grade lies between the lowest and
the highest of theirs; parts with nothing to measure are neutral
(`Ratio.grading_exact`). In between no number becomes too large: a product
fits in a word of 128 bits if the ratio is one of words of sixty-four, and
so does every partial sum if the whole does, in whatever order the parts
are added.

# How it is proved

A ratio has at least a grade if it reaches the percentage at which the
grade begins (`Ratio.le_grade_iff`). Reaching a percentage is an inequality
without a quotient, and such inequalities are added up part by part: if
all parts reach it then so does the sum (`Ratio.reaches_sum`), and if the
sum does then so does one of the parts (`Ratio.exists_reaches_of_sum`).
-/
import Mathlib.Algebra.Order.Field.Rat
import Mathlib.Data.Finset.Max
import Mathlib.Tactic.NormNum
import Coverage.Proofs.ReportContents

namespace Coverage

namespace Rating

/-- The percentage at which the grade begins. -/
def percent : Rating → Nat
  | .low => 0
  | .medium => 75
  | .high => 90

/-- The grade lies between the lowest and the highest of the others. -/
def LiesAmong (g : Rating) (grades : List Rating) : Prop :=
  ∃ lowest ∈ grades, ∃ highest ∈ grades,
    (∀ h ∈ grades, lowest ≤ h ∧ h ≤ highest) ∧ lowest ≤ g ∧ g ≤ highest

theorem exists_lowest {grades : List Rating} (hne : grades ≠ []) :
    ∃ lowest ∈ grades, ∀ h ∈ grades, lowest ≤ h := by
  obtain ⟨g, hg⟩ := List.exists_mem_of_ne_nil grades hne
  obtain ⟨lowest, hmem, hleast⟩ :=
    grades.toFinset.exists_min_image rank ⟨g, List.mem_toFinset.2 hg⟩
  exact ⟨lowest, List.mem_toFinset.1 hmem,
    fun h hh => hleast h (List.mem_toFinset.2 hh)⟩

theorem exists_highest {grades : List Rating} (hne : grades ≠ []) :
    ∃ highest ∈ grades, ∀ h ∈ grades, h ≤ highest := by
  obtain ⟨g, hg⟩ := List.exists_mem_of_ne_nil grades hne
  obtain ⟨highest, hmem, hgreatest⟩ :=
    grades.toFinset.exists_max_image rank ⟨g, List.mem_toFinset.2 hg⟩
  exact ⟨highest, List.mem_toFinset.1 hmem,
    fun h hh => hgreatest h (List.mem_toFinset.2 hh)⟩

end Rating

namespace Ratio

variable {r s : Ratio} {g h : Rating}

-- ================================================================ share

/-- The exact share that ran. -/
def share (r : Ratio) : ℚ := r.hits / r.total

/-- The ratio reaches the percentage at which the grade begins. -/
def Reaches (r : Ratio) (g : Rating) : Prop :=
  g.percent * r.total ≤ 100 * r.hits

theorem reaches_iff_le_share (hpos : 0 < r.total) :
    r.Reaches g ↔ (g.percent : ℚ) / 100 ≤ r.share := by
  have htotal : (0 : ℚ) < r.total := by exact_mod_cast hpos
  rw [share, div_le_div_iff₀ (by norm_num) htotal, Reaches,
    Nat.mul_comm 100]
  exact_mod_cast Iff.rfl

-- ================================================================ grades

/-- There is a grade if there is something to measure. -/
theorem isSome_rating_iff : r.rating.isSome ↔ 0 < r.total := by
  unfold rating
  split
  · exact iff_of_false Bool.false_ne_true (by omega)
  · split
    · exact iff_of_true rfl (by omega)
    · split
      · exact iff_of_true rfl (by omega)
      · exact iff_of_true rfl (by omega)

/-- The grades that a ratio has at least are those that it reaches. -/
theorem le_grade_iff (hg : r.rating = some g) : h ≤ g ↔ r.Reaches h := by
  show h.rank ≤ g.rank ↔ h.percent * r.total ≤ 100 * r.hits
  unfold rating at hg
  split at hg
  · cases hg
  · split at hg
    · cases hg
      cases h <;> simp only [Rating.rank, Rating.percent] <;> omega
    · split at hg
      · cases hg
        cases h <;> simp only [Rating.rank, Rating.percent] <;> omega
      · cases hg
        cases h <;> simp only [Rating.rank, Rating.percent] <;> omega

/-- A ratio with more hits and no larger total has no lower grade. -/
theorem grade_le (hr : r.rating = some g) (hs : s.rating = some h)
    (hhits : r.hits ≤ s.hits) (htotal : s.total ≤ r.total) : g ≤ h := by
  have hreaches : r.Reaches g := (le_grade_iff hr).1 (Nat.le_refl _)
  refine (le_grade_iff hs).2 ?_
  calc g.percent * s.total
      ≤ g.percent * r.total := Nat.mul_le_mul_left _ htotal
    _ ≤ 100 * r.hits := hreaches
    _ ≤ 100 * s.hits := Nat.mul_le_mul_left _ hhits

/-- The grade is that of the exact share. -/
structure Graded (r : Ratio) : Prop where
  high : r.rating = some .high ↔ 9 / 10 ≤ r.share
  medium : r.rating = some .medium ↔ 3 / 4 ≤ r.share ∧ r.share < 9 / 10
  low : r.rating = some .low ↔ r.share < 3 / 4

theorem graded_of_pos (hpos : 0 < r.total) : r.Graded := by
  obtain ⟨g, hg⟩ := Option.isSome_iff_exists.1 (isSome_rating_iff.2 hpos)
  have hhigh : Rating.high ≤ g ↔ 9 / 10 ≤ r.share := by
    rw [le_grade_iff hg, reaches_iff_le_share hpos,
      show ((Rating.high.percent : ℚ) / 100) = 9 / 10 by
        norm_num [Rating.percent]]
  have hmedium : Rating.medium ≤ g ↔ 3 / 4 ≤ r.share := by
    rw [le_grade_iff hg, reaches_iff_le_share hpos,
      show ((Rating.medium.percent : ℚ) / 100) = 3 / 4 by
        norm_num [Rating.percent]]
  constructor
  · rw [← hhigh, hg]
    cases g <;> decide
  · rw [← hhigh.not.trans not_le, ← hmedium, hg]
    cases g <;> decide
  · rw [← hmedium.not.trans not_le, hg]
    cases g <;> decide

/-- Ratios of the same share have the same grade. -/
theorem rating_eq_of_share_eq (hr : 0 < r.total) (hs : 0 < s.total)
    (hshare : r.share = s.share) : r.rating = s.rating := by
  obtain ⟨g, hg⟩ := Option.isSome_iff_exists.1 (isSome_rating_iff.2 hs)
  have hgraded := graded_of_pos hr
  have hgraded' := graded_of_pos hs
  rw [hg]
  cases g with
  | low => rw [hgraded.low, hshare, ← hgraded'.low, hg]
  | medium => rw [hgraded.medium, hshare, ← hgraded'.medium, hg]
  | high => rw [hgraded.high, hshare, ← hgraded'.high, hg]

-- ================================================================== sums

theorem sum_cons (r : Ratio) (parts : List Ratio) :
    sum (r :: parts) = r + sum parts := by
  rw [sum_eq, sum_eq]
  rfl

/-- The order of the parts does not matter. -/
theorem sum_of_perm {parts parts' : List Ratio} (h : parts.Perm parts') :
    sum parts = sum parts' := by
  rw [sum_eq, sum_eq, (h.map _).sum_nat, (h.map _).sum_nat]

/-- There is something to measure in the whole if there is in a part. -/
theorem total_sum_pos_iff (parts : List Ratio) :
    0 < (sum parts).total ↔ ∃ r ∈ parts, 0 < r.total := by
  rw [sum_eq, List.sum_pos_iff_exists_pos_nat]
  simp only [List.mem_map, exists_exists_and_eq_and]

variable {parts : List Ratio}

/-- What all parts reach is reached by the whole. -/
theorem reaches_sum (h : ∀ r ∈ parts, r.Reaches g) :
    (sum parts).Reaches g := by
  induction parts with
  | nil => exact Nat.zero_le _
  | cons r rest ih =>
      have hr : g.percent * r.total ≤ 100 * r.hits :=
        h r List.mem_cons_self
      have hrest : g.percent * (sum rest).total ≤ 100 * (sum rest).hits :=
        ih fun s hs => h s (List.mem_cons_of_mem r hs)
      rw [sum_cons, Reaches, total_add, hits_add, Nat.mul_add, Nat.mul_add]
      omega

/-- What the whole reaches is reached by a part that there is something to
measure in. -/
theorem exists_reaches_of_sum (hparts : ∀ r ∈ parts, r.hits ≤ r.total)
    (hpos : 0 < (sum parts).total) (h : (sum parts).Reaches g) :
    ∃ r ∈ parts, 0 < r.total ∧ r.Reaches g := by
  induction parts with
  | nil => cases hpos
  | cons r rest ih =>
      have hrest := fun s hs => hparts s (List.mem_cons_of_mem r hs)
      have hbound := hits_le_total_sum hrest
      have hr : r.hits ≤ r.total := hparts r List.mem_cons_self
      rw [sum_cons, Reaches, total_add, hits_add, Nat.mul_add,
        Nat.mul_add] at h
      rw [sum_cons, total_add] at hpos
      by_cases hreaches : 0 < r.total ∧ r.Reaches g
      · exact ⟨r, List.mem_cons_self, hreaches⟩
      · -- the part falls short or is empty, so the others make up for it
        have hshort : 100 * r.hits ≤ g.percent * r.total
            ∧ (0 < r.total → 100 * r.hits < g.percent * r.total) := by
          rw [not_and, Reaches, Nat.not_le] at hreaches
          refine ⟨?_, hreaches⟩
          rcases Nat.eq_zero_or_pos r.total with hzero | hpos'
          · omega
          · exact Nat.le_of_lt (hreaches hpos')
        have hothers : 0 < (sum rest).total := by omega
        obtain ⟨s, hs, hfound⟩ := ih hrest hothers (by
          rw [Reaches]
          omega)
        exact ⟨s, List.mem_cons_of_mem r hs, hfound⟩

/-- The grade of the whole lies between the lowest and the highest grade
of its parts. -/
theorem liesAmong_sum (hparts : ∀ r ∈ parts, r.hits ≤ r.total)
    (hg : (sum parts).rating = some g) :
    g.LiesAmong (parts.filterMap rating) := by
  have hpos : 0 < (sum parts).total :=
    isSome_rating_iff.1 (Option.isSome_of_mem hg)
  have hgrade : ∀ r ∈ parts, 0 < r.total →
      ∃ h ∈ parts.filterMap rating, r.rating = some h := by
    intro r hr htotal
    obtain ⟨h, hh⟩ := Option.isSome_iff_exists.1
      (isSome_rating_iff.2 htotal)
    exact ⟨h, List.mem_filterMap.2 ⟨r, hr, hh⟩, hh⟩
  have hreached : (sum parts).Reaches g :=
    (le_grade_iff hg).1 (Nat.le_refl _)
  obtain ⟨r, hr, htotal, hreaches⟩ :=
    exists_reaches_of_sum hparts hpos hreached
  obtain ⟨h, hh, hrating⟩ := hgrade r hr htotal
  have hne : parts.filterMap rating ≠ [] := List.ne_nil_of_mem hh
  obtain ⟨lowest, hlowest, hleast⟩ := Rating.exists_lowest hne
  obtain ⟨highest, hhighest, hgreatest⟩ := Rating.exists_highest hne
  refine ⟨lowest, hlowest, highest, hhighest,
    fun h hh => ⟨hleast h hh, hgreatest h hh⟩, ?_, ?_⟩
  · refine (le_grade_iff hg).2 (reaches_sum fun s hs => ?_)
    rcases Nat.eq_zero_or_pos s.total with hzero | htotal'
    · rw [Reaches, hzero]
      exact Nat.zero_le _
    · obtain ⟨h', hh', hrating'⟩ := hgrade s hs htotal'
      exact (le_grade_iff hrating').1 (hleast h' hh')
  · exact Nat.le_trans ((le_grade_iff hrating).2 hreaches)
      (hgreatest h hh)

-- ================================================================= words

/-- The number, if it fits in a word of so many bits. -/
def fit? (bits n : Nat) : Option Nat :=
  if n < 1 <<< bits then some n else none

theorem fit?_of_lt {bits n : Nat} (h : n < 1 <<< bits) :
    fit? bits n = some n :=
  if_pos h

/-- Hits and total are words of sixty-four bits. -/
def FitsWords (r : Ratio) : Prop :=
  r.hits < 1 <<< 64 ∧ r.total < 1 <<< 64

/-- Adds the ratios in words, if no number becomes too large. -/
def addWords? (r s : Ratio) : Option Ratio := do
  let hits ← fit? 64 (r.hits + s.hits)
  let total ← fit? 64 (r.total + s.total)
  return ⟨hits, total⟩

/-- Adds the parts one by one in words, if no number becomes too large. -/
def sumWords? (parts : List Ratio) : Option Ratio :=
  parts.foldlM addWords? 0

/-- Grades the ratio with products in words of 128 bits, if none becomes
too large. -/
def gradeWords? (r : Ratio) : Option (Option Rating) :=
  if r.total = 0 then some none
  else do
    let scaled ← fit? 128 (r.hits * 100)
    let high ← fit? 128 (90 * r.total)
    if high ≤ scaled then return some .high
    let medium ← fit? 128 (75 * r.total)
    return some (if medium ≤ scaled then .medium else .low)

/-- No product becomes too large. -/
theorem gradeWords?_eq (h : r.FitsWords) :
    r.gradeWords? = some r.rating := by
  obtain ⟨hhits, htotal⟩ := h
  have hwide : ∀ k n : Nat, k ≤ 100 → n < 1 <<< 64 → k * n < 1 <<< 128 := by
    intro k n hk hn
    calc k * n ≤ 100 * n := Nat.mul_le_mul_right n hk
      _ < 1 <<< 128 := by omega
  unfold gradeWords? rating
  split
  · rfl
  · rw [Nat.mul_comm r.hits, fit?_of_lt (hwide 100 _ (by decide) hhits),
      fit?_of_lt (hwide 90 _ (by decide) htotal),
      fit?_of_lt (hwide 75 _ (by decide) htotal)]
    simp only [Option.bind_eq_bind, Option.bind_some, Option.pure_def]
    split
    · rfl
    · exact congrArg some (apply_ite some _ _ _)

theorem addWords?_eq (h : (r + s).FitsWords) :
    addWords? r s = some (r + s) := by
  obtain ⟨hhits, htotal⟩ := h
  rw [hits_add] at hhits
  rw [total_add] at htotal
  rw [addWords?, fit?_of_lt hhits, fit?_of_lt htotal]
  rfl

/-- No partial sum becomes too large if the whole does not. -/
theorem sumWords?_eq (h : (sum parts).FitsWords) :
    sumWords? parts = some (sum parts) := by
  have hfold : ∀ r : Ratio, (r + sum parts).FitsWords →
      parts.foldlM addWords? r = some (r + sum parts) := by
    clear h
    induction parts with
    | nil => exact fun r _ => rfl
    | cons p rest ih =>
        intro r hfits
        have hassoc : r + sum (p :: rest) = (r + p) + sum rest := by
          rw [sum_cons]
          exact Ratio.ext (Nat.add_assoc _ _ _).symm
            (Nat.add_assoc _ _ _).symm
        rw [hassoc] at hfits ⊢
        have hpartial : (r + p).FitsWords :=
          ⟨Nat.lt_of_le_of_lt (Nat.le_add_right _ _) hfits.1,
            Nat.lt_of_le_of_lt (Nat.le_add_right _ _) hfits.2⟩
        rw [List.foldlM_cons, addWords?_eq hpartial]
        exact ih (r + p) hfits
  have hzero : 0 + sum parts = sum parts :=
    Ratio.ext (Nat.zero_add _) (Nat.zero_add _)
  have hsum := hfold 0 (hzero.symm ▸ h)
  rw [hzero] at hsum
  exact hsum

-- ============================================================ all of it

/-- The grade is that of the exact share, and no product overflows. It
hangs on the share alone, does not fall with more hits and does not rise
with a larger total. If a sum of ratios fits in words, so do the partial
sums in any order of the parts. The sum has a grade if a part has, and
that lies between the lowest and the highest grade of the parts. -/
theorem grading_exact :
    (∀ r : Ratio, 0 < r.total → r.Graded)
      ∧ (∀ r : Ratio, r.FitsWords → r.gradeWords? = some r.rating)
      ∧ (∀ r s : Ratio, 0 < r.total → 0 < s.total → r.share = s.share →
        r.rating = s.rating)
      ∧ (∀ (r s : Ratio) (g h : Rating), r.rating = some g →
        s.rating = some h → r.hits ≤ s.hits → s.total ≤ r.total → g ≤ h)
      ∧ ∀ parts : List Ratio, (∀ r ∈ parts, r.hits ≤ r.total) →
        (sum parts).FitsWords →
          (∀ order, order.Perm parts →
            sumWords? order = some (sum parts))
          ∧ ((sum parts).rating.isSome ↔ ∃ r ∈ parts, 0 < r.total)
          ∧ ∀ g, (sum parts).rating = some g →
            g.LiesAmong (parts.filterMap rating) := by
  refine ⟨fun r => graded_of_pos, fun r => gradeWords?_eq,
    fun r s => rating_eq_of_share_eq, fun r s g h => grade_le,
    fun parts hparts hfits => ⟨?_, ?_, fun g => liesAmong_sum hparts⟩⟩
  · intro order horder
    rw [← sum_of_perm horder] at hfits ⊢
    exact sumWords?_eq hfits
  · exact isSome_rating_iff.trans (total_sum_pos_iff parts)

/-- A ratio of the largest words; two ratios of one share; a larger total
under the same hits; a whole between a high part and a low one, with a
part that there is nothing to measure in. -/
theorem grading_exact_mixed :
    let full : Ratio := ⟨(1 <<< 64) - 1, (1 <<< 64) - 1⟩
    let parts : List Ratio := [⟨9, 10⟩, ⟨0, 0⟩, ⟨3, 5⟩]
    (full.FitsWords ∧ full.gradeWords? = some (some .high))
      ∧ (9 / 10 ≤ (⟨45, 50⟩ : Ratio).share
        ∧ rating ⟨45, 50⟩ = some .high ∧ rating ⟨9, 10⟩ = some .high)
      ∧ (rating ⟨9, 12⟩ = some .medium ∧ Rating.medium ≤ .high)
      ∧ (∀ r ∈ parts, r.hits ≤ r.total) ∧ (sum parts).FitsWords
      ∧ sumWords? [⟨3, 5⟩, ⟨9, 10⟩, ⟨0, 0⟩] = some ⟨12, 15⟩
      ∧ (sum parts).rating = some .medium
      ∧ Rating.LiesAmong .medium (parts.filterMap rating) := by
  intro full parts
  obtain ⟨hgraded, hwords, hshare, hmono, hsums⟩ := grading_exact
  have hfull : full.FitsWords := ⟨by decide, by decide⟩
  have hsame : (⟨45, 50⟩ : Ratio).share = (⟨9, 10⟩ : Ratio).share := by
    norm_num [share]
  have hnine : rating ⟨9, 10⟩ = some .high := by decide
  have hhigh : rating ⟨45, 50⟩ = some .high :=
    (hshare _ _ (by decide) (by decide) hsame).trans hnine
  have hthree : rating ⟨9, 12⟩ = some .medium := by decide
  have hparts : ∀ r ∈ parts, r.hits ≤ r.total := by decide
  have hfits : (sum parts).FitsWords := ⟨by decide, by decide⟩
  obtain ⟨horder, -, hbetween⟩ := hsums parts hparts hfits
  have hmedium : (sum parts).rating = some .medium := by decide
  refine ⟨⟨hfull, (hwords full hfull).trans (by decide)⟩,
    ⟨((hgraded _ (by decide)).high).1 hhigh, hhigh, hnine⟩,
    ⟨hthree, hmono _ _ _ _ hthree hnine (by decide) (by decide)⟩,
    hparts, hfits, (horder _ (by decide)).trans (by decide), hmedium,
    hbetween _ hmedium⟩

end Ratio

end Coverage
