/-
Deriving lines in a set of files. The pass goes through the files in the
order of their names and stops at the first that has both regions and
lines. Its outcome is said in two statements: without such a file every
file is converted (`deriveLines_of_no_clash`), and otherwise the fault
names the least such file and exactly the files before it are converted
(`deriveLines_of_clash`).
-/
import Mathlib.Data.List.TakeWhile
import Coverage.Proofs.FileSet

namespace Coverage

namespace FileData

/-- Lines cannot be derived: there are regions, but lines as well. -/
def clashes (d : FileData) : Bool := !d.regions.isEmpty && !d.lines.isEmpty

/-- The file with the lines that its regions give it. A file without
regions stays as it is. -/
def withRegionLines (d : FileData) : FileData :=
  if d.regions.isEmpty then d else { d with lines := d.regionLines }

/-- The file after the attempt to derive its lines: as it was if it
refuses. -/
def tryDeriveLines (d : FileData) : FileData :=
  match d.deriveLines with
  | .ok e => e
  | .error _ => d

theorem clashes_iff (d : FileData) :
    d.clashes = true ↔ d.regions ≠ ∅ ∧ d.lines ≠ ∅ := by
  simp only [clashes, Bool.and_eq_true, Bool.not_eq_true',
    Std.ExtTreeMap.isEmpty_eq_false_iff, ne_eq]

end FileData

namespace FileSet

variable {S : FileSet}

-- ============================================================= one pass

/-- A file that has both regions and lines stops the pass. -/
theorem deriveLinesIn_of_clash {d : FileData} (h : d.clashes = true)
    (S : FileSet) (m : String) (rest : List (String × FileData)) :
    S.deriveLinesIn ((m, d) :: rest) = (S, some (.linesPresent d.name)) := by
  rw [FileData.clashes, Bool.and_eq_true, Bool.not_eq_true',
    Bool.not_eq_true'] at h
  rw [deriveLinesIn, h.1, if_neg Bool.false_ne_true, FileData.deriveLines,
    h.2, if_neg Bool.false_ne_true]

/-- Any other file is converted in place, and the pass goes on. -/
theorem deriveLinesIn_of_no_clash {d : FileData} (h : d.clashes = false)
    (S : FileSet) (m : String) (rest : List (String × FileData)) :
    ∃ T : FileSet, S.deriveLinesIn ((m, d) :: rest) = T.deriveLinesIn rest
      ∧ (S.get? m = some d → ∀ n, T.get? n
        = if m = n then some d.withRegionLines else S.get? n) := by
  rw [deriveLinesIn]
  by_cases hr : d.regions.isEmpty = true
  · -- without regions nothing is to be done
    refine ⟨S, if_pos hr, fun hd n => ?_⟩
    have hsame : d.withRegionLines = d := if_pos hr
    rw [hsame, ← hd]
    split
    · next hn => rw [hn]
    · rfl
  · have hl : d.lines.isEmpty = true := by
      simpa [FileData.clashes, hr] using h
    rw [if_neg hr, FileData.deriveLines, if_pos hl]
    refine ⟨_, rfl, fun _ n => ?_⟩
    have hconv : d.withRegionLines = { d with lines := d.regionLines } :=
      if_neg hr
    unfold get?
    rw [Std.ExtTreeMap.getElem?_insert, hconv]
    simp only [Std.LawfulEqOrd.compare_eq_iff_eq]

/-- The fault names the first listed file that has regions and lines. -/
theorem snd_deriveLinesIn (S : FileSet)
    (entries : List (String × FileData)) :
    (S.deriveLinesIn entries).2
      = (entries.find? (·.2.clashes)).map
          fun p => .linesPresent p.2.name := by
  induction entries generalizing S with
  | nil => rfl
  | cons p rest ih =>
      obtain ⟨m, d⟩ := p
      cases hc : d.clashes with
      | true =>
          rw [deriveLinesIn_of_clash hc,
            List.find?_cons_of_pos (by exact hc)]
          rfl
      | false =>
          obtain ⟨T, hstep, -⟩ := deriveLinesIn_of_no_clash hc S m rest
          rw [hstep, ih, List.find?_cons_of_neg (by simp [hc])]

/-- The files before the first that has regions and lines are converted,
all others stay as they are. -/
theorem get?_fst_deriveLinesIn {entries : List (String × FileData)}
    (hdistinct : entries.Pairwise fun a b => a.1 ≠ b.1)
    (hpresent : ∀ p ∈ entries, S.get? p.1 = some p.2) (n : String) :
    (S.deriveLinesIn entries).1.get? n
      = if n ∈ (entries.takeWhile (! ·.2.clashes)).map Prod.fst then
          (S.get? n).map FileData.withRegionLines
        else S.get? n := by
  induction entries generalizing S with
  | nil => rfl
  | cons p rest ih =>
      obtain ⟨m, d⟩ := p
      obtain ⟨hm, hdistinct⟩ := List.pairwise_cons.1 hdistinct
      have hd : S.get? m = some d := hpresent (m, d) List.mem_cons_self
      cases hc : d.clashes with
      -- nothing is done from the first clash on
      | true =>
          rw [deriveLinesIn_of_clash hc,
            List.takeWhile_cons_of_neg (by simp [hc])]
          rfl
      | false =>
          obtain ⟨T, hstep, hT⟩ := deriveLinesIn_of_no_clash hc S m rest
          -- what is done to one file does not touch those behind it
          have hrest : ∀ p ∈ rest, T.get? p.1 = some p.2 := by
            intro p hp
            rw [hT hd, if_neg (hm p hp)]
            exact hpresent p (List.mem_cons_of_mem _ hp)
          rw [hstep, ih hdistinct hrest, hT hd,
            List.takeWhile_cons_of_pos (by simp [hc]), List.map_cons]
          by_cases hn : m = n
          · -- the name does not come again
            have hout :
                n ∉ (rest.takeWhile (! ·.2.clashes)).map Prod.fst := by
              intro hmem
              obtain ⟨q, hq, heq⟩ := List.mem_map.1 hmem
              exact hm q ((List.takeWhile_prefix _).subset hq)
                (hn.trans heq.symm)
            rw [if_neg hout, if_pos hn, if_pos (by simp [hn]), ← hn, hd,
              Option.map_some]
          · rw [if_neg hn]
            simp only [List.mem_cons, Ne.symm hn, false_or]

-- ======================================================== the whole set

theorem get?_fst_deriveLines (S : FileSet) (n : String) :
    S.deriveLines.1.get? n
      = if n ∈ (S.toList.takeWhile (! ·.2.clashes)).map Prod.fst then
          (S.get? n).map FileData.withRegionLines
        else S.get? n :=
  get?_fst_deriveLinesIn (pairwise_ne_toList S)
    (fun _ hp => (mem_toList S).1 hp) n

/-- If no file has both regions and lines, every file is converted. -/
theorem deriveLines_of_no_clash
    (h : ∀ n d, S.get? n = some d → d.clashes = false) :
    S.deriveLines.2 = none
      ∧ ∀ n, S.deriveLines.1.get? n
        = (S.get? n).map FileData.withRegionLines := by
  have hnone : ∀ p ∈ S.toList, p.2.clashes = false := fun p hp =>
    h p.1 p.2 ((mem_toList S).1 hp)
  constructor
  · rw [deriveLines, snd_deriveLinesIn, List.find?_eq_none.2]
    · rfl
    · intro p hp
      rw [hnone p hp]
      exact Bool.false_ne_true
  · intro n
    have hall : S.toList.takeWhile (! ·.2.clashes) = S.toList :=
      List.takeWhile_eq_self_iff.2 fun p hp => by rw [hnone p hp]; rfl
    rw [get?_fst_deriveLines, hall, ← names_eq_map_toList]
    split
    · rfl
    · next hn =>
        cases hd : S.get? n with
        | none => rfl
        | some d => exact absurd ((mem_names S).2 ⟨d, hd⟩) hn

/-- The listing is cut at a file into the names before it and the names
behind it. -/
theorem exists_toList_eq {m : String} {d : FileData}
    (hd : S.get? m = some d) :
    ∃ pre post, S.toList = pre ++ (m, d) :: post
      ∧ (∀ p ∈ pre, p.1 < m) ∧ ∀ p ∈ post, m < p.1 := by
  obtain ⟨pre, post, hsplit⟩ :=
    List.append_of_mem ((mem_toList S).2 hd)
  have hsorted := pairwise_lt_toList S
  rw [hsplit, List.pairwise_append, List.pairwise_cons] at hsorted
  obtain ⟨-, ⟨hpost, -⟩, hcross⟩ := hsorted
  exact ⟨pre, post, hsplit,
    fun p hp => hcross p hp (m, d) List.mem_cons_self, hpost⟩

/-- Every file before the cut is in the first part. -/
theorem mem_of_lt {m n : String} {d e : FileData}
    {pre post : List (String × FileData)}
    (hsplit : S.toList = pre ++ (m, d) :: post)
    (hpost : ∀ p ∈ post, m < p.1) (he : S.get? n = some e)
    (hlt : n < m) : (n, e) ∈ pre := by
  have hmem := (mem_toList S).2 he
  rw [hsplit] at hmem
  rcases List.mem_append.1 hmem with hmem | hmem
  · exact hmem
  · rcases List.mem_cons.1 hmem with heq | hmem
    · cases heq
      exact absurd hlt (String.lt_irrefl _)
    · exact absurd (String.lt_trans hlt (hpost _ hmem))
        (String.lt_irrefl _)

/-- If the least file that has both regions and lines is `m`, the fault
names it, and exactly the files before it are converted. -/
theorem deriveLines_of_clash (hS : S.Keyed) {m : String} {d : FileData}
    (hd : S.get? m = some d) (hclash : d.clashes = true)
    (hleast : ∀ n e, S.get? n = some e → e.clashes = true → ¬ n < m) :
    S.deriveLines.2 = some (.linesPresent m)
      ∧ ∀ n, S.deriveLines.1.get? n
        = if n < m then (S.get? n).map FileData.withRegionLines
          else S.get? n := by
  -- The set is walked through in the order of names, so what comes before
  -- the clash is what has a smaller name.
  obtain ⟨pre, post, hsplit, hbefore, hpost⟩ := exists_toList_eq hd
  have hpre : ∀ p ∈ pre, p.2.clashes = false := by
    intro p hp
    have hget : S.get? p.1 = some p.2 :=
      (mem_toList S).1 (hsplit ▸ List.mem_append_left _ hp)
    rw [Bool.eq_false_iff]
    exact fun hc => hleast p.1 p.2 hget hc (hbefore p hp)
  constructor
  · have hfind : S.toList.find? (·.2.clashes) = some (m, d) := by
      rw [hsplit, List.find?_append, List.find?_eq_none.2 fun p hp => by
        rw [hpre p hp]; exact Bool.false_ne_true, Option.none_or,
        List.find?_cons_of_pos (by exact hclash)]
    rw [deriveLines, snd_deriveLinesIn, hfind, Option.map_some, hS m d hd]
  · intro n
    have htake : S.toList.takeWhile (! ·.2.clashes) = pre := by
      rw [hsplit, List.takeWhile_append_of_pos fun p hp => by
        rw [hpre p hp]; rfl,
        List.takeWhile_cons_of_neg (by simp [hclash]), List.append_nil]
    rw [get?_fst_deriveLines, htake]
    by_cases hlt : n < m
    · rw [if_pos hlt]
      cases he : S.get? n with
      | none => split <;> rfl
      | some e =>
          have hmem := mem_of_lt hsplit hpost he hlt
          rw [if_pos (List.mem_map_of_mem (f := Prod.fst) hmem)]
    · rw [if_neg hlt, if_neg]
      intro hmem
      obtain ⟨p, hp, rfl⟩ := List.mem_map.1 hmem
      exact hlt (hbefore p hp)

/-- If some file has both regions and lines, there is a least one. -/
theorem exists_least_clash {n : String} {e : FileData}
    (he : S.get? n = some e) (hclash : e.clashes = true) :
    ∃ m d, S.get? m = some d ∧ d.clashes = true
      ∧ ∀ k f, S.get? k = some f → f.clashes = true → ¬ k < m := by
  cases hfind : S.toList.find? (·.2.clashes) with
  | none =>
      have hno := List.find?_eq_none.1 hfind (n, e) ((mem_toList S).2 he)
      exact absurd hclash hno
  | some p =>
      obtain ⟨m, d⟩ := p
      obtain ⟨hd, pre, post, hsplit, hpre⟩ :=
        List.find?_eq_some_iff_append.1 hfind
      have hsorted := pairwise_lt_toList S
      rw [hsplit, List.pairwise_append, List.pairwise_cons] at hsorted
      have hpost := hsorted.2.1.1
      refine ⟨m, d, (mem_toList S).1 (List.mem_of_find?_eq_some hfind),
        hd, ?_⟩
      intro k f hk hf hlt
      have hnot := hpre (k, f) (mem_of_lt hsplit hpost hk hlt)
      rw [hf] at hnot
      cases hnot

end FileSet

end Coverage
