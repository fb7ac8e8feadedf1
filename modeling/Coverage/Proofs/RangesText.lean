/-
The printed form of ranges of lines can be read back. Ranges stand one
after the other with a comma and a blank between them; a range of one line
is a numeral, any other has a hyphen between two. `readRanges?` reads such
a text, and it takes just the texts that are printed
(`readRanges?_eq_some_iff`). So no text is printed for two lists of ranges,
and files whose missed ranges differ never show the same ones.

# How it is proved

Neither hyphen nor comma occurs in a numeral. So a range has its hyphen
where the two numerals meet, and two different ranges are never joined
into one. A list is printed with a blank before every range but the first.
With a blank before that one too, the pieces between commas are the items
of the list, one by one (`blank_cons_rangesText`).
-/
import Coverage.Proofs.RecordReading
import Coverage.Report

namespace Coverage

-- ============================================================= numerals

/-- The number whose numeral the text is, without a sign and without zeros
in front. -/
def Text.readNatural? (text : List Char) : Option Nat :=
  let n := Nat.ofDigitChars 10 text 0
  if numeral n = text then some n else none

theorem Text.readNatural?_eq_some_iff {text : List Char} {n : Nat} :
    readNatural? text = some n ↔ text = numeral n := by
  rw [readNatural?]
  constructor
  · intro h
    split at h
    · next heq =>
        cases h
        exact heq.symm
    · cases h
  · rintro rfl
    have hvalue : Nat.ofDigitChars 10 (numeral n) 0 = n :=
      Nat.ofDigitChars_ten_toDigits
    rw [hvalue, if_pos rfl]

-- =============================================================== ranges

namespace LineRange

/-- The printed form of a range, as characters. -/
def spelling (r : LineRange) : List Char :=
  if r.first = r.last then Text.numeral r.first
  else Text.numeral r.first ++ '-' :: Text.numeral r.last

theorem toList_text (r : LineRange) : r.text.toList = r.spelling := by
  unfold text spelling
  split
  · exact Nat.toList_repr
  · rw [String.toList_append, String.toList_append, Nat.toList_repr,
      Nat.toList_repr, List.append_assoc]
    rfl

/-- Neither of the characters between ranges is in one. -/
theorem not_mem_spelling {c : Char} (hdigit : c.isDigit = false)
    (hhyphen : c ≠ '-') (r : LineRange) : c ∉ r.spelling := by
  have hnumeral := Text.not_mem_numeral hdigit
  unfold spelling
  split
  · exact hnumeral _
  · rw [List.mem_append, List.mem_cons]
    rintro (h | h | h)
    · exact hnumeral _ h
    · exact hhyphen h
    · exact hnumeral _ h

theorem spelling_ne_nil (r : LineRange) : r.spelling ≠ [] := by
  have hnumeral : Text.numeral r.first ≠ [] := Nat.toDigits_ne_nil
  unfold spelling
  split
  · exact hnumeral
  · exact List.append_ne_nil_of_left_ne_nil hnumeral _

/-- Reads a range: a numeral, or two different ones with a hyphen between
them. -/
def read? (text : List Char) : Option LineRange :=
  match Text.splitFirst? '-' text with
  | none => (Text.readNatural? text).map fun line => ⟨line, line⟩
  | some (before, after) => do
    let first ← Text.readNatural? before
    let last ← Text.readNatural? after
    if first = last then none else some ⟨first, last⟩

/-- A range is read from its printed form, and from no other text. -/
theorem read?_eq_some_iff {text : List Char} {r : LineRange} :
    read? text = some r ↔ text = r.spelling := by
  -- numerals have no hyphen, so a range is cut in one way
  have hclean : ∀ n, '-' ∉ Text.numeral n := Text.not_mem_numeral rfl
  unfold read? spelling
  constructor
  · intro h
    split at h
    · obtain ⟨line, hline, rfl⟩ := Option.map_eq_some_iff.1 h
      rw [if_pos rfl]
      exact Text.readNatural?_eq_some_iff.1 hline
    · next before after hcut =>
        obtain ⟨first, hfirst, h⟩ := Option.bind_eq_some_iff.1 h
        obtain ⟨last, hlast, h⟩ := Option.bind_eq_some_iff.1 h
        split at h
        · cases h
        · next hne =>
            cases h
            rw [if_neg hne, (Text.eq_of_splitFirst?_eq_some hcut).1,
              Text.readNatural?_eq_some_iff.1 hfirst,
              Text.readNatural?_eq_some_iff.1 hlast]
  · rintro rfl
    obtain ⟨first, last⟩ := r
    have hread : ∀ n, Text.readNatural? (Text.numeral n) = some n :=
      fun n => Text.readNatural?_eq_some_iff.2 rfl
    dsimp only
    by_cases hsame : first = last
    · rw [if_pos hsame, Text.splitFirst?_eq_none_iff.2 (hclean _)]
      dsimp only
      rw [hread, Option.map_some, hsame]
    · rw [if_neg hsame, Text.splitFirst?_append (hclean _)]
      dsimp only
      rw [hread, hread]
      exact if_neg hsame

/-- A range with a blank before it. -/
def item (r : LineRange) : List Char := ' ' :: r.spelling

/-- Reads a range behind a blank. -/
def readItem? : List Char → Option LineRange
  | ' ' :: text => read? text
  | _ => none

theorem readItem?_eq_some_iff {text : List Char} {r : LineRange} :
    readItem? text = some r ↔ text = r.item := by
  unfold readItem? item
  split
  · next text =>
      rw [read?_eq_some_iff, List.cons.injEq, and_iff_right rfl]
  · next hblank =>
      exact iff_of_false nofun fun h => hblank _ h

end LineRange

-- ================================================================ lists

/-- Reads ranges with a comma and a blank between them. -/
def readRanges? (text : String) : Option (List LineRange) :=
  if text = "" then some []
  else ((' ' :: text.toList).splitOn ',').mapM LineRange.readItem?

/-- Where items are read just from what is written, so are lists. -/
theorem mapM_eq_some_iff {α β : Type} {read : α → Option β} {write : β → α}
    (h : ∀ a b, read a = some b ↔ a = write b) (as : List α)
    (bs : List β) : as.mapM read = some bs ↔ as = bs.map write := by
  induction as generalizing bs with
  | nil =>
      rw [List.mapM_nil]
      cases bs with
      | nil => exact iff_of_true rfl rfl
      | cons b bs => exact iff_of_false nofun nofun
  | cons a as ih =>
      rw [List.mapM_cons]
      constructor
      · intro hread
        obtain ⟨b, hb, hread⟩ := Option.bind_eq_some_iff.1 hread
        obtain ⟨rest, hrest, hread⟩ := Option.bind_eq_some_iff.1 hread
        cases hread
        rw [List.map_cons, (h a b).1 hb, (ih rest).1 hrest]
      · intro hwritten
        cases bs with
        | nil => cases hwritten
        | cons b rest =>
            rw [List.map_cons, List.cons.injEq] at hwritten
            rw [(h a b).2 hwritten.1, (ih rest).2 hwritten.2]
            rfl

/-- The printed list, with a blank before it, is its items with commas
between them. -/
theorem blank_cons_rangesText {ranges : List LineRange}
    (hne : ranges ≠ []) :
    ' ' :: (rangesText ranges).toList
      = Record.join (ranges.map LineRange.item) := by
  have hseparator : ", ".toList = [',', ' '] := rfl
  have htext : ∀ r : LineRange, ' ' :: r.text.toList = r.item :=
    fun r => congrArg _ r.toList_text
  rw [rangesText, String.toList_intercalate, hseparator, Record.join]
  induction ranges with
  | nil => exact absurd rfl hne
  | cons r rest ih =>
      cases rest with
      | nil =>
          rw [List.map_singleton, List.map_singleton, List.map_singleton,
            List.intercalate_singleton, List.intercalate_singleton]
          exact htext r
      | cons q rest =>
          have hrest := ih (List.cons_ne_nil q rest)
          simp only [List.map_cons, List.intercalate_cons_cons] at hrest ⊢
          rw [← hrest, ← htext r]
          simp only [List.append_assoc, List.cons_append, List.nil_append]

/-- Only the empty list is printed as no text. -/
theorem rangesText_eq_empty_iff (ranges : List LineRange) :
    rangesText ranges = "" ↔ ranges = [] := by
  constructor
  · intro h
    cases ranges with
    | nil => rfl
    | cons r rest =>
        have hlist := congrArg String.toList h
        rw [rangesText, String.toList_intercalate, List.map_cons,
          List.map_cons, LineRange.toList_text] at hlist
        cases rest with
        | nil =>
            rw [List.map_nil, List.map_nil,
              List.intercalate_singleton] at hlist
            exact absurd hlist r.spelling_ne_nil
        | cons q rest =>
            rw [List.map_cons, List.map_cons, List.intercalate_cons_cons,
              List.append_assoc] at hlist
            exact absurd (List.append_eq_nil_iff.1 hlist).1 r.spelling_ne_nil
  · rintro rfl
    rfl

/-- A list of ranges is read from its printed form, and from no other
text. -/
theorem readRanges?_eq_some_iff {text : String} {ranges : List LineRange} :
    readRanges? text = some ranges ↔ rangesText ranges = text := by
  unfold readRanges?
  split
  · next hempty =>
      rw [hempty, rangesText_eq_empty_iff, Option.some.injEq, eq_comm]
  · next hne =>
      rw [mapM_eq_some_iff fun _ _ => LineRange.readItem?_eq_some_iff]
      constructor
      · intro hsplit
        have hranges : ranges ≠ [] := by
          rintro rfl
          exact List.splitOn_ne_nil _ _ hsplit
        have hjoin : Record.join (ranges.map LineRange.item)
            = ' ' :: text.toList := by
          rw [← hsplit]
          exact List.intercalate_splitOn ','
        rw [← blank_cons_rangesText hranges, List.cons.injEq,
          String.toList_inj] at hjoin
        exact hjoin.2
      · rintro rfl
        have hranges : ranges ≠ [] :=
          fun hnil => hne ((rangesText_eq_empty_iff ranges).2 hnil)
        rw [blank_cons_rangesText hranges]
        refine Record.fields_join (fun hnil =>
          hranges (List.map_eq_nil_iff.1 hnil)) fun piece hpiece => ?_
        obtain ⟨r, -, rfl⟩ := List.mem_map.1 hpiece
        rw [LineRange.item, List.mem_cons, not_or]
        exact ⟨by decide, r.not_mem_spelling rfl (by decide)⟩

-- ============================================================ all of it

/-- Printed ranges are read back, from their own text only. So lists that
differ are printed differently, and so are the missed ranges of files
where they differ. -/
theorem rangesText_exact :
    (∀ text ranges, readRanges? text = some ranges
        ↔ rangesText ranges = text)
      ∧ Function.Injective rangesText
      ∧ ∀ (name name' : String) (d d' : FileData),
        missedRanges d.lines ≠ missedRanges d'.lines →
          rangesText (Report.fileEntry name d).missed
            ≠ rangesText (Report.fileEntry name' d').missed := by
  have hinjective : Function.Injective rangesText := by
    intro ranges ranges' h
    have hread := readRanges?_eq_some_iff.2 h
    rw [readRanges?_eq_some_iff.2 rfl] at hread
    exact (Option.some.inj hread).symm
  exact ⟨fun _ _ => readRanges?_eq_some_iff, hinjective,
    fun _ _ _ _ hne htext => hne (hinjective htext)⟩

/-- A file that missed lines next to one another, and one that missed the
same and another far from them. -/
def missedOnce : FileData :=
  ((FileData.empty "a.c").addLine 3 0).addLine 4 0

/-- The second of these. -/
def missedTwice : FileData := missedOnce.addLine 9 0

/-- A range that runs backwards and one of a single line are read back; a
single line that is printed as a range is refused, and so is a zero in
front. -/
theorem rangesText_exact_backwards :
    readRanges? "7-3, 5" = some [⟨7, 3⟩, ⟨5, 5⟩]
      ∧ readRanges? "" = some [] ∧ readRanges? "5-5" = none
      ∧ readRanges? "05" = none
      ∧ missedRanges missedOnce.lines = [⟨3, 4⟩]
      ∧ missedRanges missedTwice.lines = [⟨3, 4⟩, ⟨9, 9⟩]
      ∧ rangesText (Report.fileEntry "a.c" missedOnce).missed
        ≠ rangesText (Report.fileEntry "a.c" missedTwice).missed := by
  obtain ⟨hread, -, hdiffer⟩ := rangesText_exact
  have honce : missedRanges missedOnce.lines = [⟨3, 4⟩] := by
    decide +kernel
  have htwice : missedRanges missedTwice.lines = [⟨3, 4⟩, ⟨9, 9⟩] := by
    decide +kernel
  refine ⟨(hread _ _).2 (by decide +kernel), (hread _ _).2 rfl,
    by decide +kernel, by decide +kernel, honce, htwice,
    hdiffer _ _ _ _ ?_⟩
  rw [honce, htwice]
  decide

end Coverage
