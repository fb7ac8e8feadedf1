/-
The lines of Go profiles, said without a reader. A line is a block if it
has these parts, with exactly these separators between them:

    <file>:<line>.<column>,<line>.<column> <statements> <count>

The file has a name without colon, all other parts are numerals, and the
region does not touch too many lines (`IsBlock`). The reader takes just
these lines for blocks (`readBlock_eq_ok_iff`): no separator occurs in a
numeral, so each is found where it was put.
-/
import Coverage.GoProfile
import Coverage.Proofs.RecordReading

namespace Coverage

-- ============================================================= numerals

/-- A numeral has no character but digits and a plus sign. -/
theorem Text.Numeral.Denotes.not_mem {text : List Char} {n : Nat}
    (h : Denotes text n) {c : Char} (hdigit : c.isDigit = false)
    (hplus : c ≠ '+') : c ∉ text := by
  intro hc
  have hrest : c ∈ unsigned text := by
    unfold unsigned
    split
    · rcases List.mem_cons.1 hc with rfl | hc
      · exact absurd rfl hplus
      · exact hc
    · exact hc
  rw [h.digits c hrest] at hdigit
  cases hdigit

/-- A text is cut where the separator occurs for the first time. -/
theorem Text.splitFirst?_eq_some_iff {sep : Char}
    {text head rest : List Char} :
    splitFirst? sep text = some (head, rest)
      ↔ text = head ++ sep :: rest ∧ sep ∉ head := by
  constructor
  · exact eq_of_splitFirst?_eq_some
  · rintro ⟨rfl, hclean⟩
    exact splitFirst?_append hclean rest

namespace GoProfile

open Record

variable {whole text : List Char}

-- ============================================================ positions

/-- The text is a position. -/
inductive IsPosition (text : List Char) (p : Position) : Prop
  | mk {line column : List Char} (htext : text = line ++ '.' :: column)
      (hline : IsNumber line p.line) (hcolumn : IsNumber column p.column)

/-- No character occurs in a position but digits, plus signs and the
point. -/
theorem IsPosition.not_mem {p : Position} (h : IsPosition text p)
    {c : Char} (hdigit : c.isDigit = false) (hplus : c ≠ '+')
    (hpoint : c ≠ '.') : c ∉ text := by
  obtain ⟨rfl, hline, hcolumn⟩ := h
  rw [List.mem_append, List.mem_cons]
  rintro (hc | hc | hc)
  · exact hline.1.not_mem hdigit hplus hc
  · exact hpoint hc
  · exact hcolumn.1.not_mem hdigit hplus hc

theorem readPosition_eq_ok_iff {p : Position} :
    readPosition whole text = .ok p ↔ IsPosition text p := by
  constructor
  · intro h
    unfold readPosition at h
    split at h
    · next line column hcut =>
        obtain ⟨htext, -⟩ := Text.splitFirst?_eq_some_iff.1 hcut
        obtain ⟨n, hn, h⟩ := exceptBind_eq_ok_iff.1 h
        obtain ⟨m, hm, h⟩ := exceptBind_eq_ok_iff.1 h
        cases h
        exact ⟨htext, readNumber_eq_ok_iff.1 hn, readNumber_eq_ok_iff.1 hm⟩
    · cases h
  · rintro ⟨rfl, hline, hcolumn⟩
    have hpoint := hline.1.not_mem (c := '.') rfl (by decide)
    rw [readPosition, Text.splitFirst?_append hpoint]
    exact exceptBind_eq_ok_iff.2 ⟨_, readNumber_eq_ok_iff.2 hline,
      exceptBind_eq_ok_iff.2 ⟨_, readNumber_eq_ok_iff.2 hcolumn, rfl⟩⟩

-- =============================================================== blocks

theorem cut_eq_ok_iff {which : BlockSeparator} {sep : Char}
    {head rest : List Char} :
    cut whole which sep text = .ok (head, rest)
      ↔ text = head ++ sep :: rest ∧ sep ∉ head := by
  rw [← Text.splitFirst?_eq_some_iff, cut]
  cases Text.splitFirst? sep text with
  | none => exact iff_of_false nofun nofun
  | some parts =>
      show Except.ok parts = .ok (head, rest) ↔ some parts = some (head, rest)
      rw [Except.ok.injEq, Option.some.injEq]

/-- The line is a block. -/
inductive IsBlock (line : List Char) (b : Block) : Prop
  | mk {file first last statements count : List Char}
      (hline : line = file ++ ':' :: (first ++ ',' :: (last
        ++ ' ' :: (statements ++ ' ' :: count))))
      (hfile : file ≠ []) (hcolon : ':' ∉ file)
      (hname : b.file = String.ofList file)
      (hfirst : IsPosition first b.first)
      (hlast : IsPosition last b.last)
      (hstatements : IsNumber statements b.statements)
      (hcount : IsCount count b.count)
      (hspan : b.region.lineCount ≤ Region.maxLines)

/-- Blocks are read as what they are, and nothing else is read. -/
theorem readBlock_eq_ok_iff {line : List Char} {b : Block} :
    readBlock line = .ok b ↔ IsBlock line b := by
  constructor
  · intro h
    unfold readBlock at h
    -- each step of the reader is taken apart in turn
    obtain ⟨⟨file, rest⟩, hfile, h⟩ := exceptBind_eq_ok_iff.1 h
    obtain ⟨hline, hcolon⟩ := cut_eq_ok_iff.1 hfile
    dsimp only at h
    split at h
    · cases h
    · next hne =>
        obtain ⟨⟨first, tail⟩, hfirst, h⟩ := exceptBind_eq_ok_iff.1 h
        obtain ⟨⟨last, numbers⟩, hlast, h⟩ := exceptBind_eq_ok_iff.1 h
        obtain ⟨⟨statements, count⟩, hstats, h⟩ :=
          exceptBind_eq_ok_iff.1 h
        obtain ⟨p, hp, h⟩ := exceptBind_eq_ok_iff.1 h
        obtain ⟨q, hq, h⟩ := exceptBind_eq_ok_iff.1 h
        obtain ⟨n, hn, h⟩ := exceptBind_eq_ok_iff.1 h
        obtain ⟨c, hc, h⟩ := exceptBind_eq_ok_iff.1 h
        split at h
        · cases h
        · next hspan =>
            cases h
            have hrest : rest = first ++ ',' :: tail :=
              (cut_eq_ok_iff.1 hfirst).1
            have htail : tail = last ++ ' ' :: numbers :=
              (cut_eq_ok_iff.1 hlast).1
            have hnumbers : numbers = statements ++ ' ' :: count :=
              (cut_eq_ok_iff.1 hstats).1
            rw [hrest, htail, hnumbers] at hline
            exact ⟨hline, hne, hcolon, rfl, readPosition_eq_ok_iff.1 hp,
              readPosition_eq_ok_iff.1 hq, readNumber_eq_ok_iff.1 hn,
              readCount_eq_ok_iff.1 hc, Nat.le_of_not_lt hspan⟩
  · intro h
    obtain ⟨file, first, last, statements⟩ := b
    obtain ⟨hline, hfile, hcolon, rfl, hfirst, hlast, hstatements, hcount,
      hspan⟩ := h
    -- Each separator is looked for from where the last one was found, so
    -- it must not occur in what stands before it.
    have hcomma := hfirst.not_mem (c := ',') rfl (by decide) (by decide)
    have hspace := hlast.not_mem (c := ' ') rfl (by decide) (by decide)
    have hspace' := hstatements.1.not_mem (c := ' ') rfl (by decide)
    unfold readBlock
    refine exceptBind_eq_ok_iff.2
      ⟨_, cut_eq_ok_iff.2 ⟨hline, hcolon⟩, ?_⟩
    dsimp only
    rw [if_neg hfile]
    refine exceptBind_eq_ok_iff.2
      ⟨_, cut_eq_ok_iff.2 ⟨rfl, hcomma⟩, exceptBind_eq_ok_iff.2
        ⟨_, cut_eq_ok_iff.2 ⟨rfl, hspace⟩, exceptBind_eq_ok_iff.2
          ⟨_, cut_eq_ok_iff.2 ⟨rfl, hspace'⟩, ?_⟩⟩⟩
    refine exceptBind_eq_ok_iff.2
      ⟨_, readPosition_eq_ok_iff.2 hfirst, exceptBind_eq_ok_iff.2
        ⟨_, readPosition_eq_ok_iff.2 hlast, exceptBind_eq_ok_iff.2
          ⟨_, readNumber_eq_ok_iff.2 hstatements, exceptBind_eq_ok_iff.2
            ⟨_, readCount_eq_ok_iff.2 hcount, ?_⟩⟩⟩⟩
    exact if_neg (Nat.not_lt_of_le hspan)

end GoProfile

end Coverage
