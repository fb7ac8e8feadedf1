/-
Block lines of Go profiles, part by part. A block line has seven parts
with these separators between them:

    <file>:<line>.<column>,<line>.<column> <statements> <count>

`BlockParts.Spells` says what the parts are of a block: a name without
colon, six numerals in their ranges, and a region that ends before it
begins or touches no more than `2 ^ 20` lines. The reader takes just the
lines that have such parts (`isBlock_iff`).

A line has no other such parts, since no separator occurs in a numeral
and none but the first colon is looked for in the name
(`BlockParts.eq_of_line_eq`). For the same reason the separators behind
the name can be counted off: with one too many, one missing or one
doubled the line is no block, and neither is it with white space at its
end.
-/
import Coverage.Proofs.BlockGrammar
import Coverage.Proofs.Rejection

namespace Coverage

-- ============================================================ separators

/-- Texts that are cut at the same place are cut into the same parts. -/
theorem Text.append_cons_inj {sep : Char} {head head' rest rest' : List Char}
    (h : sep ∉ head) (h' : sep ∉ head')
    (heq : head ++ sep :: rest = head' ++ sep :: rest') :
    head = head' ∧ rest = rest' := by
  have hcut := splitFirst?_append h rest
  rw [heq, splitFirst?_append h' rest'] at hcut
  cases hcut
  exact ⟨rfl, rfl⟩

/-- A numeral ends in a digit. -/
theorem Text.Numeral.Denotes.isDigit_of_getLast? {text : List Char}
    {n : Nat} (h : Denotes text n) {c : Char}
    (hc : text.getLast? = some c) : c.isDigit = true := by
  have hlast : text.getLast? = (unsigned text).getLast? := by
    have hne := h.ne_nil
    unfold unsigned at hne ⊢
    split
    · next digits => exact List.getLast?_append_of_ne_nil ['+'] hne
    · rfl
  rw [hlast] at hc
  exact h.digits c (List.mem_of_getLast? hc)

namespace GoProfile

open Record

/-- The character separates parts of a block line. -/
def isSeparator (c : Char) : Bool :=
  c == ':' || c == '.' || c == ',' || c == ' '

/-- The separators behind the name of the file, in order. -/
def separators : List Char := ['.', ',', '.', ' ', ' ']

/-- Nothing separates within a numeral. -/
theorem filter_isSeparator_of_denotes {text : List Char} {n : Nat}
    (h : Text.Numeral.Denotes text n) : text.filter isSeparator = [] := by
  refine List.filter_eq_nil_iff.2 fun c hc hsep => ?_
  simp only [isSeparator, Bool.or_eq_true, beq_iff_eq] at hsep
  rcases hsep with ((rfl | rfl) | rfl) | rfl
  · exact h.not_mem rfl (by decide) hc
  · exact h.not_mem rfl (by decide) hc
  · exact h.not_mem rfl (by decide) hc
  · exact h.not_mem rfl (by decide) hc

-- ================================================================= parts

/-- The parts of a block line, as texts. -/
@[ext]
structure BlockParts where
  file : List Char
  firstLine : List Char
  firstColumn : List Char
  lastLine : List Char
  lastColumn : List Char
  statements : List Char
  count : List Char

namespace BlockParts

/-- The text behind the name of the file. -/
def numbers (p : BlockParts) : List Char :=
  p.firstLine ++ '.' :: (p.firstColumn ++ ',' :: (p.lastLine
    ++ '.' :: (p.lastColumn ++ ' ' :: (p.statements ++ ' ' :: p.count))))

/-- The line that has these parts. -/
def line (p : BlockParts) : List Char := p.file ++ ':' :: p.numbers

/-- The parts are those of a line for the block. -/
structure Spells (p : BlockParts) (b : Block) : Prop where
  file_ne_nil : p.file ≠ []
  no_colon : ':' ∉ p.file
  file : b.file = String.ofList p.file
  firstLine : IsNumber p.firstLine b.first.line
  firstColumn : IsNumber p.firstColumn b.first.column
  lastLine : IsNumber p.lastLine b.last.line
  lastColumn : IsNumber p.lastColumn b.last.column
  statements : IsNumber p.statements b.statements
  count : IsCount p.count b.count
  span : b.last.line < b.first.line
    ∨ b.last.line - b.first.line + 1 ≤ 1 <<< 20

end BlockParts

/-- The bound on the lines of a block does not concern one that ends
before it begins. -/
theorem lineCount_region_le_iff (b : Block) :
    b.region.lineCount ≤ Region.maxLines
      ↔ b.last.line < b.first.line
        ∨ b.last.line - b.first.line + 1 ≤ 1 <<< 20 := by
  show b.last.line + 1 - b.first.line ≤ 1 <<< 20 ↔ _
  omega

/-- A line is a block if it has the parts of one. -/
theorem isBlock_iff {line : List Char} {b : Block} :
    IsBlock line b ↔ ∃ p : BlockParts, p.line = line ∧ p.Spells b := by
  constructor
  · rintro ⟨hline, hfile, hcolon, hname, ⟨hfirst, hfl, hfc⟩,
      ⟨hlast, hll, hlc⟩, hstatements, hcount, hspan⟩
    refine ⟨⟨_, _, _, _, _, _, _⟩, ?_, hfile, hcolon, hname, hfl, hfc, hll,
      hlc, hstatements, hcount, (lineCount_region_le_iff b).1 hspan⟩
    rw [hline, hfirst, hlast]
    simp only [BlockParts.line, BlockParts.numbers, List.append_assoc,
      List.cons_append]
  · rintro ⟨p, rfl, h⟩
    refine ⟨?_, h.file_ne_nil, h.no_colon, h.file,
      ⟨rfl, h.firstLine, h.firstColumn⟩, ⟨rfl, h.lastLine, h.lastColumn⟩,
      h.statements, h.count, (lineCount_region_le_iff b).2 h.span⟩
    simp only [BlockParts.line, BlockParts.numbers, List.append_assoc,
      List.cons_append]

namespace BlockParts

variable {p q : BlockParts} {b c : Block}

/-- A line has the parts of a block in one way only. -/
theorem eq_of_line_eq (hp : p.Spells b) (hq : q.Spells c)
    (h : p.line = q.line) : p = q := by
  have hclean : ∀ {text : List Char} {n : Nat} {sep : Char},
      IsNumber text n → sep.isDigit = false → sep ≠ '+' → sep ∉ text :=
    fun hn => hn.1.not_mem
  obtain ⟨hfile, h⟩ := Text.append_cons_inj hp.no_colon hq.no_colon h
  obtain ⟨hfl, h⟩ := Text.append_cons_inj
    (hclean hp.firstLine rfl (by decide))
    (hclean hq.firstLine rfl (by decide)) h
  obtain ⟨hfc, h⟩ := Text.append_cons_inj
    (hclean hp.firstColumn rfl (by decide))
    (hclean hq.firstColumn rfl (by decide)) h
  obtain ⟨hll, h⟩ := Text.append_cons_inj
    (hclean hp.lastLine rfl (by decide))
    (hclean hq.lastLine rfl (by decide)) h
  obtain ⟨hlc, h⟩ := Text.append_cons_inj
    (hclean hp.lastColumn rfl (by decide))
    (hclean hq.lastColumn rfl (by decide)) h
  obtain ⟨hstatements, hcount⟩ := Text.append_cons_inj
    (hclean hp.statements rfl (by decide))
    (hclean hq.statements rfl (by decide)) h
  exact BlockParts.ext hfile hfl hfc hll hlc hstatements hcount

/-- The line of the parts of a block is read as the block. -/
theorem Spells.readBlock_line (h : p.Spells b) :
    readBlock p.line = .ok b :=
  readBlock_eq_ok_iff.2 (isBlock_iff.2 ⟨p, rfl, h⟩)

/-- The separators behind the name are those of the form. -/
theorem Spells.filter_numbers (h : p.Spells b) :
    p.numbers.filter isSeparator = separators := by
  have hnone : ∀ {text : List Char} {n : Nat},
      IsNumber text n → text.filter isSeparator = [] :=
    fun hn => filter_isSeparator_of_denotes hn.1
  have hpoint : isSeparator '.' = true := rfl
  have hcomma : isSeparator ',' = true := rfl
  have hspace : isSeparator ' ' = true := rfl
  simp only [numbers, List.filter_append, List.filter_cons, hpoint, hcomma,
    hspace, if_true, hnone h.firstLine, hnone h.firstColumn,
    hnone h.lastLine, hnone h.lastColumn, hnone h.statements,
    filter_isSeparator_of_denotes h.count, List.nil_append, separators]

/-- The last character of the line is a digit. -/
theorem Spells.isDigit_of_getLast? (h : p.Spells b) {x : Char}
    (hx : p.line.getLast? = some x) : x.isDigit = true := by
  have hne : p.count ≠ [] := by
    intro hnil
    have hdigits := h.count.ne_nil
    rw [hnil] at hdigits
    exact hdigits rfl
  have hline : ∃ before, p.line = before ++ p.count :=
    ⟨p.file ++ ':' :: (p.firstLine ++ '.' :: (p.firstColumn
      ++ ',' :: (p.lastLine ++ '.' :: (p.lastColumn
        ++ ' ' :: (p.statements ++ [' ']))))), by
      simp only [line, numbers, List.append_assoc, List.cons_append,
        List.nil_append]⟩
  obtain ⟨before, hline⟩ := hline
  rw [hline, List.getLast?_append_of_ne_nil _ hne] at hx
  exact h.count.isDigit_of_getLast? hx

end BlockParts

-- =============================================================== writing

/-- The block can be written: its file has a name without colon, its
numbers are in their range, and it does not touch too many lines. -/
structure Block.Valid (b : Block) : Prop where
  file_ne_empty : b.file.toList ≠ []
  no_colon : ':' ∉ b.file.toList
  firstLine : b.first.line < 1 <<< 32
  firstColumn : b.first.column < 1 <<< 32
  lastLine : b.last.line < 1 <<< 32
  lastColumn : b.last.column < 1 <<< 32
  statements : b.statements < 1 <<< 32
  span : b.last.line < b.first.line
    ∨ b.last.line - b.first.line + 1 ≤ 1 <<< 20

/-- The parts of the block, with plain numerals. -/
def Block.parts (b : Block) : BlockParts :=
  ⟨b.file.toList, Text.numeral b.first.line, Text.numeral b.first.column,
    Text.numeral b.last.line, Text.numeral b.last.column,
    Text.numeral b.statements, Text.numeral b.count.toNat⟩

/-- The block line of the block. -/
def Block.text (b : Block) : List Char := b.parts.line

theorem Block.Valid.spells {b : Block} (h : b.Valid) :
    b.parts.Spells b := by
  have hnumber : ∀ {n : Nat}, n < 1 <<< 32 → IsNumber (Text.numeral n) n :=
    fun hn => readNumber_eq_ok_iff.1 (readNumber_numeral .block [] .line hn)
  exact ⟨h.file_ne_empty, h.no_colon, String.ofList_toList.symm,
    hnumber h.firstLine, hnumber h.firstColumn, hnumber h.lastLine,
    hnumber h.lastColumn, hnumber h.statements,
    readCount_eq_ok_iff.1 (readCount_numeral .block [] .hitCount b.count),
    h.span⟩

/-- What parts spell can be written. -/
theorem BlockParts.Spells.valid {p : BlockParts} {b : Block}
    (h : p.Spells b) : b.Valid := by
  have hfile : b.file.toList = p.file := by
    rw [h.file, String.toList_ofList]
  exact ⟨hfile ▸ h.file_ne_nil, hfile ▸ h.no_colon, h.firstLine.2,
    h.firstColumn.2, h.lastLine.2, h.lastColumn.2, h.statements.2, h.span⟩

-- =============================================================== refusal

/-- The line is refused, and blamed as a whole. -/
def Refused (line : List Char) : Prop :=
  ∃ defect, readBlock line = .error (.record .block line defect)

/-- A line without the parts of a block is refused. -/
theorem refused_of_not_spelt {line : List Char}
    (h : ∀ p b, p.line = line → ¬ BlockParts.Spells p b) :
    Refused line := by
  cases hread : readBlock line with
  | ok b =>
      obtain ⟨p, hline, hp⟩ := isBlock_iff.1 (readBlock_eq_ok_iff.1 hread)
      exact absurd hp (h p b hline)
  | error fault =>
      obtain ⟨defect, rfl⟩ := blames_readBlock line fault hread
      exact ⟨defect, hread⟩

theorem refused_of_no_colon {line : List Char} (h : ':' ∉ line) :
    Refused line := by
  refine refused_of_not_spelt fun p b hline _ => h ?_
  rw [← hline]
  exact List.mem_append_right p.file List.mem_cons_self

/-- Behind the name there have to be the right separators. -/
theorem refused_of_separators {file numbers : List Char}
    (hfile : ':' ∉ file) (h : numbers.filter isSeparator ≠ separators) :
    Refused (file ++ ':' :: numbers) := by
  refine refused_of_not_spelt fun p b hline hp => h ?_
  obtain ⟨-, hnumbers⟩ := Text.append_cons_inj hp.no_colon hfile hline
  rw [← hnumbers, hp.filter_numbers]

/-- White space at the end is refused. -/
theorem refused_of_blank_end (line : List Char) {x : Char}
    (hx : Text.isBlank x = true) : Refused (line ++ [x]) := by
  refine refused_of_not_spelt fun p b hline hp => ?_
  have hdigit : x.isDigit = true :=
    hp.isDigit_of_getLast? (hline ▸ List.getLast?_concat)
  rw [Text.isBlank_of_isDigit hdigit] at hx
  cases hx

-- ============================================================ all of it

/-- A line is read as a block just when it has the parts of the block. It
has them in one way only; a block that can be written is read back, and
only such blocks are read. Every other line is refused and blamed as a
whole, and so is every line without a colon, with other separators behind
the first colon than there should be, or with white space at its end. -/
theorem readBlock_exact :
    (∀ line b, readBlock line = .ok b
        ↔ ∃ p : BlockParts, p.line = line ∧ p.Spells b)
      ∧ (∀ (p q : BlockParts) b c, p.Spells b → q.Spells c →
        p.line = q.line → p = q ∧ b = c)
      ∧ (∀ b : Block, readBlock b.text = .ok b ↔ b.Valid)
      ∧ (∀ line fault, readBlock line = .error fault →
        ∃ defect, fault = .record .block line defect)
      ∧ (∀ line, ':' ∉ line → Refused line)
      ∧ (∀ file numbers, ':' ∉ file →
        numbers.filter isSeparator ≠ separators →
          Refused (file ++ ':' :: numbers))
      ∧ ∀ line x, Text.isBlank x = true → Refused (line ++ [x]) := by
  refine ⟨fun line b => readBlock_eq_ok_iff.trans isBlock_iff, ?_, ?_,
    blames_readBlock, fun _ => refused_of_no_colon,
    fun _ _ => refused_of_separators,
    fun line _ => refused_of_blank_end line⟩
  · intro p q b c hp hq hline
    refine ⟨BlockParts.eq_of_line_eq hp hq hline, ?_⟩
    have hread := hp.readBlock_line
    rw [hline, hq.readBlock_line] at hread
    exact (Except.ok.inj hread).symm
  · intro b
    constructor
    · intro h
      obtain ⟨p, -, hp⟩ := isBlock_iff.1 (readBlock_eq_ok_iff.1 h)
      exact hp.valid
    · exact fun h => h.spells.readBlock_line

/-- The parts of a line with separators in the name of the file, a plus
sign and a leading zero. -/
def signedParts : BlockParts :=
  ⟨"a, b.go".toList, "+1".toList, "2".toList, "3".toList, "04".toList,
    "5".toList, "6".toList⟩

/-- The block that they are. -/
def signedBlock : Block := ⟨"a, b.go", ⟨1, 2⟩, ⟨3, 4⟩, 5, .saturate 6⟩

/-- The line has its parts in one way, its block is read back when it is
written plainly, and a doubled space, a missing point, or a tabulator at
the end spoils a line. -/
theorem readBlock_exact_signed :
    signedParts.Spells signedBlock
      ∧ readBlock "a, b.go:+1.2,3.04 5 6".toList = .ok signedBlock
      ∧ (∀ q c, BlockParts.Spells q c → q.line = signedParts.line →
        q = signedParts)
      ∧ readBlock "a, b.go:1.2,3.4 5 6".toList = .ok signedBlock
      ∧ Refused "a.go".toList
      ∧ Refused "a.go:1.2,3.4 5  6".toList
      ∧ Refused "a.go:12,3.4 5 6".toList
      ∧ Refused "a.go:1.2,3.4 5 6\t".toList := by
  have hnumber : ∀ {text : List Char} {n : Nat},
      readNumber .block [] .line text = .ok n → IsNumber text n :=
    readNumber_eq_ok_iff.1
  have hspells : signedParts.Spells signedBlock :=
    ⟨by decide, by decide, rfl, hnumber rfl, hnumber rfl, hnumber rfl,
      hnumber rfl, hnumber rfl,
      (@readCount_eq_ok_iff .block [] .hitCount _ _).1 rfl, by decide⟩
  obtain ⟨hread, hunique, hwritten, -, hcolon, hseparators, hblank⟩ :=
    readBlock_exact
  refine ⟨hspells, (hread _ _).2 ⟨signedParts, rfl, hspells⟩, ?_,
    (hwritten signedBlock).2 hspells.valid, hcolon _ (by decide),
    hseparators "a.go".toList "1.2,3.4 5  6".toList (by decide) (by decide),
    hseparators "a.go".toList "12,3.4 5 6".toList (by decide) (by decide),
    hblank "a.go:1.2,3.4 5 6".toList '\t' rfl⟩
  exact fun q c hq hline => (hunique q _ c _ hq hspells hline).1

end GoProfile

end Coverage
