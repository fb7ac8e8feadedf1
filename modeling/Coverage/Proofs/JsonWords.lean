/-
The words of JSON, as the lexer takes them. Bytes that are a word by the
grammar, a number (`Number.IsNumeral`) or a text between quotes
(`Quoted.IsQuoted`), are taken for that word.

# How it is proved

A word that closes itself, as a text does, leaves the lexer between
words (`Lexes`). A number or a truth value only ends where something
follows that cannot belong to it: a blank, a comma, a bracket, or the end
of the stream (`Settles`). Texts are read piece by piece, so there is an
induction over what one piece does to the lexer.
-/
import Mathlib.Data.List.TakeWhile
import Coverage.Proofs.JsonGrammar

namespace Coverage.Json

-- ============================================================= lexing

/-- The lexer takes the bytes for these words, and is between words then
as it was before. -/
def Lexes (bytes : List UInt8) (ts : List Token) : Prop :=
  ∀ found, bytes.foldl Lexer.step ⟨found, .none⟩
    = ⟨ts.reverse ++ found, .none⟩

namespace Lexes

variable {bytes bytes' : List UInt8} {ts ts' : List Token}

/-- Words may follow one another. -/
theorem append (h : Lexes bytes ts) (h' : Lexes bytes' ts') :
    Lexes (bytes ++ bytes') (ts ++ ts') := by
  intro found
  rw [List.foldl_append, h, h', List.reverse_append, List.append_assoc]

/-- Marks are words of their own. -/
theorem comma : Lexes [','.toUInt8] [.comma] := fun _ => rfl

theorem colon : Lexes [':'.toUInt8] [.colon] := fun _ => rfl

theorem openArray : Lexes ['['.toUInt8] [.openArray] := fun _ => rfl

theorem closeArray : Lexes [']'.toUInt8] [.closeArray] := fun _ => rfl

theorem openObject : Lexes ['\x7b'.toUInt8] [.openObject] := fun _ => rfl

theorem closeObject : Lexes ['\x7d'.toUInt8] [.closeObject] := fun _ => rfl

end Lexes

/-- The words found so far are these, if what comes next does not belong
to a number. -/
structure Lexer.Settled (l : Lexer) (found : List Token) : Prop where
  step : ∀ b, Number.isNumberByte b = false → l.step b = Lexer.begin found b
  finish : l.finish none = found.reverse

/-- The lexer takes the bytes for these words, if what comes next does
not belong to a number. -/
def Settles (bytes : List UInt8) (ts : List Token) : Prop :=
  ∀ found, (bytes.foldl Lexer.step ⟨found, .none⟩).Settled
    (ts.reverse ++ found)

/-- Words that close themselves are settled. -/
theorem Lexes.settles {bytes : List UInt8} {ts : List Token}
    (h : Lexes bytes ts) : Settles bytes ts := by
  intro found
  rw [h found]
  exact ⟨fun _ _ => rfl, rfl⟩

/-- The last of several words may wait for what follows. -/
theorem Lexes.append_settles {bytes bytes' : List UInt8}
    {ts ts' : List Token} (h : Lexes bytes ts) (h' : Settles bytes' ts') :
    Settles (bytes ++ bytes') (ts ++ ts') := by
  intro found
  rw [List.foldl_append, h found, List.reverse_append, List.append_assoc]
  exact h' _

namespace Settles

variable {bytes : List UInt8} {ts : List Token}

/-- Behind words a byte is taken as a word of its own. -/
theorem append (h : Settles bytes ts) {d : UInt8} {t : Token}
    (hd : Number.isNumberByte d = false) (ht : Lexes [d] [t]) :
    Lexes (bytes ++ [d]) (ts ++ [t]) := by
  intro found
  have hone : Lexer.begin (ts.reverse ++ found) d
      = ⟨t :: (ts.reverse ++ found), .none⟩ := ht _
  rw [List.foldl_append, List.foldl_cons, List.foldl_nil,
    (h found).step d hd, hone]
  simp

/-- Words may follow one another behind a comma. -/
theorem separated {bytes' : List UInt8} {ts' : List Token}
    (h : Settles bytes ts) (h' : Settles bytes' ts') :
    Settles (bytes ++ ','.toUInt8 :: bytes') (ts ++ .comma :: ts') := by
  have hcomma := h.append (d := ','.toUInt8) rfl Lexes.comma
  have hall := hcomma.append_settles h'
  rwa [← List.append_cons, ← List.append_cons] at hall

end Settles

/-- The bytes of a null are that word. -/
theorem settles_null : Settles (Lexer.spell "null") [.null] :=
  fun _ => ⟨fun _ _ => rfl, rfl⟩

/-- The bytes of a truth value are that word. -/
theorem settles_bool (b : Bool) : Settles (boolBytes b) [.bool b] := by
  intro found
  cases b with
  | true => exact ⟨fun _ _ => rfl, rfl⟩
  | false => exact ⟨fun _ _ => rfl, rfl⟩

-- ============================================================== blanks

section Words

variable {bytes blanks : List UInt8} {ts : List Token}

/-- A blank ends a number, and is no word itself. -/
theorem step_blank {b : UInt8} (h : Lexer.isBlank b = true)
    (found : List Token) :
    Number.isNumberByte b = false
      ∧ Lexer.begin found b = ⟨found, .none⟩ := by
  have hb : ' '.toUInt8 = b ∨ '\n'.toUInt8 = b ∨ '\r'.toUInt8 = b
      ∨ '\t'.toUInt8 = b := by
    simpa [Lexer.isBlank] using h
  rcases hb with rfl | rfl | rfl | rfl
  · exact ⟨rfl, rfl⟩
  · exact ⟨rfl, rfl⟩
  · exact ⟨rfl, rfl⟩
  · exact ⟨rfl, rfl⟩

/-- Blanks are no words. -/
theorem lexes_blank (h : AreBlank blanks) : Lexes blanks [] := by
  intro found
  induction blanks with
  | nil => rfl
  | cons b blanks ih =>
      obtain ⟨hb, hrest⟩ := List.forall_mem_cons.1 h
      have hstep : Lexer.step ⟨found, .none⟩ b = ⟨found, .none⟩ :=
        (step_blank hb found).2
      rw [List.foldl_cons, hstep]
      exact ih hrest

/-- Blanks behind words change nothing. -/
theorem Settles.append_blank (h : Settles bytes ts)
    (hblanks : AreBlank blanks) : Settles (bytes ++ blanks) ts := by
  cases blanks with
  | nil => rwa [List.append_nil]
  | cons b blanks =>
      obtain ⟨hb, hrest⟩ := List.forall_mem_cons.1 hblanks
      intro found
      obtain ⟨hnumber, hbegin⟩ := step_blank hb (ts.reverse ++ found)
      rw [List.foldl_append, List.foldl_cons, (h found).step b hnumber,
        hbegin]
      exact (lexes_blank hrest).settles _

end Words

-- ============================================================= numbers

namespace Number

/-- What the byte of a digit is to the lexer. -/
structure IsDigitWord (b : UInt8) : Prop where
  number : isNumberByte b = true
  minus : (b == '-'.toUInt8) = false
  plus : (b == '+'.toUInt8) = false
  begins : ∀ found, Lexer.begin found b = ⟨found, .number [b]⟩

/-- All digits are alike to the lexer. -/
theorem isDigitWord_of_isDigit {b : UInt8} (h : isDigit b = true) :
    IsDigitWord b := by
  have hrange : '0'.toUInt8.toNat ≤ b.toNat
      ∧ b.toNat ≤ '9'.toUInt8.toNat := by
    simpa [isDigit, UInt8.le_iff_toNat_le] using h
  obtain ⟨hlow, hhigh⟩ := hrange
  change 48 ≤ b.toNat at hlow
  change b.toNat ≤ 57 at hhigh
  rw [← UInt8.ofNat_toNat (x := b)]
  generalize b.toNat = n at hlow hhigh
  interval_cases n <;> exact ⟨rfl, rfl, rfl, fun _ => rfl⟩

/-- Digits end before these bytes. -/
def EndsDigits (rest : List UInt8) : Prop :=
  ∀ b ∈ rest.head?, isDigit b = false

/-- Digits are taken up to the byte that ends them. -/
theorem takeDigits_append {bytes rest : List UInt8} {digits : List Nat}
    (h : AreDigits bytes digits) (hrest : EndsDigits rest) :
    takeDigits (bytes ++ rest) = .ok (digits, rest) := by
  obtain ⟨hne, hdigit, rfl⟩ := h
  have hstop : rest.takeWhile isDigit = []
      ∧ rest.dropWhile isDigit = rest := by
    cases rest with
    | nil => simp
    | cons b rest =>
        have hb := hrest b rfl
        simp [hb]
  have htake : (bytes ++ rest).takeWhile isDigit = bytes := by
    rw [List.takeWhile_append_of_pos hdigit, hstop.1, List.append_nil]
  have hdrop : (bytes ++ rest).dropWhile isDigit = rest := by
    rw [List.dropWhile_append_of_pos hdigit, hstop.2]
  unfold takeDigits
  rw [htake, hdrop]
  simp [hne]

section Parts

variable {bytes rest : List UInt8}

/-- Digits begin with a digit. -/
theorem AreDigits.exists_cons {digits : List Nat}
    (h : AreDigits bytes digits) :
    ∃ b more, bytes = b :: more ∧ IsDigitWord b := by
  obtain ⟨b, more, rfl⟩ := List.exists_cons_of_ne_nil h.ne_nil
  exact ⟨b, more, rfl, isDigitWord_of_isDigit (h.isDigit b (by simp))⟩

/-- A sign is taken from before digits, which have none themselves. -/
theorem takeSign_append {negative : Bool} {digits : List Nat}
    (hsign : IsSign bytes negative) (h : AreDigits rest digits) :
    takeSign (bytes ++ rest) = (negative, rest) := by
  cases hsign with
  | none =>
      obtain ⟨b, more, rfl, hb⟩ := h.exists_cons
      simp [takeSign, takeMinus, hb.plus, hb.minus]
  | plus => rfl
  | minus => rfl

/-- An exponent is taken as it is written. -/
theorem takeExponent_eq {e : Option Exponent} (h : IsExponent bytes e) :
    takeExponent bytes = .ok (e, []) := by
  cases h with
  | none => rfl
  | @some mark sign bytes e hmark hsign h =>
      have hdigits : takeDigits (bytes ++ []) = .ok (e.digits, []) :=
        takeDigits_append h nofun
      rw [List.append_nil] at hdigits
      have hmarked : (mark == 'e'.toUInt8 || mark == 'E'.toUInt8) = true := by
        simpa using hmark
      rw [takeExponent, if_pos hmarked, takeSign_append hsign h]
      dsimp only
      rw [hdigits]
      rfl

/-- An exponent begins with its mark. -/
theorem IsExponent.head_eq {e : Option Exponent} (h : IsExponent bytes e) :
    ∀ b ∈ bytes.head?, b = 'e'.toUInt8 ∨ b = 'E'.toUInt8 := by
  cases h with
  | none => simp
  | some hmark _ _ => simpa using hmark

/-- The mark of an exponent ends digits. -/
theorem IsExponent.endsDigits {e : Option Exponent}
    (h : IsExponent bytes e) : EndsDigits bytes := by
  intro b hb
  rcases h.head_eq b hb with rfl | rfl
  · rfl
  · rfl

/-- So does the point of a fraction. -/
theorem IsFraction.endsDigits {digits : List Nat} {e : Option Exponent}
    (hfraction : IsFraction bytes digits) (hexponent : IsExponent rest e) :
    EndsDigits (bytes ++ rest) := by
  cases hfraction with
  | none => exact hexponent.endsDigits
  | some h =>
      intro b hb
      cases hb
      rfl

/-- A fraction is taken as it is written, up to the exponent. -/
theorem takeFraction_append {digits : List Nat} {e : Option Exponent}
    (hfraction : IsFraction bytes digits) (hexponent : IsExponent rest e) :
    takeFraction (bytes ++ rest) = .ok (digits, rest) := by
  cases hfraction with
  | none =>
      cases rest with
      | nil => rfl
      | cons b rest =>
          have hpoint : (b == '.'.toUInt8) = false := by
            rcases hexponent.head_eq b rfl with rfl | rfl
            · rfl
            · rfl
          simp [takeFraction, hpoint]
  | some h => exact takeDigits_append h hexponent.endsDigits

end Parts

/-- A number is taken as it is written. -/
theorem take_eq {bytes : List UInt8} {n : Numeral} (h : IsNumeral bytes n) :
    take bytes = .ok (n, []) := by
  cases h with
  | @mk n whole fraction exponent hwhole hzero hfraction hexponent =>
      -- Each part is taken in turn, and the rest begins with a byte that
      -- ends it.
      have hminus : takeMinus ((if n.negative then ['-'.toUInt8] else [])
          ++ (whole ++ (fraction ++ exponent)))
            = (n.negative, whole ++ (fraction ++ exponent)) := by
        cases n.negative with
        | true => rfl
        | false =>
            obtain ⟨b, more, rfl, hb⟩ := hwhole.exists_cons
            simp [takeMinus, hb.minus]
      have hdigits := takeDigits_append hwhole
        (hfraction.endsDigits hexponent)
      have hfound : takeWhole (whole ++ (fraction ++ exponent))
          = .ok (n.whole, fraction ++ exponent) := by
        unfold takeWhole
        rw [hdigits]
        dsimp only [bind, Except.bind]
        split
        · next d more hfound =>
            exact absurd (Prod.mk.inj hfound).1 (hzero _ _)
        · rfl
      unfold take
      rw [hminus]
      dsimp only
      rw [hfound]
      dsimp only [bind, Except.bind]
      rw [takeFraction_append hfraction hexponent]
      dsimp only
      rw [takeExponent_eq hexponent]
      rfl

section Bytes

variable {bytes : List UInt8} {n : Numeral}

/-- Digits belong to a number. -/
theorem AreDigits.isNumberByte {digits : List Nat}
    (h : AreDigits bytes digits) : ∀ b ∈ bytes, isNumberByte b = true :=
  fun b hb => (isDigitWord_of_isDigit (h.isDigit b hb)).number

/-- A sign belongs to a number. -/
theorem IsSign.isNumberByte {negative : Bool} (h : IsSign bytes negative) :
    ∀ b ∈ bytes, isNumberByte b = true := by
  cases h with
  | none => simp
  | plus => simp [Number.isNumberByte]
  | minus => simp [Number.isNumberByte]

/-- An exponent belongs to a number. -/
theorem IsExponent.isNumberByte {e : Option Exponent}
    (h : IsExponent bytes e) : ∀ b ∈ bytes, isNumberByte b = true := by
  cases h with
  | none => simp
  | some hmark hsign h =>
      have hall := List.forall_mem_append.2
        ⟨hsign.isNumberByte, h.isNumberByte⟩
      rcases hmark with rfl | rfl
      · exact List.forall_mem_cons.2 ⟨rfl, hall⟩
      · exact List.forall_mem_cons.2 ⟨rfl, hall⟩

/-- A fraction belongs to a number. -/
theorem IsFraction.isNumberByte {digits : List Nat}
    (h : IsFraction bytes digits) : ∀ b ∈ bytes, isNumberByte b = true := by
  cases h with
  | none => simp
  | some h => exact List.forall_mem_cons.2 ⟨rfl, h.isNumberByte⟩

/-- A number begins with a byte that begins numbers, and goes on with
bytes that can occur in them. -/
theorem IsNumeral.exists_cons (h : IsNumeral bytes n) :
    ∃ b more, bytes = b :: more
      ∧ (∀ found, Lexer.begin found b = ⟨found, .number [b]⟩)
      ∧ ∀ c ∈ more, isNumberByte c = true := by
  cases h with
  | @mk n whole fraction exponent hwhole hzero hfraction hexponent =>
      have htail : ∀ c ∈ fraction ++ exponent, isNumberByte c = true :=
        List.forall_mem_append.2
          ⟨hfraction.isNumberByte, hexponent.isNumberByte⟩
      have hall : ∀ c ∈ whole ++ (fraction ++ exponent),
          isNumberByte c = true :=
        List.forall_mem_append.2 ⟨hwhole.isNumberByte, htail⟩
      cases n.negative with
      | true => exact ⟨_, _, rfl, fun _ => rfl, hall⟩
      | false =>
          obtain ⟨b, more, rfl, hb⟩ := hwhole.exists_cons
          exact ⟨b, _, rfl, hb.begins, (List.forall_mem_cons.1 hall).2⟩

/-- The lexer gathers the bytes of a number. -/
theorem foldl_step_numeral (h : IsNumeral bytes n) (found : List Token) :
    bytes.foldl Lexer.step ⟨found, .none⟩
      = ⟨found, .number bytes.reverse⟩ := by
  have hmore : ∀ (more seen : List UInt8),
      (∀ c ∈ more, Number.isNumberByte c = true) →
        more.foldl Lexer.step ⟨found, .number seen⟩
          = ⟨found, .number (more.reverse ++ seen)⟩ := by
    intro more
    induction more with
    | nil => simp
    | cons c more ih =>
        intro seen hall
        obtain ⟨hc, hrest⟩ := List.forall_mem_cons.1 hall
        have hstep : Lexer.step ⟨found, .number seen⟩ c
            = ⟨found, .number (c :: seen)⟩ := if_pos hc
        rw [List.foldl_cons, hstep, ih _ hrest]
        simp
  obtain ⟨b, more, rfl, hbegins, hall⟩ := h.exists_cons
  have hbegin : Lexer.step ⟨found, .none⟩ b = ⟨found, .number [b]⟩ :=
    hbegins found
  rw [List.foldl_cons, hbegin, hmore more _ hall, List.reverse_cons]

/-- A number ends before other bytes, and where the stream does. -/
theorem endNumber_eq (h : IsNumeral bytes n) (found : List Token)
    {follow : Follow}
    (hfollow : follow = .byte ∨ follow = .streamEnd none) :
    Lexer.endNumber found bytes.reverse follow
      = Lexer.push found (.number n.scalar) := by
  have hscan : scan bytes follow = (n.scalar, []) := by
    unfold scan
    rw [take_eq h]
    rcases hfollow with rfl | rfl
    · rfl
    · rfl
  rw [Lexer.endNumber, List.reverse_reverse, hscan]
  rfl

end Bytes

end Number

/-- A number is taken as it is written. -/
theorem settles_number {bytes : List UInt8} {n : Number.Numeral}
    (h : Number.IsNumeral bytes n) : Settles bytes [.number n.scalar] := by
  intro found
  rw [Number.foldl_step_numeral h]
  constructor
  · intro b hb
    rw [Lexer.step]
    dsimp only
    rw [hb, if_neg Bool.false_ne_true,
      Number.endNumber_eq h found (Or.inl rfl)]
    rfl
  · rw [Lexer.finish]
    dsimp only
    rw [Number.endNumber_eq h found (Or.inr rfl)]
    rfl

-- =============================================================== texts

namespace Quoted

/-- The lexer takes the bytes of a piece for it. -/
theorem foldl_step_piece {bytes : List UInt8} {piece : Piece}
    (h : IsPiece bytes piece) (found : List Token) (pieces : List Piece) :
    bytes.foldl Lexer.step ⟨found, .string pieces⟩
      = ⟨found, .string (piece :: pieces)⟩ := by
  cases h with
  | @plain b hquote hslash hcontrol =>
      show Lexer.step ⟨found, .string pieces⟩ b = _
      rw [Lexer.step]
      dsimp only
      rw [if_neg (by simpa using hquote), if_neg (by simpa using hslash),
        if_neg hcontrol]
  | @escaped b c h =>
      have hunit : (b == 'u'.toUInt8) = false := by
        by_contra hb
        rw [Bool.not_eq_false, beq_iff_eq] at hb
        rw [hb] at h
        cases h
      show Lexer.step ⟨found, .escape pieces⟩ b = _
      rw [Lexer.step]
      dsimp only
      rw [hunit, if_neg Bool.false_ne_true, h]
  | @unit b c d e n h =>
      have hlast : ¬ [d, c, b].length < 3 := Nat.lt_irrefl 3
      have hread : hexUnit? [e, d, c, b].reverse = some n := h
      show Lexer.step ⟨found, .unit pieces [d, c, b]⟩ e = _
      rw [Lexer.step]
      dsimp only
      rw [if_neg hlast, hread]

/-- The lexer takes bytes for their pieces, one behind the other. -/
theorem foldl_step_pieces {bytes : List UInt8} {pieces : List Piece}
    (h : ArePieces bytes pieces) (found : List Token) (seen : List Piece) :
    bytes.foldl Lexer.step ⟨found, .string seen⟩
      = ⟨found, .string (pieces.reverse ++ seen)⟩ := by
  induction h generalizing seen with
  | nil => rfl
  | cons hone _ ih =>
      rw [List.foldl_append, foldl_step_piece hone, ih]
      simp

end Quoted

/-- A text between quotes is taken for its pieces. -/
theorem lexes_quoted {bytes : List UInt8} {pieces : List Quoted.Piece}
    (h : Quoted.IsQuoted bytes pieces) :
    Lexes bytes [.string (Quoted.scalar pieces none)] := by
  obtain ⟨hpieces⟩ := h
  intro found
  show List.foldl Lexer.step ⟨found, .string []⟩ (_ ++ ['"'.toUInt8]) = _
  rw [List.foldl_append, Quoted.foldl_step_pieces hpieces, List.append_nil]
  show Lexer.push found (.string (Quoted.scalar pieces.reverse.reverse none))
    = _
  rw [List.reverse_reverse]
  rfl

end Coverage.Json
