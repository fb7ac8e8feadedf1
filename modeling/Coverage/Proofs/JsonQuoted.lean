/-
JSON texts between quotes. The grammar says which bytes are a text and
what its pieces are (`IsQuoted`); what the pieces say is their reading
(`Quoted.text`).

Any text can be written: a backslash before quotes and backslashes,
control characters by their numbers, and everything else as it is. What
is written is a text of its pieces (`isQuoted_bytesOf`), and these say
the text again (`scalar_piecesOf`).
-/
import Coverage.Json.Quoted
import Coverage.Proofs.Utf8

namespace Coverage.Json.Quoted

-- ============================================================= grammar

/-- The bytes are a piece of a text. -/
inductive IsPiece : List UInt8 → Piece → Prop
  | plain {b : UInt8} (hquote : b ≠ '"'.toUInt8)
      (hslash : b ≠ '\\'.toUInt8) (hcontrol : ¬ b < 0x20) :
      IsPiece [b] (.byte b)
  | escaped {b c : UInt8} (h : escaped? b = some c) :
      IsPiece ['\\'.toUInt8, b] (.byte c)
  | unit {b c d e : UInt8} {n : Nat} (h : hexUnit? [b, c, d, e] = some n) :
      IsPiece ['\\'.toUInt8, 'u'.toUInt8, b, c, d, e] (.unit n)

/-- The bytes are these pieces, one behind the other. -/
inductive ArePieces : List UInt8 → List Piece → Prop
  | nil : ArePieces [] []
  | cons {bytes rest : List UInt8} {piece : Piece} {pieces : List Piece}
      (h : IsPiece bytes piece) (hrest : ArePieces rest pieces) :
      ArePieces (bytes ++ rest) (piece :: pieces)

/-- The bytes are a text between its quotes. -/
inductive IsQuoted : List UInt8 → List Piece → Prop
  | mk {bytes : List UInt8} {pieces : List Piece}
      (h : ArePieces bytes pieces) :
      IsQuoted ('"'.toUInt8 :: (bytes ++ ['"'.toUInt8])) pieces

/-- Pieces may be put together. -/
theorem ArePieces.append {bytes rest : List UInt8}
    {pieces more : List Piece} (h : ArePieces bytes pieces)
    (hrest : ArePieces rest more) :
    ArePieces (bytes ++ rest) (pieces ++ more) := by
  induction h with
  | nil => exact hrest
  | cons hone _ ih =>
      rw [List.append_assoc]
      exact .cons hone ih

-- ============================================================= writing

/-- The hexadecimal digit of a number below sixteen. -/
def hexByte (n : Nat) : UInt8 :=
  if n < 10 then UInt8.ofNat (48 + n) else UInt8.ofNat (87 + n)

/-- The character has to be written by its number. -/
def isControl (c : Char) : Bool := c.toNat < 0x20

/-- The character has to stand behind a backslash. -/
def isEscaped (c : Char) : Bool := c == '"' || c == '\\'

/-- The bytes of a character in a text. -/
def charBytes (c : Char) : List UInt8 :=
  if isEscaped c then ['\\'.toUInt8, c.toUInt8]
  else if isControl c then
    ['\\', 'u', '0', '0'].map Char.toUInt8
      ++ [hexByte (c.toNat / 16), hexByte (c.toNat % 16)]
  else String.utf8EncodeChar c

/-- The pieces that these bytes are taken for. -/
def charPieces (c : Char) : List Piece :=
  if isEscaped c then [.byte c.toUInt8]
  else if isControl c then [.unit c.toNat]
  else (String.utf8EncodeChar c).map Piece.byte

/-- The bytes of a text, with its quotes. -/
def bytesOf (s : String) : List UInt8 :=
  '"'.toUInt8 :: (s.toList.flatMap charBytes ++ ['"'.toUInt8])

/-- The pieces that these bytes are. -/
def piecesOf (s : String) : List Piece := s.toList.flatMap charPieces

/-- Bytes that need no escape are pieces each. -/
theorem arePieces_plain {bytes : List UInt8}
    (h : ∀ b ∈ bytes, b ≠ '"'.toUInt8 ∧ b ≠ '\\'.toUInt8 ∧ ¬ b < 0x20) :
    ArePieces bytes (bytes.map Piece.byte) := by
  induction bytes with
  | nil => exact .nil
  | cons b rest ih =>
      obtain ⟨⟨hquote, hslash, hcontrol⟩, hrest⟩ := List.forall_mem_cons.1 h
      exact .cons (.plain hquote hslash hcontrol) (ih hrest)

/-- The bytes of a character are its pieces. -/
theorem arePieces_charBytes (c : Char) :
    ArePieces (charBytes c) (charPieces c) := by
  unfold charBytes charPieces
  by_cases hescaped : isEscaped c = true
  · rw [if_pos hescaped, if_pos hescaped]
    rw [isEscaped, Bool.or_eq_true, beq_iff_eq, beq_iff_eq] at hescaped
    rcases hescaped with rfl | rfl
    · exact .cons (.escaped rfl) .nil
    · exact .cons (.escaped rfl) .nil
  · rw [if_neg hescaped, if_neg hescaped]
    by_cases hcontrol : isControl c = true
    · rw [if_pos hcontrol, if_pos hcontrol]
      have hunit : ∀ n < 0x20, hexUnit? [0x30, 0x30, hexByte (n / 16),
          hexByte (n % 16)] = some n := by
        decide
      have hc := hunit c.toNat (of_decide_eq_true hcontrol)
      have hpiece : IsPiece (['\\', 'u', '0', '0'].map Char.toUInt8
          ++ [hexByte (c.toNat / 16), hexByte (c.toNat % 16)])
            (.unit c.toNat) := .unit hc
      rw [← List.append_nil (_ ++ _)]
      exact .cons hpiece .nil
    · rw [if_neg hcontrol, if_neg hcontrol]
      rw [isEscaped, Bool.or_eq_true, beq_iff_eq, beq_iff_eq] at hescaped
      have hlow : 0x20 ≤ c.toNat := by simpa [isControl] using hcontrol
      refine arePieces_plain fun b hb => ⟨?_, ?_, ?_⟩
      · rintro rfl
        exact Text.Utf8.not_mem_encodeChar (d := '"') (by decide)
          (fun h => hescaped (Or.inl h)) hb
      · rintro rfl
        exact Text.Utf8.not_mem_encodeChar (d := '\\') (by decide)
          (fun h => hescaped (Or.inr h)) hb
      · rw [UInt8.lt_iff_toNat_lt]
        have hbyte := Text.Utf8.toNat_of_mem_encodeChar hb
        change ¬ b.toNat < 32
        omega

/-- A text that is written is one between quotes. -/
theorem isQuoted_bytesOf (s : String) :
    IsQuoted (bytesOf s) (piecesOf s) := by
  unfold bytesOf piecesOf
  refine .mk ?_
  induction s.toList with
  | nil => exact .nil
  | cons c rest ih => exact (arePieces_charBytes c).append ih

/-- The pieces of a character are read as its bytes. -/
theorem bytesOnto_charPieces (c : Char) (found : List UInt8)
    (rest : List Piece) :
    bytesOnto found none (charPieces c ++ rest)
      = bytesOnto ((String.utf8EncodeChar c).reverse ++ found) none rest := by
  have hplain : ∀ (bytes found : List UInt8),
      bytesOnto found none (bytes.map Piece.byte ++ rest)
        = bytesOnto (bytes.reverse ++ found) none rest := by
    intro bytes
    induction bytes with
    | nil => exact fun found => rfl
    | cons b bytes ih =>
        intro found
        rw [List.map_cons, List.cons_append, bytesOnto, ih,
          List.reverse_cons, List.append_assoc, List.singleton_append]
  unfold charPieces
  split
  · next hescaped =>
      rw [isEscaped, Bool.or_eq_true, beq_iff_eq, beq_iff_eq] at hescaped
      rcases hescaped with rfl | rfl
      · exact hplain ['"'.toUInt8] found
      · exact hplain ['\\'.toUInt8] found
  · split
    · next hcontrol =>
        have hlt : c.toNat < 0x20 := of_decide_eq_true hcontrol
        -- a control character is no half of a pair
        have htrailing : isTrailing c.toNat = false := by
          unfold isTrailing
          simp only [Bool.and_eq_false_iff, decide_eq_false_iff_not]
          omega
        have hleading : isLeading c.toNat = false := by
          unfold isLeading
          simp only [Bool.and_eq_false_iff, decide_eq_false_iff_not]
          omega
        rw [List.singleton_append, bytesOnto.eq_def]
        dsimp only
        rw [htrailing, if_neg Bool.false_ne_true, hleading,
          if_neg Bool.false_ne_true, List.reverseAux_eq, Char.ofNat_toNat]
    · exact hplain _ found

/-- The pieces of characters are read as these. -/
theorem text_charPieces (cs : List Char) :
    text (cs.flatMap charPieces) none = .ok (String.ofList cs) := by
  have hbytes : ∀ (cs : List Char) (found : List UInt8),
      bytesOnto found none (cs.flatMap charPieces)
        = .ok (found.reverse ++ Text.Utf8.encode cs) := by
    intro cs
    induction cs with
    | nil =>
        intro found
        rw [Text.Utf8.encode, List.flatMap_nil, List.flatMap_nil,
          List.append_nil]
        rfl
    | cons c rest ih =>
        intro found
        rw [List.flatMap_cons, bytesOnto_charPieces, ih,
          List.reverse_append, List.reverse_reverse, List.append_assoc,
          Text.Utf8.encode, Text.Utf8.encode, List.flatMap_cons]
  rw [text, hbytes cs [], List.reverse_nil, List.nil_append]
  dsimp only [bind, Except.bind]
  rw [Text.Utf8.decode?_encode]
  rfl

/-- The pieces of a text are read as the text, and nothing is wrong with
them. -/
theorem scalar_piecesOf (s : String) :
    scalar (piecesOf s) none = ⟨.ok s, none⟩ := by
  rw [scalar, piecesOf, text_charPieces, String.ofList_toList]

end Coverage.Json.Quoted
