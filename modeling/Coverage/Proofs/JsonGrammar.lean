/-
JSON texts. The grammar of JSON says which bytes are a text and which
value they are a text of (`IsText`). Blanks may stand around any word, a
number may have a fraction and an exponent, a character may be escaped
where it need not be. What a text says is a tree with its words as they
are written at the leaves (`Tree`).

What one who goes through a document comes to know of a tree is
`Tree.known`. Words that have no value, as numbers out of range, are
passed over like others. Libraries are lawful if they read texts so,
whatever they do with streams that are none (`LawfulLibraries`).
-/
import Coverage.Json.Token
import Coverage.Libraries
import Coverage.Proofs.JsonNumerals
import Coverage.Proofs.JsonQuoted

namespace Coverage

namespace Json

-- ============================================================== grammar

/-- The bytes of a truth value. -/
def boolBytes (b : Bool) : List UInt8 :=
  Lexer.spell (if b then "true" else "false")

/-- A value as it is written, with its words at the leaves. -/
inductive Tree
  | null
  | bool (value : Bool)
  | number (value : Number.Numeral)
  | string (pieces : List Quoted.Piece)
  | array (items : List Tree)
  | object (members : List (List Quoted.Piece × Tree))

/-- The bytes can stand around words. -/
def AreBlank (bytes : List UInt8) : Prop :=
  ∀ b ∈ bytes, Lexer.isBlank b = true

/-- What the grammar has texts of. -/
inductive Phrase
  | value (t : Tree)
  /-- What stands between the brackets of an array, if anything does. -/
  | items (ts : List Tree)
  /-- What stands between the brackets of an object. -/
  | members (ms : List (List Quoted.Piece × Tree))

/-- The grammar of JSON. -/
inductive IsText : List UInt8 → Phrase → Prop
  | null : IsText (Lexer.spell "null") (.value .null)
  | bool (b : Bool) : IsText (boolBytes b) (.value (.bool b))
  | number {bytes : List UInt8} {n : Number.Numeral}
      (h : Number.IsNumeral bytes n) : IsText bytes (.value (.number n))
  | string {bytes : List UInt8} {pieces : List Quoted.Piece}
      (h : Quoted.IsQuoted bytes pieces) :
      IsText bytes (.value (.string pieces))
  | emptyArray {blanks : List UInt8} (h : AreBlank blanks) :
      IsText ('['.toUInt8 :: (blanks ++ [']'.toUInt8])) (.value (.array []))
  | array {bytes : List UInt8} {ts : List Tree}
      (h : IsText bytes (.items ts)) :
      IsText ('['.toUInt8 :: (bytes ++ [']'.toUInt8])) (.value (.array ts))
  | emptyObject {blanks : List UInt8} (h : AreBlank blanks) :
      IsText ('\x7b'.toUInt8 :: (blanks ++ ['\x7d'.toUInt8]))
        (.value (.object []))
  | object {bytes : List UInt8} {ms : List (List Quoted.Piece × Tree)}
      (h : IsText bytes (.members ms)) :
      IsText ('\x7b'.toUInt8 :: (bytes ++ ['\x7d'.toUInt8]))
        (.value (.object ms))
  /-- Blanks may stand around a value. -/
  | spaced {before bytes after : List UInt8} {t : Tree}
      (hbefore : AreBlank before) (h : IsText bytes (.value t))
      (hafter : AreBlank after) :
      IsText (before ++ (bytes ++ after)) (.value t)
  | item {bytes : List UInt8} {t : Tree} (h : IsText bytes (.value t)) :
      IsText bytes (.items [t])
  | moreItems {bytes rest : List UInt8} {t : Tree} {ts : List Tree}
      (h : IsText bytes (.value t)) (hrest : IsText rest (.items ts)) :
      IsText (bytes ++ ','.toUInt8 :: rest) (.items (t :: ts))
  | member {before name after bytes : List UInt8}
      {pieces : List Quoted.Piece} {t : Tree} (hbefore : AreBlank before)
      (hname : Quoted.IsQuoted name pieces) (hafter : AreBlank after)
      (h : IsText bytes (.value t)) :
      IsText (before ++ (name ++ (after ++ ':'.toUInt8 :: bytes)))
        (.members [(pieces, t)])
  | moreMembers {bytes rest : List UInt8} {m : List Quoted.Piece × Tree}
      {ms : List (List Quoted.Piece × Tree)}
      (h : IsText bytes (.members [m])) (hrest : IsText rest (.members ms)) :
      IsText (bytes ++ ','.toUInt8 :: rest) (.members (m :: ms))

-- ============================================================= meaning

namespace Tree

mutual

/-- What a reader comes to know of a tree. -/
def known : Tree → Json
  | .null => .null
  | .bool b => .bool b
  | .number n => .number n.scalar
  | .string pieces => .string (Quoted.scalar pieces none)
  | .array items => .array (knownItems items) none
  | .object members => .object (knownMembers members) none

/-- What a reader comes to know of items. -/
def knownItems : List Tree → List Json
  | [] => []
  | t :: ts => t.known :: knownItems ts

/-- What a reader comes to know of members. -/
def knownMembers : List (List Quoted.Piece × Tree) → List Member
  | [] => []
  | (pieces, t) :: ms =>
      (Quoted.scalar pieces none, t.known) :: knownMembers ms

end

/-- What is known of items is known of each. -/
theorem knownItems_eq_map (ts : List Tree) :
    knownItems ts = ts.map known := by
  induction ts with
  | nil => rfl
  | cons t ts ih => rw [knownItems, ih, List.map_cons]

/-- What is known of members is known of each. -/
theorem knownMembers_eq_map (ms : List (List Quoted.Piece × Tree)) :
    knownMembers ms = ms.map fun m => (Quoted.scalar m.1 none, m.2.known) := by
  induction ms with
  | nil => rfl
  | cons m ms ih => rw [knownMembers, ih, List.map_cons]

end Tree

/-- A document that is known to its end is read as its value. -/
theorem Document.read_mk {α : Type} (v : Json)
    (read : Json → Except Fault α) :
    (⟨v, none⟩ : Document).read read = (read v).mapError Fault.toFault := by
  unfold Document.read
  cases read v <;> rfl

/-- It gives what its value does. -/
theorem Document.read_mk_eq_ok_iff {α : Type} {v : Json}
    {read : Json → Except Fault α} {a : α} :
    (⟨v, none⟩ : Document).read read = .ok a ↔ read v = .ok a := by
  rw [Document.read_mk]
  cases read v with
  | error fault => exact iff_of_false nofun nofun
  | ok b => simp [Except.mapError]

end Json

-- ================================================================= laws

/-- What is relied on of the libraries at hand. -/
class LawfulLibraries [Libraries] : Prop where
  /-- A text is the document of what is known of its tree, to its end. -/
  document_text : ∀ {bytes : List UInt8} {t : Json.Tree},
    Json.IsText bytes (.value t) →
      Libraries.document ⟨bytes, none⟩ = ⟨t.known, none⟩

end Coverage
