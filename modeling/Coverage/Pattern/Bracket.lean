/-
Sets in brackets. Brackets nest; inside them sets stand side by side for
their union, and `&&`, `--` and `~~` between two unions stand for
intersection, difference and symmetric difference, from left to right.
A closing bracket in first place and a hyphen at either end stand for
themselves.

Brackets that are open wait on a stack, so nesting needs no recursion;
each step of the reader takes at least one character, and the number of
characters bounds the steps. How deep sets are nested is counted on the
way: brackets, operations and unions of several items are levels.
-/
import Coverage.Pattern.Escape

namespace Coverage.Pattern

/-- Operations between unions of sets. -/
inductive SetOperation
  | intersection
  | difference
  | symmetricDifference

/-- What an operation makes of two sets. -/
def SetOperation.apply : SetOperation → CharSet → CharSet → CharSet
  | .intersection, a, b => .intersection a b
  | .difference, a, b => .difference a b
  | .symmetricDifference, a, b =>
    .union (.difference a b) (.difference b a)

/-- A set that was read, and how deep it is nested. -/
structure ReadSet where
  set : CharSet
  depth : Nat

/-- A bracket that is open. -/
structure OpenBracket where
  negated : Bool
  /-- An operation that waits for its right side. -/
  pending : Option (SetOperation × ReadSet) := none
  /-- The items of the union so far, the last one in front. -/
  items : List CharSet := []
  /-- The greatest depth of an item. -/
  depth : Nat := 0

namespace OpenBracket

/-- Adds a set to the union. -/
def add (b : OpenBracket) (item : ReadSet) : OpenBracket :=
  { b with
    items := item.set :: b.items
    depth := Nat.max b.depth item.depth }

/-- Adds a character to the union. -/
def addChar (b : OpenBracket) (c : Char) : OpenBracket :=
  b.add ⟨.single c, 0⟩

/-- What the bracket stands for so far, its operation applied. -/
def value (flags : Flags) (b : OpenBracket) : ReadSet :=
  let union := CharSet.unions b.items
  let depth := if b.items.length ≤ 1 then b.depth else b.depth + 1
  match b.pending with
  | none => ⟨union, depth⟩
  | some (operation, left) =>
    ⟨operation.apply (flags.fold left.set) (flags.fold union),
      Nat.max left.depth depth + 1⟩

/-- An operation follows what was read so far. -/
def operate (flags : Flags) (b : OpenBracket)
    (operation : SetOperation) : OpenBracket :=
  { negated := b.negated, pending := some (operation, b.value flags) }

/-- What the bracket stands for. A complement outside Unicode would match
parts of characters, so there is none. -/
def close (flags : Flags) (b : OpenBracket) : Option ReadSet :=
  let value := b.value flags
  if b.negated && ! flags.unicode then none
  else some ⟨(flags.fold value.set).negateIf b.negated, value.depth + 1⟩

end OpenBracket

/-- Reads what follows an opening bracket: a circumflex that negates,
then hyphens, or else a closing bracket that stands for itself. -/
def readOpening (flags : Flags) (text : List Char) :
    OpenBracket × List Char :=
  let (b, text) : OpenBracket × List Char :=
    match flags.skip text with
    | '^' :: rest => ({ negated := true }, flags.skip rest)
    | text => ({ negated := false }, text)
  match text with
  | ']' :: rest => (b.addChar ']', rest)
  | text =>
    let (hyphens, rest) := flags.readWhile (· == '-') text
    (hyphens.foldl OpenBracket.addChar b, rest)

/-- Reads a set with a name between colons, behind its opening
bracket. -/
def readAsciiClass (text : List Char) : Option ((Bool × CharSet) × List Char) :=
  match text with
  | ':' :: rest =>
    let (negated, rest) :=
      match rest with
      | '^' :: rest => (true, rest)
      | rest => (false, rest)
    match rest.span (· != ':') with
    | (name, ':' :: ']' :: rest) => do
      let set ← asciiClass? (String.ofList name)
      return ((negated, set), rest)
    | _ => none
  | _ => none

/-- Reads a character or an escape of a set. -/
def readSetItem (flags : Flags) : List Char → Option (Escape × List Char)
  | '\\' :: rest => readEscape flags rest
  | c :: rest => some (.literal c false, rest)
  | [] => none

/-- The character that an item of a set stands for. Outside Unicode only
ASCII characters are items. -/
def setLiteral? (flags : Flags) : Escape → Option Char
  | .literal c _ => if flags.unicode || c.toNat < 0x80 then some c else none
  | _ => none

/-- The set that an item of a set stands for. -/
def itemSet? (flags : Flags) : Escape → Option CharSet
  | .literal c coded =>
    (setLiteral? flags (.literal c coded)).map CharSet.single
  | .set set => some set
  | .assertion _ => none

/-- The character by which a hyphen in a set is judged. Where layout does
not count, the blanks behind the hyphen are passed over, and with them
the sign of a comment, but not the comment. -/
def judgeOfHyphen (flags : Flags) (behind : List Char) : Option Char :=
  if flags.extended then
    match behind.dropWhile Text.isBlank with
    | '#' :: comment => (comment.dropWhile Text.isBlank).head?
    | text => text.head?
  else behind.head?

/-- Reads an item of a set, or a range between two. A hyphen before a
closing bracket or another hyphen makes no range. -/
def readSetRange (flags : Flags) (text : List Char) : Option (CharSet × List Char) := do
  let (first, rest) ← readSetItem flags text
  let rest := flags.skip rest
  let single : Option (CharSet × List Char) := (itemSet? flags first).map (·, rest)
  match rest with
  | '-' :: behind =>
    let judge := judgeOfHyphen flags behind
    if judge = some ']' ∨ judge = some '-' then single
    else
      let (last, rest) ← readSetItem flags (flags.skip behind)
      let first ← setLiteral? flags first
      let last ← setLiteral? flags last
      if first ≤ last then return (.range first last, rest) else none
  | _ => single

/-- Reads a set behind its opening bracket, with the bracket that is open
and those around it. -/
def readBrackets (flags : Flags) :
    Nat → OpenBracket → List OpenBracket → List Char → Option (ReadSet × List Char)
  | 0, _, _, _ => none
  | fuel + 1, b, around, text =>
    match flags.skip text with
    | [] => none
    | ']' :: rest => do
      let set ← b.close flags
      match around with
      | [] => return (set, rest)
      | outer :: around =>
        readBrackets flags fuel (outer.add set) around rest
    | '[' :: rest =>
      match readAsciiClass rest with
      | some ((negated, set), rest) =>
        if negated && ! flags.unicode then none
        else
          let item : ReadSet := ⟨(flags.fold set).negateIf negated, 0⟩
          readBrackets flags fuel (b.add item) around rest
      | none =>
        let (inner, rest) := readOpening flags rest
        readBrackets flags fuel inner (b :: around) rest
    | '&' :: '&' :: rest =>
      readBrackets flags fuel (b.operate flags .intersection) around rest
    | '-' :: '-' :: rest =>
      readBrackets flags fuel (b.operate flags .difference) around rest
    | '~' :: '~' :: rest =>
      readBrackets flags fuel (b.operate flags .symmetricDifference) around
        rest
    | text => do
      let (set, rest) ← readSetRange flags text
      readBrackets flags fuel (b.add ⟨set, 0⟩) around rest

/-- Reads a set behind its opening bracket. -/
def readSet (flags : Flags) (text : List Char) : Option (ReadSet × List Char) :=
  let (b, rest) := readOpening flags text
  readBrackets flags (rest.length + 1) b [] rest

end Coverage.Pattern
