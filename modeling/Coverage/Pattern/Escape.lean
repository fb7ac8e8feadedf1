/-
Escapes: what a backslash and the characters behind it stand for. Every
reader here takes the text behind what was read already, and gives back
what it read together with the text that is left.
-/
import Coverage.Pattern.Flags
import Coverage.Text.Blank

namespace Coverage.Pattern

-- ==================================================== blanks, comments

/-- The text behind blanks and comments; a comment ends with its line. -/
def skipLayout (inComment : Bool) : List Char → List Char
  | [] => []
  | c :: rest =>
    if inComment then skipLayout (c != '\n') rest
    else if Text.isBlank c then skipLayout false rest
    else if c == '#' then skipLayout true rest
    else c :: rest

/-- The text behind what does not count under the flags. -/
def Flags.skip (flags : Flags) (text : List Char) : List Char :=
  if flags.extended then skipLayout false text else text

/-- The text behind layout is no longer than the text. -/
theorem length_skipLayout (inComment : Bool) (text : List Char) :
    (skipLayout inComment text).length ≤ text.length := by
  induction text generalizing inComment with
  | nil => simp [skipLayout]
  | cons c rest ih =>
    simp only [skipLayout]
    split
    · exact Nat.le_succ_of_le (ih _)
    · split
      · exact Nat.le_succ_of_le (ih _)
      · split
        · exact Nat.le_succ_of_le (ih _)
        · exact Nat.le_refl _

/-- What does not count takes nothing but characters. -/
theorem Flags.length_skip (flags : Flags) (text : List Char) :
    (flags.skip text).length ≤ text.length := by
  unfold Flags.skip
  split
  · exact length_skipLayout false text
  · exact Nat.le_refl _

/-- Reads characters that satisfy a condition, and passes over layout
behind each of them. -/
def Flags.readWhile (flags : Flags) (p : Char → Bool) :
    List Char → List Char × List Char
  | [] => ([], [])
  | c :: rest =>
    if p c then
      let (read, rest) := flags.readWhile p (flags.skip rest)
      (c :: read, rest)
    else ([], c :: rest)
termination_by text => text.length
decreasing_by exact Nat.lt_succ_of_le (flags.length_skip rest)

-- ============================================================ numerals

/-- The value of a hexadecimal digit. -/
def hexDigit? (c : Char) : Option Nat :=
  if c.isDigit then some (c.toNat - '0'.toNat)
  else if 'a' ≤ c && c ≤ 'f' then some (c.toNat - 'a'.toNat + 10)
  else if 'A' ≤ c && c ≤ 'F' then some (c.toNat - 'A'.toNat + 10)
  else none

/-- The character with the code point, unless it is a surrogate or too
large. -/
def charOfNat? (n : Nat) : Option Char :=
  if h : n.isValidChar then some (Char.ofNatAux n h) else none

/-- Reads exactly so many hexadecimal digits behind the value so far. -/
def readHexFixed (flags : Flags) (value : Nat) :
    Nat → List Char → Option (Nat × List Char)
  | 0, text => some (value, text)
  | more + 1, text =>
    match flags.skip text with
    | c :: rest => do
      let digit ← hexDigit? c
      readHexFixed flags (16 * value + digit) more rest
    | [] => none

/-- The value of a hexadecimal numeral, if it is one. -/
def hexValue? (numeral : List Char) : Option Nat :=
  numeral.foldlM (fun n c => return 16 * n + (← hexDigit? c)) 0

/-- Reads hexadecimal digits, one at least, up to a closing brace. -/
def readHexBraced (flags : Flags) (text : List Char) : Option (Nat × List Char) :=
  match flags.readWhile (· != '}') text with
  | ([], _) | (_, []) => none
  | (numeral, _ :: rest) => (hexValue? numeral).map (·, rest)

/-- Reads the hexadecimal digits of a character, either so many of them,
or any number between braces. -/
def readHex (flags : Flags) (digits : Nat) (text : List Char) :
    Option (Char × List Char) := do
  let (value, rest) ←
    match flags.skip text with
    | '{' :: rest => readHexBraced flags (flags.skip rest)
    | text => readHexFixed flags 0 digits text
  let c ← charOfNat? value
  return (c, rest)

-- ============================================================= escapes

/-- What an escape stands for. -/
inductive Escape
  /-- A character; `coded` if it was written with the two digits of a
  byte. -/
  | literal (c : Char) (coded : Bool)
  | set (set : CharSet)
  | assertion (assertion : Assertion)

/-- A set that a letter stands for, in upper case its complement. Outside
Unicode a complement would match parts of characters, so there is
none. -/
def letterSet (flags : Flags) (set : CharSet) (negated : Bool) :
    Option Escape :=
  if negated && ! flags.unicode then none
  else some (.set (set.negateIf negated))

/-- Splits a text in front of the first place where it goes on with
`mark`, and drops the mark. -/
def splitAtMark? (mark : List Char) : List Char → Option (List Char × List Char)
  | [] => none
  | c :: rest =>
    if mark.isPrefixOf (c :: rest) then
      some ([], (c :: rest).drop mark.length)
    else (splitAtMark? mark rest).map fun (front, behind) => (c :: front, behind)

/-- The set that a property in braces stands for: a name, or a kind of
property and its value. Of the marks between the two the first decides
that occurs at all; the mark that asks for another value does no more
than the other ones. -/
def propertySet? (name : List Char) : Option CharSet :=
  let marks := ["!=", ":", "="].map String.toList
  match marks.findSome? (splitAtMark? · name) with
  | some (kind, value) => propertyValue? kind value
  | none => property? name

/-- Reads the name of a property: one letter, or a name in braces. -/
def readProperty (flags : Flags) (text : List Char) : Option (CharSet × List Char) :=
  match flags.skip text with
  | '{' :: rest =>
    match flags.readWhile (· != '}') (flags.skip rest) with
    | (name, '}' :: rest) => (propertySet? name).map (·, rest)
    | _ => none
  | '\\' :: _ => none
  | c :: rest => (property? [c]).map (·, rest)
  | [] => none

/-- The conditions on words that are written as a name in braces. -/
def wordCondition? (flags : Flags) : String → Option Assertion
  | "start" => some (.wordStart flags.word)
  | "end" => some (.wordEnd flags.word)
  | "start-half" => some (.wordStartHalf flags.word)
  | "end-half" => some (.wordEndHalf flags.word)
  | _ => none

/-- Reads what follows the escape of a word boundary. A brace with a
letter or hyphen behind it begins the name of a condition; any other
brace is left for a repetition. -/
def readWordBoundary (flags : Flags) (text : List Char) :
    Option (Assertion × List Char) :=
  let boundary : Option (Assertion × List Char) := some (.wordBoundary flags.word, text)
  match text with
  | '{' :: rest =>
    match flags.skip rest with
    | [] => none
    | rest =>
      match flags.readWhile (fun c => c.isAlpha || c == '-') rest with
      | ([], _) => boundary
      | (name, '}' :: rest) =>
        (wordCondition? flags (String.ofList name)).map (·, rest)
      | _ => none
  | _ => boundary

/-- An ASCII character that is neither letter nor digit nor an angle
bracket stands for itself behind a backslash. -/
def standsForItself (c : Char) : Bool :=
  c.toNat < 0x80 && ! c.isAlphanum && c != '<' && c != '>'

/-- Reads what follows a backslash. -/
def readEscape (flags : Flags) : List Char → Option (Escape × List Char)
  | [] => none
  | c :: rest =>
    let plain (c : Char) : Option (Escape × List Char) := some (.literal c false, rest)
    let condition (a : Assertion) : Option (Escape × List Char) := some (.assertion a, rest)
    let letter (set : CharSet) (negated : Bool) : Option (Escape × List Char) :=
      (letterSet flags set negated).map (·, rest)
    let hex (digits : Nat) (coded : Bool) : Option (Escape × List Char) :=
      (readHex flags digits rest).map fun (c, rest) =>
        (.literal c coded, rest)
    let property (negated : Bool) : Option (Escape × List Char) :=
      if flags.unicode then
        (readProperty flags rest).map fun (set, rest) =>
          (.set ((flags.fold set).negateIf negated), rest)
      else none
    match c with
    | 'x' => hex 2 ((flags.skip rest).head? != some '{')
    | 'u' => hex 4 false
    | 'U' => hex 8 false
    | 'p' => property false
    | 'P' => property true
    | 'd' => letter flags.digit false
    | 'D' => letter flags.digit true
    | 's' => letter flags.space false
    | 'S' => letter flags.space true
    | 'w' => letter flags.word false
    | 'W' => letter flags.word true
    | 'a' => plain '\x07'
    | 'f' => plain '\x0c'
    | 't' => plain '\t'
    | 'n' => plain '\n'
    | 'r' => plain '\r'
    | 'v' => plain '\x0b'
    | 'A' => condition .textStart
    | 'z' => condition .textEnd
    | 'b' =>
      (readWordBoundary flags rest).map fun (a, rest) =>
        (.assertion a, rest)
    | 'B' => condition (.noWordBoundary flags.word)
    | '<' => condition (.wordStart flags.word)
    | '>' => condition (.wordEnd flags.word)
    | c => if standsForItself c then plain c else none

end Coverage.Pattern
