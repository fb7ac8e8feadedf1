/-
Reading a pattern from text. Groups that are open wait on a stack with
the alternatives read so far, so nesting needs no recursion. Each step
takes at least one character, hence the number of characters bounds the
steps.

What makes a text no pattern: brackets and groups that do not pair up, a
repetition with nothing to repeat or with its bounds in the wrong order,
a brace that is no repetition, unknown escapes and flags, conditions on
surrounding text, and references to groups. Besides, a pattern must not
be nested too deep, and its automata must not be too large.
-/
import Coverage.Pattern.Bracket
import Coverage.Pattern.Footprint
import Coverage.Text.Split

namespace Coverage.Pattern

-- ============================================================== pieces

/-- A part of a pattern, as it was written. -/
structure Piece where
  node : Node
  /-- How deep it is nested. Groups, repetitions and sets in brackets are
  levels; so are sequences and choices of more than one part. -/
  depth : Nat := 0
  /-- A flag setting is a part of a sequence that cannot be repeated. -/
  repeatable : Bool := true

/-- Patterns are nested no deeper than this. -/
def maxDepth : Nat := 250

/-- Puts pieces together, a single one as it is. -/
def Piece.combine (build : List Node → Node) (pieces : List Piece) : Piece :=
  match pieces with
  | [piece] => piece
  | pieces =>
    { node := build (pieces.map (·.node))
      depth :=
        if pieces.isEmpty then 0
        else (pieces.map (·.depth)).foldl Nat.max 0 + 1 }

-- ============================================================== levels

/-- What was read at one level of nesting: alternatives, and the sequence
being read, both the latest first. -/
structure Level where
  alternatives : List Piece := []
  sequence : List Piece := []

namespace Level

/-- Adds a piece to the sequence. -/
def push (level : Level) (piece : Piece) : Level :=
  { level with sequence := piece :: level.sequence }

/-- The sequence as one piece. -/
def current (level : Level) : Piece :=
  .combine .ofSequence level.sequence.reverse

/-- The sequence is complete; another alternative follows. -/
def choose (level : Level) : Level where
  alternatives := level.current :: level.alternatives
  sequence := []

/-- The whole level as one piece. -/
def close (level : Level) : Piece :=
  .combine .ofChoice (level.current :: level.alternatives).reverse

/-- Repeats the last piece of the sequence, if there is one that can be
repeated. -/
def repeatLast? (level : Level) (min : Nat) (max : Option Nat) :
    Option Level :=
  match level.sequence with
  | piece :: rest =>
    if piece.repeatable then
      let node := Node.ofRepetition piece.node min max
      some { level with sequence := ⟨node, piece.depth + 1, true⟩ :: rest }
    else none
  | [] => none

end Level

/-- A group that is open, with what holds again when it is closed. -/
structure OpenGroup where
  /-- The number of the group, unless it is there for its bounds alone. -/
  number : Option Nat
  level : Level
  flags : Flags

/-- The state of reading: the innermost level, the groups around it, the
flags that hold now, and how many groups have a number and which have a
name. -/
structure Reading where
  level : Level := {}
  around : List OpenGroup := []
  flags : Flags := {}
  groups : Nat := 0
  names : List (List Char) := []

-- ========================================================= repetitions

/-- The text behind a question mark, which asks for short matches and
makes no difference here. -/
def skipLazy : List Char → List Char
  | '?' :: rest => rest
  | text => text

/-- Reads a bound of a repetition, with blanks around it. -/
def readBound (flags : Flags) (text : List Char) :
    Option (Nat × List Char) :=
  let (digits, rest) :=
    flags.readWhile Char.isDigit (text.dropWhile Text.isBlank)
  let value := digits.foldl (fun n c => 10 * n + (c.toNat - '0'.toNat)) 0
  if digits.isEmpty || 1 <<< 32 ≤ value then none
  else some (value, flags.skip (rest.dropWhile Text.isBlank))

/-- Reads the bounds of a repetition behind their opening brace. -/
def readBounds (flags : Flags) (text : List Char) :
    Option ((Nat × Option Nat) × List Char) := do
  let (min, rest) ← readBound flags (flags.skip text)
  match rest with
  | '}' :: rest => return ((min, some min), skipLazy (flags.skip rest))
  | ',' :: rest =>
    match flags.skip rest with
    | '}' :: rest => return ((min, none), skipLazy (flags.skip rest))
    | rest =>
      let (max, rest) ← readBound flags rest
      match rest with
      | '}' :: rest =>
        if min ≤ max then
          return ((min, some max), skipLazy (flags.skip rest))
        else none
      | _ => none
  | _ => none

-- ============================================================== groups

/-- Reads flags up to the character that ends them, a colon or a closing
parenthesis. Flags behind a hyphen are cleared. No flag stands twice,
and a hyphen stands before a flag. -/
def readFlags (flags : Flags) (seen : List Char) :
    List Char → Option ((Flags × List Char × Char) × List Char)
  | [] => none
  | c :: rest =>
    if c == ':' || c == ')' then
      if seen.head? = some '-' then none else some ((flags, seen, c), rest)
    else if seen.contains c then none
    else if c == '-' then readFlags flags (c :: seen) rest
    else do
      let flags ← flags.set? c (! seen.contains '-')
      readFlags flags (c :: seen) rest

/-- The character may stand in the name of a group. -/
def isNamePart (first : Bool) (c : Char) : Bool :=
  c == '_' || Unicode.nameLetters.contains c
    || (! first && (c == '.' || c == '[' || c == ']'
      || Unicode.nameNumbers.contains c))

/-- Reads the name of a group and the bracket behind it. -/
def readName (text : List Char) : Option (List Char × List Char) := do
  let (name, rest) ← Text.splitFirst? '>' text
  match name with
  | [] => none
  | c :: more =>
    if isNamePart true c && more.all (isNamePart false) then
      return (name, rest)
    else none

namespace Reading

/-- Opens a group without a number, inside which the given flags hold. -/
def openPlain (r : Reading) (flags : Flags) : Reading :=
  { r with
    level := {}
    around := ⟨none, r.level, r.flags⟩ :: r.around
    flags := flags }

/-- Opens a group with the next number. -/
def openNumbered (r : Reading) : Reading :=
  { r with
    level := {}
    around := ⟨some (r.groups + 1), r.level, r.flags⟩ :: r.around
    groups := r.groups + 1 }

/-- Opens a group with a name that no other group has. -/
def openNamed (r : Reading) (text : List Char) :
    Option (Reading × List Char) := do
  let (name, rest) ← readName text
  if r.names.contains name then none
  else return ({ r.openNumbered with names := name :: r.names }, rest)

/-- Reads what follows an opening parenthesis. -/
def readGroup (r : Reading) (text : List Char) :
    Option (Reading × List Char) :=
  match r.flags.skip text with
  | '?' :: '=' :: _ | '?' :: '!' :: _ => none
  | '?' :: '<' :: '=' :: _ | '?' :: '<' :: '!' :: _ => none
  | '?' :: 'P' :: '<' :: rest | '?' :: '<' :: rest => r.openNamed rest
  | '?' :: rest => do
    let ((flags, seen, terminator), rest) ← readFlags r.flags [] rest
    if terminator == ':' then return (r.openPlain flags, rest)
    else if seen.isEmpty then none
    else
      let setting : Piece := { node := .empty, repeatable := false }
      return ({ r with flags := flags, level := r.level.push setting }, rest)
  | text => some (r.openNumbered, text)

/-- Closes the innermost group. -/
def closeGroup (r : Reading) : Option Reading :=
  match r.around with
  | [] => none
  | ⟨number, level, flags⟩ :: around =>
    let inner := r.level.close
    let node :=
      match number with
      | some number => .group number inner.node
      | none => inner.node
    some { r with
      level := level.push { node := node, depth := inner.depth + 1 }
      around := around
      flags := flags }

/-- Adds a pattern of a single piece to what was read. -/
def push (r : Reading) (node : Node) : Reading :=
  { r with level := r.level.push { node := node } }

/-- The pattern of one character. Outside Unicode a character that is
coded would be a byte, which stands for itself in ASCII only, and case is
told for ASCII only. -/
def literal? (flags : Flags) (c : Char) (coded : Bool) : Option Node :=
  let beyond := ! flags.unicode && 0x80 ≤ c.toNat
  if beyond && (coded || flags.ignoreCase) then none
  else some (.ofSet (flags.fold (.single c)))

/-- The pattern of an escape. -/
def escape? (flags : Flags) : Escape → Option Node
  | .literal c coded => literal? flags c coded
  | .set set => some (.ofSet set)
  | .assertion a => some (.assertion a)

/-- Repeats what was read last. -/
def repeatLast? (r : Reading) (min : Nat) (max : Option Nat) :
    Option Reading := do
  let level ← r.level.repeatLast? min max
  return { r with level := level }

/-- Takes one character, and the text behind it that belongs to it. -/
def step (r : Reading) (c : Char) (rest : List Char) :
    Option (Reading × List Char) :=
  match c with
  | '(' => r.readGroup rest
  | ')' => r.closeGroup.map (·, rest)
  | '|' => some ({ r with level := r.level.choose }, rest)
  | '[' => do
    let (read, rest) ← readSet r.flags rest
    let piece : Piece := { node := .ofSet read.set, depth := read.depth }
    return ({ r with level := r.level.push piece }, rest)
  | '?' => (r.repeatLast? 0 (some 1)).map (·, skipLazy rest)
  | '*' => (r.repeatLast? 0 none).map (·, skipLazy rest)
  | '+' => (r.repeatLast? 1 none).map (·, skipLazy rest)
  | '{' => do
    let ((min, max), rest) ← readBounds r.flags rest
    (r.repeatLast? min max).map (·, rest)
  | '\\' => do
    let (escape, rest) ← readEscape r.flags rest
    let node ← escape? r.flags escape
    return (r.push node, rest)
  | '.' =>
    if r.flags.unicode then some (r.push (.ofSet r.flags.point), rest)
    else none
  | '^' => some (r.push (.assertion r.flags.lineStart), rest)
  | '$' => some (r.push (.assertion r.flags.lineEnd), rest)
  | c => (literal? r.flags c false).map (r.push ·, rest)

/-- Reads to the end of the text. -/
def run : Nat → Reading → List Char → Option Piece
  | 0, _, _ => none
  | fuel + 1, r, text =>
    match r.flags.skip text with
    | [] => if r.around.isEmpty then some r.level.close else none
    | c :: rest =>
      match r.step c rest with
      | some (next, rest) => run fuel next rest
      | none => none

end Reading

/-- Reads a text as a pattern. -/
def Node.ofText? (text : List Char) : Option Node := do
  let piece ← Reading.run (text.length + 1) {} text
  if piece.depth ≤ maxDepth ∧ piece.node.fits then return piece.node
  else none

end Coverage.Pattern
