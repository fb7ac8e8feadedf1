/-
The footprint of a pattern: how much memory its automata take. An
automaton that reads the bytes of a name finds where a match ends, and
one that reads them backward finds where it began. A pattern is refused
if either of its automata takes more than ten megabytes.

An automaton consists of states. Every state takes some memory, and so
does every branch of a state that only branches, and every range of
bytes of a state that chooses by the next byte. What is repeated so many
times is there so many times. The characters of a set share states: those
that end alike when reading forward, those that begin alike when reading
backward. The beginning and the end of a group are states as well, but
only when reading forward, and so is the beginning of a match.
-/
import Coverage.Pattern.Encoding
import Coverage.Pattern.Node

namespace Coverage.Pattern

/-- The direction in which an automaton reads. -/
inductive Direction
  | forward
  | backward
deriving DecidableEq

/-- What a state takes. -/
def stateSize : Nat := 32

/-- What a state that only branches takes. -/
def branchingSize (branches : Nat) : Nat := stateSize + 4 * branches

/-- What a state that chooses by the next byte takes, with so many ranges
of bytes. -/
def choosingSize (ranges : Nat) : Nat := stateSize + 8 * ranges

/-- The greatest footprint of an automaton. -/
def maxFootprint : Nat := 10 * 1024 * 1024

/-- The sum of sizes. -/
private def total (sizes : List Nat) : Nat := sizes.foldl (· + ·) 0

-- =============================================================== sets

/-- What one character of a set takes. A set within ASCII is one choice.
Reading backward, every branch of the tree of encodings is a state, and
all encodings branch off one state. -/
def setFootprint (direction : Direction) (set : CharSet) : Nat :=
  if set.ranges.all (·.last < 0x80) then
    stateSize + choosingSize set.ranges.length
  else
    let sequences := encode set
    match direction with
    | .forward =>
      let trees := (subtrees maxEncodingLength sequences).eraseDups
      stateSize + total (trees.map fun tree => choosingSize (branchesOf tree).length)
    | .backward =>
      stateSize + branchingSize sequences.length
        + stateSize * branchCount maxEncodingLength sequences

-- ============================================================== texts

/-- The bytes of a text in the order in which they are read. -/
def bytesInOrder (direction : Direction) (chars : List Char) : List UInt8 :=
  let bytes := (String.ofList chars).toUTF8.toList
  match direction with
  | .forward => bytes
  | .backward => bytes.reverse

/-- The rests of the texts that begin with that byte. -/
private def restsBehind (byte : UInt8) (texts : List (List UInt8)) :
    List (List UInt8) :=
  texts.filterMap fun
    | b :: rest => if b = byte then some rest else none
    | [] => none

/-- What a choice between texts takes, which is made a tree by their first
bytes. Where a text ends, the tree can end too; as an earlier text is
preferred, the texts before and behind that one are kept apart. Behind
the last byte of all texts there is no state. -/
private def textTreeSize : Nat → List (List UInt8) → Nat
  | 0, _ => 0
  | length + 1, texts =>
    if texts.all List.isEmpty then 0
    else
      let texts :=
        if texts.head?.any List.isEmpty then [] :: texts.dropWhile List.isEmpty
        else texts
      let parts := texts.splitOn []
      let choices := (parts.filter (! ·.isEmpty)).map fun part =>
        let firsts := (part.filterMap List.head?).eraseDups
        let choice :=
          if firsts.length = 1 then stateSize else choosingSize firsts.length
        choice + total (firsts.map fun byte =>
          textTreeSize length (restsBehind byte part))
      branchingSize (choices.length + (parts.length - 1)) + total choices

/-- What a choice between texts takes. -/
def textsFootprint (direction : Direction) (texts : List (List Char)) : Nat :=
  let texts := texts.map (bytesInOrder direction)
  let length := (texts.map List.length).foldl Nat.max 0
  stateSize + textTreeSize length texts

namespace Node

-- ============================================================ patterns

mutual

/-- The least length of what the pattern matches, if every part of it
matches something. -/
def leastLength : Node → Option Nat
  | empty | assertion _ => some 0
  | text cs => some cs.length
  | chars set => if set.ranges.isEmpty then none else some 1
  | group _ a => a.leastLength
  | repeated a min _ => a.leastLength.map (· * min)
  | sequence parts => (leastLengths parts).map total
  | choice branches => (leastLengths branches).map fun lengths =>
      lengths.foldl Nat.min (lengths.headD 0)

/-- The least lengths of what the patterns match. -/
def leastLengths : List Node → Option (List Nat)
  | [] => some []
  | a :: rest => do return (← a.leastLength) :: (← leastLengths rest)

end

/-- What a repetition takes of something that takes `size`. Any number of
times is one state that leads back; if nothing at all can be matched in a
round, it takes another such state and one behind it. An optional round
is a state that leads past it to the end. -/
def repetitionFootprint (size : Nat) (canBeEmpty : Bool) (min : Nat) :
    Option Nat → Nat
  | none =>
    if min = 0 ∧ canBeEmpty then size + 2 * branchingSize 2 + stateSize
    else Nat.max min 1 * size + branchingSize 2
  | some max =>
    let required := if min = 0 ∧ max ≠ 1 then stateSize else min * size
    if min = max then required
    else required + (max - min) * (branchingSize 2 + size) + stateSize

/-- The text that a pattern is. -/
private def text? : Node → Option (List Char)
  | text cs => some cs
  | _ => none

mutual

/-- What the pattern takes as a part of an automaton. -/
def footprint (direction : Direction) : Node → Nat
  | empty | assertion _ => stateSize
  | text cs => stateSize * (bytesInOrder direction cs).length
  | chars set => setFootprint direction set
  | group _ a =>
    let marks := if direction = .forward then 2 * stateSize else 0
    a.footprint direction + marks
  | repeated a min max =>
    let canBeEmpty := ! (a.leastLength.any (0 < ·))
    repetitionFootprint (a.footprint direction) canBeEmpty min max
  | sequence parts => sumOfFootprints direction parts
  | choice branches =>
    match branches.mapM text? with
    | some texts => textsFootprint direction texts
    | none =>
      branchingSize branches.length + stateSize
        + sumOfFootprints direction branches

/-- What the patterns take together. -/
def sumOfFootprints (direction : Direction) : List Node → Nat
  | [] => 0
  | a :: rest => a.footprint direction + sumOfFootprints direction rest

end

-- ============================================================= anchors

mutual

/-- Every match begins at the start of the text, or ends at its end when
reading backward. -/
def isAnchored (direction : Direction) : Node → Bool
  | assertion .textStart => direction = .forward
  | assertion .textEnd => direction = .backward
  | group _ a => a.isAnchored direction
  | repeated a min _ => decide (0 < min) && a.isAnchored direction
  | sequence parts => anyAnchored direction parts
  | choice branches => allAnchored direction branches
  | _ => false

/-- One of the parts is anchored that have nothing but empty matches in
front of them, or behind them when reading backward. -/
def anyAnchored (direction : Direction) : List Node → Bool
  | [] => false
  | a :: rest =>
    match direction with
    | .forward =>
      a.isAnchored direction || (a.isZeroWidth && anyAnchored direction rest)
    | .backward =>
      anyAnchored direction rest || (allZeroWidth rest && a.isAnchored direction)

/-- All of the branches are anchored. -/
def allAnchored (direction : Direction) : List Node → Bool
  | [] => true
  | a :: rest => a.isAnchored direction && allAnchored direction rest

end

/-- What the automaton of a pattern takes. If the pattern is not
anchored, the automaton begins with any number of arbitrary bytes, and it
ends with a state that tells the match. -/
def automatonFootprint (direction : Direction) (a : Node) : Nat :=
  let start :=
    if a.isAnchored direction then stateSize
    else branchingSize 2 + stateSize + choosingSize 1
  start + (group 0 a).footprint direction + stateSize

/-- The pattern is not too large. -/
def fits (a : Node) : Bool :=
  decide (a.automatonFootprint .forward ≤ maxFootprint)
    && decide (a.automatonFootprint .backward ≤ maxFootprint)

end Node

end Coverage.Pattern
