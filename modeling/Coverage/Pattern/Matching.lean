/-
What patterns match. A pattern is a walk through a text, from where it
may start to where it may then end. A set of characters leads over any
character that it contains, an assertion from a place to itself, and
sequences, choices and repetitions are those of walks. There is no trying
of one way after another, so the effort does not grow with the number of
ways in which a pattern can match.
-/
import Coverage.Pattern.Node
import Coverage.Pattern.Walk

namespace Coverage.Pattern

-- ============================================================= places

/-- What stands on either side of a place. -/
structure Place where
  before : Option Char
  after : Option Char

/-- The places of a text behind the given character. -/
def placesFrom (before : Option Char) : List Char → List Place
  | [] => [⟨before, none⟩]
  | c :: rest => ⟨before, some c⟩ :: placesFrom (some c) rest

/-- The condition holds at the place. -/
def Assertion.holds (condition : Assertion) (p : Place) : Bool :=
  match condition with
  | .textStart => p.before.isNone
  | .textEnd => p.after.isNone
  | .lineStart => p.before.all (· == '\n')
  | .lineEnd => p.after.all (· == '\n')
  | .anyLineStart =>
    p.before.all fun c => c == '\n' || (c == '\r' && p.after != some '\n')
  | .anyLineEnd =>
    p.after.all fun c => c == '\r' || (c == '\n' && p.before != some '\r')
  | .wordBoundary word =>
    p.before.any word.contains != p.after.any word.contains
  | .noWordBoundary word =>
    p.before.any word.contains == p.after.any word.contains
  | .wordStart word =>
    ! p.before.any word.contains && p.after.any word.contains
  | .wordEnd word =>
    p.before.any word.contains && ! p.after.any word.contains
  | .wordStartHalf word => ! p.before.any word.contains
  | .wordEndHalf word => ! p.after.any word.contains

-- =========================================================== matching

/-- The places of a text where the rest satisfies a condition. -/
def placesWhere (p : List Char → Bool) : List Char → List Bool
  | [] => [p []]
  | c :: rest => p (c :: rest) :: placesWhere p rest

mutual

/-- The walk from where the pattern may start to where it may end. -/
def Node.walk (text : List Char) : Node → Walk
  | .empty => .stay
  | .text cs => .across cs.length (.ofMarks (placesWhere cs.isPrefixOf text))
  | .chars set =>
    .across 1 (.ofMarks (placesWhere (·.head?.any set.contains) text))
  | .assertion condition =>
    .across 0 (.ofMarks ((placesFrom none text).map condition.holds))
  | .group _ a => a.walk text
  | .repeated a min max =>
    match max with
    | some max => (a.walk text).repeatUpTo min max
    | none => (a.walk text).repeatFrom (text.length + 1) min
  | .sequence parts => sequenceWalk text parts
  | .choice branches => choiceWalk text branches

/-- The walk of patterns one behind the other. -/
def Node.sequenceWalk (text : List Char) : List Node → Walk
  | [] => .stay
  | a :: rest => (a.walk text).andThen (sequenceWalk text rest)

/-- The walk of a choice between patterns. -/
def Node.choiceWalk (text : List Char) : List Node → Walk
  | [] => ⟨fun _ => 0⟩
  | a :: rest => (a.walk text).orElse (choiceWalk text rest)

end

/-- The pattern matches somewhere in the text. -/
def Node.matchesIn (pattern : Node) (text : List Char) : Bool :=
  (pattern.walk text).ends (.first (text.length + 1)) != 0

end Coverage.Pattern
