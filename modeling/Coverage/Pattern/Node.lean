/-
Patterns as trees. Trees are put together by functions that bring them
into a plain form: nothing empty stands in a sequence, neighbouring
characters make one text, a choice between single characters or between
sets is a set, and a start that all branches of a choice have in common
stands in front of it. None of this changes what a pattern matches, but
it decides how large its automata are.
-/
import Coverage.CharSet

namespace Coverage.Pattern

/-- Conditions on a place. -/
inductive Assertion
  | textStart
  | textEnd
  /-- At the start, or behind a line feed. -/
  | lineStart
  /-- At the end, or before a line feed. -/
  | lineEnd
  /-- At the start, or behind a line feed or carriage return that is not
  inside a pair of the two. -/
  | anyLineStart
  /-- At the end, or before such a terminator. -/
  | anyLineEnd
  /-- Between a word and something else. -/
  | wordBoundary (word : CharSet)
  /-- Not between a word and something else. -/
  | noWordBoundary (word : CharSet)
  /-- Where a word starts. -/
  | wordStart (word : CharSet)
  /-- Where a word ends. -/
  | wordEnd (word : CharSet)
  /-- No word character stands before. -/
  | wordStartHalf (word : CharSet)
  /-- No word character follows. -/
  | wordEndHalf (word : CharSet)
deriving DecidableEq

/-- A pattern. -/
inductive Node
  /-- Matches nothing, anywhere. -/
  | empty
  /-- Matches these characters in a row. -/
  | text (chars : List Char)
  /-- Matches one character of the set. -/
  | chars (set : CharSet)
  /-- Matches nothing, where the condition holds. -/
  | assertion (assertion : Assertion)
  /-- A group whose match can be asked for. The number of a group is its
  own. -/
  | group (number : Nat) (a : Node)
  /-- Matches so many times in a row; without an upper bound, any number
  of times from the lower one on. -/
  | repeated (a : Node) (min : Nat) (max : Option Nat)
  /-- Matches its parts one behind the other. -/
  | sequence (parts : List Node)
  /-- Matches what any of its branches matches. -/
  | choice (branches : List Node)

namespace Node

-- ============================================================= equality

mutual

/-- The patterns are the same tree. -/
def same : Node → Node → Bool
  | empty, empty => true
  | text a, text b => a == b
  | chars a, chars b => a == b
  | assertion a, assertion b => a == b
  | group m a, group n b => m == n && a.same b
  | repeated a min max, repeated b min' max' =>
    min == min' && max == max' && a.same b
  | sequence a, sequence b => allSame a b
  | choice a, choice b => allSame a b
  | _, _ => false

/-- The lists hold the same trees. -/
def allSame : List Node → List Node → Bool
  | [], [] => true
  | a :: as, b :: bs => a.same b && allSame as bs
  | _, _ => false

end

-- =============================================================== length

mutual

/-- Whatever the pattern matches is empty. -/
def isZeroWidth : Node → Bool
  | empty | assertion _ => true
  | text _ | chars _ => false
  | group _ a => a.isZeroWidth
  | repeated a _ max => max.isSome && a.isZeroWidth
  | sequence parts => allZeroWidth parts
  | choice branches => allZeroWidth branches

/-- Whatever any of the patterns matches is empty. -/
def allZeroWidth : List Node → Bool
  | [] => true
  | a :: rest => a.isZeroWidth && allZeroWidth rest

end

-- ================================================================= size

mutual

/-- How many nodes the tree has. -/
def size : Node → Nat
  | group _ a | repeated a _ _ => a.size + 1
  | sequence parts => sizes parts + 1
  | choice branches => sizes branches + 1
  | _ => 1

/-- How many nodes the trees have. -/
def sizes : List Node → Nat
  | [] => 0
  | a :: rest => a.size + sizes rest

end

-- ============================================================= building

/-- The pattern of one character of the set. -/
def ofSet (set : CharSet) : Node :=
  match set.single? with
  | some c => text [c]
  | none => chars set

/-- Puts a pattern in front of a sequence. -/
private def addFront : Node → List Node → List Node
  | empty, parts => parts
  | text a, text b :: parts => text (a ++ b) :: parts
  | a, parts => a :: parts

/-- What a pattern puts into a sequence. -/
private def parts : Node → List Node
  | sequence parts => parts
  | a => [a]

/-- The patterns one behind the other. -/
def ofSequence (nodes : List Node) : Node :=
  match (nodes.flatMap parts).foldr addFront [] with
  | [] => empty
  | [a] => a
  | parts => sequence parts

/-- What a pattern puts into a choice. -/
private def branches : Node → List Node
  | choice branches => branches
  | a => [a]

/-- The character that a pattern matches and nothing else. -/
private def char? : Node → Option Char
  | text [c] => some c
  | _ => none

/-- The set of which a pattern matches one character. -/
private def set? : Node → Option CharSet
  | chars set => some set
  | _ => none

/-- The set of which a choice matches one character: all its branches are
characters, or all are sets. -/
private def choiceSet? (nodes : List Node) : Option CharSet :=
  ((nodes.mapM char?).map fun chars => .ofCodePoints (chars.map Char.toNat)).or
    ((nodes.mapM set?).map .unions)

/-- The parts of a pattern that is a sequence. -/
private def sequence? : Node → Option (List Node)
  | sequence parts => some parts
  | _ => none

/-- The patterns in which two lists agree, up to the first in which they
do not. -/
private def agreement : List Node → List Node → List Node
  | a :: as, b :: bs => if a.same b then a :: agreement as bs else []
  | _, _ => []

/-- The parts that all branches begin with. -/
private def commonStart : List (List Node) → List Node
  | [] => []
  | first :: others => others.foldl agreement first

/-- The pattern that matches what any of the patterns matches. A start
that all have in common, if all are sequences, is taken out. The rests
have fewer nodes then, so the number of nodes bounds how often that can
be done. -/
private def ofChoiceWithin : Nat → List Node → Node
  | fuel, nodes =>
    match nodes.flatMap branches with
    | [] => chars .none
    | [a] => a
    | nodes =>
      match choiceSet? nodes, fuel, nodes.mapM sequence? with
      | some set, _, _ => ofSet set
      | none, fuel + 1, some sequences =>
        let start := commonStart sequences
        if start.isEmpty then choice nodes
        else
          let rests := sequences.map fun parts =>
            ofSequence (parts.drop start.length)
          ofSequence (start ++ [ofChoiceWithin fuel rests])
      | none, _, _ => choice nodes

/-- The pattern that matches what any of the patterns matches. -/
def ofChoice (nodes : List Node) : Node :=
  ofChoiceWithin (sizes nodes) nodes

/-- The pattern so many times in a row. To repeat what is empty more than
once makes no difference. -/
def ofRepetition (a : Node) (min : Nat) (max : Option Nat) : Node :=
  let (min, max) :=
    if a.isZeroWidth then (Nat.min min 1, some (Nat.min (max.getD 1) 1))
    else (min, max)
  if max == some 0 then empty
  else if min == 1 && max == some 1 then a
  else repeated a min max

end Node

end Coverage.Pattern
