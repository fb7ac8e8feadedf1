/-
Prefix codes, given by the lengths of their words. Among words of one
length the symbols go up, and a shorter word comes before every longer
one. That fixes the code.

The tree of a code is built from the longest words up. On each level the
words that end there stand before the branches that lead further down,
and two neighbours make one branch of the level above.
-/
import Coverage.Deflate.Bits

namespace Coverage.Deflate

/-- A prefix code. Each bit chooses a branch, and the word ends at a
symbol. -/
inductive PrefixCode
  /-- No word of the code leads here. -/
  | hole
  | symbol (n : Nat)
  | branch (zero one : PrefixCode)

namespace PrefixCode

/-- Words are no longer than this. -/
def maxLength : Nat := 15

/-- The symbols whose words have that length. A symbol of length zero
has no word. -/
def symbolsOfLength (lengths : List Nat) (n : Nat) : List Nat :=
  (lengths.zipIdx.filter (·.1 = n)).map (·.2)

/-- Makes branches of neighbours. -/
def pairUp : List PrefixCode → List PrefixCode
  | a :: b :: rest => .branch a b :: pairUp rest
  | [a] => [.branch a .hole]
  | [] => []

/-- The code without a word. It takes a bit to see that none begins. -/
def wordless : PrefixCode := .branch .hole .hole

/-- The code with words of these lengths. -/
def ofLengths (lengths : List Nat) : PrefixCode :=
  let top := (List.range' 1 maxLength).foldr
    (fun n below => pairUp ((symbolsOfLength lengths n).map .symbol ++ below))
    []
  top.headD wordless

/-- The share of all words of the greatest length that these words take
up. -/
def weight (lengths : List Nat) : Nat :=
  (lengths.filter (· != 0)).foldl
    (fun sum n => sum + (1 <<< (maxLength - n))) 0

/-- No word is missing, and none is one too many. -/
def isComplete (lengths : List Nat) : Bool :=
  weight lengths == 1 <<< maxLength

/-- No symbol has a word, or a single one has, and that of one bit. -/
def isTrivial (lengths : List Nat) : Bool :=
  match lengths.filter (· != 0) with
  | [] => true
  | [n] => n == 1
  | _ => false

/-- Takes a word. -/
def take : PrefixCode → List Bool → Except Stop (Nat × List Bool)
  | .symbol n, rest => .ok (n, rest)
  | .hole, _ => .error .corrupt
  | .branch .., [] => .error .truncated
  | .branch zero one, b :: rest =>
    if b then one.take rest else zero.take rest

end PrefixCode

end Coverage.Deflate
