/-
Sets of characters, kept as ranges of code points. The ranges are in
order, and a gap is left between any two of them, so equal sets have
equal ranges. Surrogates are no characters; no complement contains them.
-/
import Coverage.Unicode.Ranges

namespace Coverage

open Unicode (Range)

/-- A set of characters. -/
structure CharSet where
  ranges : List Range
deriving DecidableEq, Repr

namespace CharSet

/-- The character is in the set. -/
def contains (s : CharSet) (c : Char) : Bool :=
  s.ranges.any (·.contains c.toNat)

-- ============================================================= ranges

/-- Joins ranges that are in order of their first ends, the first of
them given apart, until gaps are left between them. -/
private def join (r : Range) : List Range → List Range
  | [] => [r]
  | next :: rest =>
    if next.first ≤ r.last + 1 then
      join ⟨r.first, Nat.max r.last next.last⟩ rest
    else r :: join next rest

/-- The characters in any of the ranges. -/
def ofRanges (ranges : List Range) : CharSet :=
  match ranges.mergeSort fun a b => decide (a.first ≤ b.first) with
  | [] => ⟨[]⟩
  | r :: rest => ⟨join r rest⟩

/-- The characters with these code points. -/
def ofCodePoints (codePoints : List Nat) : CharSet :=
  ofRanges (codePoints.map Range.single)

/-- The set that a table lists. -/
def ofTable (rows : List String) : CharSet := ⟨Range.readAll rows⟩

/-- No character. -/
def none : CharSet := ⟨[]⟩

/-- The characters from the first to the last, both included. -/
def range (first last : Char) : CharSet := ⟨[⟨first.toNat, last.toNat⟩]⟩

/-- The set of one character. -/
def single (c : Char) : CharSet := range c c

/-- The set of the given characters. -/
def ofChars (chars : String) : CharSet :=
  ofCodePoints (chars.toList.map Char.toNat)

/-- The only character of a set of one. -/
def single? (s : CharSet) : Option Char :=
  match s.ranges with
  | [r] => if r.first = r.last then some (Char.ofNat r.first) else Option.none
  | _ => Option.none

-- ========================================================= operations

/-- The characters in either set. -/
def union (a b : CharSet) : CharSet := ofRanges (a.ranges ++ b.ranges)

/-- The characters in any of the sets. -/
def unions (sets : List CharSet) : CharSet := ofRanges (sets.flatMap ranges)

/-- The code points that are no characters. -/
def surrogates : CharSet := ⟨[⟨0xD800, 0xDFFF⟩]⟩

/-- The greatest code point. -/
def lastCodePoint : Nat := 0x10FFFF

/-- The gaps between ranges, from a code point on. -/
private def gapsFrom (next : Nat) : List Range → List Range
  | [] => if next ≤ lastCodePoint then [⟨next, lastCodePoint⟩] else []
  | r :: rest =>
    let gaps := gapsFrom (r.last + 1) rest
    if next < r.first then ⟨next, r.first - 1⟩ :: gaps else gaps

/-- The characters that are not in the set. -/
def complement (s : CharSet) : CharSet :=
  ⟨gapsFrom 0 (s.union surrogates).ranges⟩

/-- Every character. -/
def all : CharSet := complement none

/-- The characters in both sets. -/
def intersection (a b : CharSet) : CharSet :=
  complement (union (complement a) (complement b))

/-- The characters in the first set but not in the second. -/
def difference (a b : CharSet) : CharSet := intersection a (complement b)

/-- Negates the set if asked to. -/
def negateIf (negate : Bool) (s : CharSet) : CharSet :=
  if negate then complement s else s

end CharSet

end Coverage
