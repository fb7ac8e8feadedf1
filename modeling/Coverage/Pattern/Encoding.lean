/-
Sets of characters as an automaton over the bytes of UTF-8 reads them.
The characters of a range are cut into pieces such that each piece is
all sequences of bytes with the first byte in one range, the second in
another, and so on. The sequences of a set then make a tree, and the
subtrees that are the same can be shared.
-/
import Coverage.CharSet

namespace Coverage.Pattern

open Unicode (Range)

/-- Sequences of bytes, each byte in a range of its own. -/
abbrev ByteRanges := List Range

-- ============================================================= pieces

/-- The ranges of characters with an encoding of one length. Surrogates
have none. -/
def lengthClasses : List (Nat × Range) :=
  [(1, ⟨0, 0x7F⟩), (2, ⟨0x80, 0x7FF⟩), (3, ⟨0x800, 0xD7FF⟩),
    (3, ⟨0xE000, 0xFFFF⟩), (4, ⟨0x10000, 0x10FFFF⟩)]

/-- Cuts a range at the multiples of the block sizes, the smallest first,
such that a piece is part of a block or a row of whole blocks. -/
def cutAt : List Nat → Range → List Range
  | [], r => [r]
  | block :: blocks, r =>
    if r.first / block = r.last / block then [r]
    else
      let start := (r.first + block - 1) / block * block
      let stop := (r.last + 1) / block * block
      let head := if r.first < start then [⟨r.first, start - 1⟩] else []
      let last := r.last / block * block
      if start = last then head ++ [⟨start, r.last⟩]
      else
        let tail := if stop ≤ r.last then [⟨stop, r.last⟩] else []
        head ++ cutAt blocks ⟨start, stop - 1⟩ ++ tail

/-- The bytes of a code point, as many as given. -/
def bytesOf (length codePoint : Nat) : List Nat :=
  let continuation (k : Nat) : Nat := 0x80 + codePoint >>> (6 * k) % 0x40
  match length with
  | 2 => [0xC0 + codePoint >>> 6, continuation 0]
  | 3 => [0xE0 + codePoint >>> 12, continuation 1, continuation 0]
  | 4 =>
    [0xF0 + codePoint >>> 18, continuation 2, continuation 1, continuation 0]
  | _ => [codePoint]

/-- The sequences of bytes that encode the characters of a range. -/
def encodeRange (r : Range) : List ByteRanges :=
  lengthClasses.flatMap fun (length, all) =>
    let part : Range := ⟨Nat.max r.first all.first, Nat.min r.last all.last⟩
    if part.last < part.first then []
    else if length = 1 then [[part]]
    else
      (cutAt [0x40, 0x1000, 0x40000] part).map fun piece =>
        List.zipWith Range.mk (bytesOf length piece.first)
          (bytesOf length piece.last)

/-- The sequences of bytes that encode the characters of a set, in
order. -/
def encode (set : CharSet) : List ByteRanges := set.ranges.flatMap encodeRange

-- =============================================================== trees

/-- The branches of a tree of sequences: the ranges of the first byte, each
with the sequences that go on from it. -/
def branchesOf : List ByteRanges → List (Range × List ByteRanges)
  | [] => []
  | [] :: sequences => branchesOf sequences
  | (byte :: rest) :: sequences =>
    match branchesOf sequences with
    | (next, rests) :: others =>
      if next = byte then (byte, rest :: rests) :: others
      else (byte, [rest]) :: (next, rests) :: others
    | [] => [(byte, [rest])]

/-- Encodings are no longer than this. -/
def maxEncodingLength : Nat := 4

/-- The branches of a tree and of all its subtrees. -/
def branchCount : Nat → List ByteRanges → Nat
  | 0, _ => 0
  | depth + 1, sequences =>
    (branchesOf sequences).foldl
      (fun n (_, rests) => n + 1 + branchCount depth rests) 0

/-- A tree and its subtrees, each given by its sequences; the ends of
sequences are no trees. -/
def subtrees : Nat → List ByteRanges → List (List ByteRanges)
  | 0, _ => []
  | depth + 1, sequences =>
    match branchesOf sequences with
    | [] => []
    | branches =>
      sequences :: branches.flatMap fun (_, rests) => subtrees depth rests

end Coverage.Pattern
