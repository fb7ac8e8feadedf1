/-
The deflate format. Data is a sequence of blocks, the last of which is
marked. A block holds bytes as they are, or words of two prefix codes.
The first code has bytes, the end of the block, and lengths of copies;
behind a length comes the distance of the copy, in the second code. The
two codes are fixed, or they are described in front of the block.

A copy that begins before the data reads zeros there. Data that breaks
off has still said something, so what was decompressed is kept beside
the reason for the stop.
-/
import Coverage.Deflate.PrefixCode

namespace Coverage.Deflate

-- ============================================================= copies

/-- A range of numbers: its first one, and how many bits choose among
them. -/
structure Slot where
  first : Nat
  extra : Nat

/-- The slots from a number on with these widths, side by side. -/
def slotsFrom (first : Nat) : List Nat → List Slot
  | [] => []
  | extra :: rest => ⟨first, extra⟩ :: slotsFrom (first + (1 <<< extra)) rest

/-- Copy lengths. The greatest one has a slot of its own, besides a place
in the slot before. -/
def lengthSlots : List Slot :=
  slotsFrom 3
    ([0, 0, 0, 0] ++ (List.range 6).flatMap (List.replicate 4))
  ++ [⟨258, 0⟩]

/-- Copy distances. -/
def distanceSlots : List Slot :=
  slotsFrom 1 ([0, 0] ++ (List.range 14).flatMap (List.replicate 2))

/-- Takes a number from the slot at a place of the table. -/
def takeFromSlot (slots : List Slot) (place : Nat) (rest : List Bool) :
    Except Stop (Nat × List Bool) := do
  let some slot := slots[place]? | .error .corrupt
  let (offset, rest) ← takeNumber slot.extra rest
  return (slot.first + offset, rest)

/-- Appends bytes that stand `distance` before the end, one by one, so a
copy can read what it has just written. -/
def copy (distance : Nat) : Nat → Array UInt8 → Array UInt8
  | 0, out => out
  | n + 1, out =>
    let b :=
      if distance ≤ out.size then out.getD (out.size - distance) 0 else 0
    copy distance n (out.push b)

-- ============================================================== words

/-- The two codes of a block. -/
structure Codes where
  /-- Bytes, the end of the block, and lengths. -/
  main : PrefixCode
  distances : PrefixCode

/-- What stands in a block. -/
inductive Word
  | byte (b : UInt8)
  | blockEnd
  | copy (length distance : Nat)

/-- The symbol that ends a block. -/
def endSymbol : Nat := 256

namespace Codes

/-- Takes a word of a block. -/
def take (c : Codes) (rest : List Bool) : Except Stop (Word × List Bool) := do
  let (symbol, rest) ← c.main.take rest
  if symbol < endSymbol then return (.byte symbol.toUInt8, rest)
  else if symbol = endSymbol then return (.blockEnd, rest)
  else
    let (length, rest) ←
      takeFromSlot lengthSlots (symbol - endSymbol - 1) rest
    let (place, rest) ← c.distances.take rest
    let (distance, rest) ← takeFromSlot distanceSlots place rest
    return (.copy length distance, rest)

/-- The codes of blocks that do not describe theirs. -/
def fixed : Codes where
  main := .ofLengths
    (List.replicate 144 8 ++ List.replicate 112 9 ++ List.replicate 24 7
      ++ List.replicate 8 8)
  distances := .ofLengths (List.replicate 32 5)

end Codes

-- ======================================================== descriptions

/-- The order in which the lengths of the words for lengths are given. -/
def lengthOrder : List Nat :=
  [16, 17, 18, 0, 8, 7, 9, 6, 10, 5, 11, 4, 12, 3, 13, 2, 14, 1, 15]

/-- Takes `wanted` more word lengths, behind the ones found before,
which are in reverse. A length can be followed by how often it is
repeated; the fuel bounds the number of steps. -/
def takeLengths (code : PrefixCode) (wanted : Nat) :
    Nat → List Nat → List Bool → Except Stop (List Nat × List Bool)
  | 0, _, _ => .error .corrupt
  | fuel + 1, found, rest => do
    if found.length = wanted then return (found.reverse, rest)
    if wanted < found.length then .error .corrupt
    let (symbol, rest) ← code.take rest
    let again (value least width : Nat) :
        Except Stop (List Nat × List Bool) := do
      let (more, rest) ← takeNumber width rest
      takeLengths code wanted fuel
        (List.replicate (least + more) value ++ found) rest
    match symbol, found with
    | 16, [] => .error .corrupt
    | 16, last :: _ => again last 3 2
    | 17, _ => again 0 3 3
    | 18, _ => again 0 11 7
    | n, _ => takeLengths code wanted fuel (n :: found) rest

/-- The code with words of these lengths, if the format allows it: it is
complete, or has a single word of one bit, or none. -/
def usableCode (lengths : List Nat) : Except Stop PrefixCode :=
  if PrefixCode.isComplete lengths || PrefixCode.isTrivial lengths then
    .ok (.ofLengths lengths)
  else .error .corrupt

/-- Takes the description of the codes of a block. -/
def takeCodes (rest : List Bool) : Except Stop (Codes × List Bool) := do
  let (mainMore, rest) ← takeNumber 5 rest
  let (distanceMore, rest) ← takeNumber 5 rest
  let (orderMore, rest) ← takeNumber 4 rest
  let mainCount := 257 + mainMore
  let distanceCount := 1 + distanceMore
  if 286 < mainCount ∨ 30 < distanceCount then .error .corrupt
  let (widths, rest) ← takeNumbers 3 (4 + orderMore) rest
  let given := lengthOrder.zip widths
  let lengths := (List.range lengthOrder.length).map fun n =>
    (given.lookup n).getD 0
  if ! PrefixCode.isComplete lengths then .error .corrupt
  let wanted := mainCount + distanceCount
  let (lengths, rest) ←
    takeLengths (.ofLengths lengths) wanted (wanted + 1) [] rest
  let main ← usableCode (lengths.take mainCount)
  let distances ← usableCode (lengths.drop mainCount)
  return (⟨main, distances⟩, rest)

-- ============================================================= blocks

/-- What was decompressed, and the bits behind it or why that is all. -/
structure Progress where
  out : Array UInt8
  rest : Except Stop (List Bool)

/-- Decompresses words up to the end of their block. Each takes a bit at
least, so the number of bits is fuel enough. -/
def expandWords (c : Codes) : Nat → Array UInt8 → List Bool → Progress
  | 0, out, _ => ⟨out, .error .truncated⟩
  | fuel + 1, out, rest =>
    match c.take rest with
    | .error stop => ⟨out, .error stop⟩
    | .ok (.blockEnd, rest) => ⟨out, .ok rest⟩
    | .ok (.byte b, rest) => expandWords c fuel (out.push b) rest
    | .ok (.copy length distance, rest) =>
      expandWords c fuel (copy distance length out) rest

/-- Copies `n` bytes as they are. -/
def expandPlain : Nat → Array UInt8 → List Bool → Progress
  | 0, out, rest => ⟨out, .ok rest⟩
  | n + 1, out, rest =>
    match takeNumber 8 rest with
    | .error stop => ⟨out, .error stop⟩
    | .ok (b, rest) => expandPlain n (out.push b.toUInt8) rest

/-- Takes the length of a block of plain bytes. It is given twice, the
second time with all bits inverted. -/
def takePlainLength (rest : List Bool) : Except Stop (Nat × List Bool) := do
  let (length, rest) ← takeNumber 16 (align rest)
  let (inverted, rest) ← takeNumber 16 rest
  if length + inverted = 0xFFFF then return (length, rest)
  else .error .corrupt

/-- Decompresses a block behind its head; `kind` is its kind. -/
def expandBlock (kind : Nat) (out : Array UInt8) (rest : List Bool) :
    Progress :=
  match kind with
  | 0 =>
    match takePlainLength rest with
    | .error stop => ⟨out, .error stop⟩
    | .ok (length, rest) => expandPlain length out rest
  | 1 => expandWords .fixed (rest.length + 1) out rest
  | 2 =>
    match takeCodes rest with
    | .error stop => ⟨out, .error stop⟩
    | .ok (codes, rest) => expandWords codes (rest.length + 1) out rest
  | _ => ⟨out, .error .corrupt⟩

/-- Takes the head of a block: whether it is the last, and its kind. -/
def takeHead (rest : List Bool) :
    Except Stop ((Bool × Nat) × List Bool) := do
  let (last, rest) ← takeNumber 1 rest
  let (kind, rest) ← takeNumber 2 rest
  return ((last == 1, kind), rest)

/-- Decompresses blocks. Each takes a bit at least. -/
def expandBlocks : Nat → Array UInt8 → List Bool → Progress
  | 0, out, _ => ⟨out, .error .truncated⟩
  | fuel + 1, out, rest =>
    match takeHead rest with
    | .error stop => ⟨out, .error stop⟩
    | .ok ((last, kind), rest) =>
      let p := expandBlock kind out rest
      match p.rest with
      | .error _ => p
      | .ok rest => if last then p else expandBlocks fuel p.out rest

/-- Decompresses the data at the front of some bytes. -/
def expand (bytes : List UInt8) : Progress :=
  let all := bits bytes
  expandBlocks (all.length + 1) #[] all

end Coverage.Deflate
