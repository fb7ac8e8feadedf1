/-
The gzip format: a header, deflated data, and a trailer with the
checksum and the length of what was deflated. Only the first member of a
file counts; what follows its trailer is not looked at.

Decompression is lazy, and a reader that has seen enough never learns
what comes later, so the result is a stream with its failure behind the
bytes. Data that ends too early is delivered as far as it goes, and so
is data that a failure of the file cuts short. Corrupt data is found out
window by window: a window in which it turns out to be corrupt is not
delivered. A window is cut short where a piece of the file ends, if the
file is read in pieces.
-/
import Coverage.ByteStream
import Coverage.Deflate
import Coverage.Gzip.Checksum

namespace Coverage.Gzip

-- ============================================================= header

/-- Takes `n` bytes. -/
def takeBytes (n : Nat) (bytes : List UInt8) :
    Except InputFault (List UInt8 × List UInt8) :=
  if bytes.length < n then .error .unexpectedEnd else .ok (bytes.splitAt n)

/-- The number that bytes stand for, the lowest byte in front. -/
def number (bytes : List UInt8) : Nat :=
  bytes.foldr (fun b high => b.toNat + 256 * high) 0

/-- Texts in a header are no longer than this. -/
def maxTextLength : Nat := 65535

/-- Passes over a text and the zero that ends it; `room` is how long it
may still be. -/
def skipText : Nat → List UInt8 → Except InputFault (List UInt8)
  | _, [] => .error .unexpectedEnd
  | room, b :: rest =>
    if b = 0 then .ok rest
    else
      match room with
      | 0 => .error .badHeader
      | room + 1 => skipText room rest

/-- Passes over a field that starts with its length. -/
def skipSized (bytes : List UInt8) : Except InputFault (List UInt8) := do
  let (size, rest) ← takeBytes 2 bytes
  let (_, rest) ← takeBytes (number size) rest
  return rest

/-- The parts of a header that may be there, by their flags. -/
structure Flags where
  checksum : Bool
  extra : Bool
  name : Bool
  comment : Bool
  /-- A flag without a meaning is set. -/
  unknown : Bool

/-- The flags in a byte. -/
def Flags.ofByte (b : UInt8) : Flags where
  checksum := b.toNat.testBit 1
  extra := b.toNat.testBit 2
  name := b.toNat.testBit 3
  comment := b.toNat.testBit 4
  unknown := decide (0x20 ≤ b)

/-- Passes over the parts behind the fixed ones of a header. -/
def skipParts (flags : Flags) (rest : List UInt8) :
    Except InputFault (List UInt8) := do
  let rest ← if flags.extra then skipSized rest else pure rest
  let rest ← if flags.name then skipText maxTextLength rest else pure rest
  if flags.comment then skipText maxTextLength rest else pure rest

/-- Passes over the header. If it holds a checksum, this must be the
lower half of the one of the header before it. -/
def skipHeader (bytes : List UInt8) : Except InputFault (List UInt8) := do
  let (fixed, rest) ← takeBytes 10 bytes
  let flags := Flags.ofByte (fixed.getD 3 0)
  if fixed.take 3 ≠ [0x1F, 0x8B, 8] ∨ flags.unknown then .error .badHeader
  let rest ← skipParts flags rest
  if flags.checksum then
    let header := bytes.take (bytes.length - rest.length)
    let (stored, rest) ← takeBytes 2 rest
    if number stored = (checksum header).toNat % 0x10000 then return rest
    else .error .badHeader
  else return rest

-- ============================================================== data

/-- Judges the trailer of data. -/
def checkTrailer (data trailer : List UInt8) : Option InputFault :=
  match takeBytes 8 trailer with
  | .error fault => some fault
  | .ok (stored, _) =>
    if number (stored.take 4) = (checksum data).toNat
        ∧ number (stored.drop 4) = data.length % 0x100000000 then none
    else some .checksumMismatch

/-- Decompressed data is looked through in windows of this size. -/
def windowSize : Nat := 32768

/-- How many bytes are in whole windows if there are `n` bytes, as long
as a further byte follows them. -/
def inWholeWindows (n : Nat) : Nat := (n - 1) / windowSize * windowSize

/-- What is in the first `size` bytes of a file, if it is not corrupt;
the data follows a header of `start` bytes. -/
def expandFirst? (bytes : List UInt8) (start size : Nat) : Option Nat :=
  let p := Deflate.expand ((bytes.take size).drop start)
  match p.rest with
  | .error .corrupt => none
  | _ => some p.out.size

/-- How many bytes are in the pieces of a corrupt file in front of the
one where it turns out to be corrupt. -/
def inSoundPieces (bytes : List UInt8) (start pieceSize : Nat) : Nat :=
  let count := bytes.length / pieceSize
  ((List.range (count + 1)).reverse.findSome? fun k =>
    expandFirst? bytes start (k * pieceSize)).getD 0

/-- Decompresses bytes, which come in pieces of that size, or else at
once. -/
def expand (bytes : List UInt8) (pieceSize : Option Nat) : ByteStream :=
  match skipHeader bytes with
  | .error fault => .failed fault
  | .ok body =>
    let start := bytes.length - body.length
    let p := Deflate.expand body
    let data := p.out.toList
    match p.rest with
    | .error .truncated => ⟨data, some .unexpectedEnd⟩
    | .error .corrupt =>
      let sound := (pieceSize.map (inSoundPieces bytes start)).getD 0
      let delivered := max sound (inWholeWindows data.length)
      ⟨data.take delivered, some .corruptData⟩
    | .ok rest =>
      ⟨data, checkTrailer data (body.drop (body.length - rest.length / 8))⟩

/-- Decompresses a file. Where its bytes run out too early, what made
them run out is the failure. -/
def decompress (s : ByteStream) (pieceSize : Option Nat) : ByteStream :=
  let out := expand s.bytes pieceSize
  if out.failure = some .unexpectedEnd then
    ⟨out.bytes, some (s.failure.getD .unexpectedEnd)⟩
  else out

end Coverage.Gzip
