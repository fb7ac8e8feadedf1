/-
Bytes as bits, the way deflate reads them: from the lowest bit of each
byte up. Numbers have their lowest bit in front. A step of the
decompression takes bits from the front and leaves the rest, or stops.
-/
namespace Coverage.Deflate

/-- Why compressed data cannot be read on. -/
inductive Stop
  /-- It ends too early. -/
  | truncated
  /-- It breaks the rules of the format. -/
  | corrupt
deriving DecidableEq, Repr

/-- The bits of a byte. -/
def byteBits (b : UInt8) : List Bool :=
  (List.range 8).map b.toNat.testBit

/-- The bits of bytes. -/
def bits (bytes : List UInt8) : List Bool := bytes.flatMap byteBits

/-- Takes a number of `n` bits. -/
def takeNumber : Nat → List Bool → Except Stop (Nat × List Bool)
  | 0, rest => .ok (0, rest)
  | _ + 1, [] => .error .truncated
  | n + 1, b :: rest => do
    let (high, rest) ← takeNumber n rest
    return (2 * high + b.toNat, rest)

/-- Takes `n` numbers of `width` bits each. -/
def takeNumbers (width : Nat) :
    Nat → List Bool → Except Stop (List Nat × List Bool)
  | 0, rest => .ok ([], rest)
  | n + 1, rest => do
    let (first, rest) ← takeNumber width rest
    let (others, rest) ← takeNumbers width n rest
    return (first :: others, rest)

/-- Drops what is left of a byte that has been begun. -/
def align (rest : List Bool) : List Bool := rest.drop (rest.length % 8)

end Coverage.Deflate
