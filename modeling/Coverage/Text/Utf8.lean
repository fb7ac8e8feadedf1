/-
Bytes as text. `Utf8.scan` cuts a sequence of bytes into characters and
ill-formed parts. An ill-formed part is as long as possible: the bytes
that could still have begun a character, or else a single byte. The
lenient reading puts U+FFFD in the place of each such part, the strict
one refuses the text.

The scan keeps the character that is being put together: how many
bytes it still needs, its value so far, and the interval in which the
next byte must lie. The interval is what keeps out overlong forms,
surrogates and values past U+10FFFF.
-/
namespace Coverage.Text.Utf8

/-- A character that has begun. -/
structure Partial where
  /-- Continuation bytes still to come, not counting the next one. -/
  after : Nat
  /-- The bits read so far. -/
  bits : Nat
  /-- The next byte is at least this. -/
  low : UInt8
  /-- The next byte is at most this. -/
  high : UInt8

/-- What a byte begins: a whole character, a partial one, or nothing. -/
inductive Start
  | whole (c : Char)
  | begun (p : Partial)
  | illFormed

/-- Judges a byte in first position. -/
def start (b : UInt8) : Start :=
  let n := b.toNat
  if n < 0x80 then .whole (Char.ofNat n)
  else if n < 0xC2 then .illFormed
  else if n < 0xE0 then .begun ⟨0, n - 0xC0, 0x80, 0xBF⟩
  else if n = 0xE0 then .begun ⟨1, 0, 0xA0, 0xBF⟩
  else if n = 0xED then .begun ⟨1, 0xD, 0x80, 0x9F⟩
  else if n < 0xF0 then .begun ⟨1, n - 0xE0, 0x80, 0xBF⟩
  else if n = 0xF0 then .begun ⟨2, 0, 0x90, 0xBF⟩
  else if n < 0xF4 then .begun ⟨2, n - 0xF0, 0x80, 0xBF⟩
  else if n = 0xF4 then .begun ⟨2, 4, 0x80, 0x8F⟩
  else .illFormed

/-- The scan so far: finished pieces, the latest first, and the
character that has begun. A piece is a character, or `none` for an
ill-formed part. -/
structure Scan where
  pieces : List (Option Char)
  pending : Option Partial

/-- Takes a byte in first position. -/
def Scan.begin (pieces : List (Option Char)) (b : UInt8) : Scan :=
  match start b with
  | .whole c => ⟨some c :: pieces, none⟩
  | .begun p => ⟨pieces, some p⟩
  | .illFormed => ⟨none :: pieces, none⟩

/-- Takes one byte. A byte that does not continue the character that
has begun ends it as ill-formed and is looked at anew. -/
def Scan.step (s : Scan) (b : UInt8) : Scan :=
  match s.pending with
  | none => .begin s.pieces b
  | some p =>
    if p.low ≤ b ∧ b ≤ p.high then
      let bits := 64 * p.bits + (b.toNat - 0x80)
      match p.after with
      | 0 => ⟨some (Char.ofNat bits) :: s.pieces, none⟩
      | more + 1 => ⟨s.pieces, some ⟨more, bits, 0x80, 0xBF⟩⟩
    else .begin (none :: s.pieces) b

/-- The pieces in order; a character cut off by the end is ill-formed. -/
def Scan.finish (s : Scan) : List (Option Char) :=
  match s.pending with
  | none => s.pieces.reverse
  | some _ => (none :: s.pieces).reverse

/-- Characters and ill-formed parts of the bytes, in order. -/
def scan (bytes : List UInt8) : List (Option Char) :=
  (bytes.foldl Scan.step ⟨[], none⟩).finish

/-- The character that stands for an ill-formed part. -/
def replacement : Char := '\uFFFD'

/-- Text of any bytes: ill-formed parts are replaced. -/
def decode (bytes : List UInt8) : List Char :=
  (scan bytes).map (·.getD replacement)

/-- Text of well-formed bytes only. -/
def decode? (bytes : List UInt8) : Option (List Char) :=
  (scan bytes).mapM id

end Coverage.Text.Utf8
