/-
JSON texts between quotes. Inside the quotes stand bytes and escapes,
and one kind of escape gives a UTF-16 unit. Passing over a text checks
the escapes and refuses control characters. Reading it checks also that
units pair up to characters and that the whole is well-formed UTF-8.
-/
import Coverage.Json
import Coverage.Text.Utf8

namespace Coverage.Json.Quoted

/-- A piece of a text. -/
inductive Piece
  | byte (b : UInt8)
  /-- A UTF-16 unit, written by its number. -/
  | unit (n : Nat)

-- ============================================================ escapes

/-- The byte that stands for itself or for a control character behind a
backslash. -/
def escaped? (b : UInt8) : Option UInt8 :=
  let pairs := [('"', 0x22), ('\\', 0x5C), ('/', 0x2F), ('b', 0x08),
    ('f', 0x0C), ('n', 0x0A), ('r', 0x0D), ('t', 0x09)]
  (pairs.find? (·.1.toUInt8 == b)).map (·.2)

/-- The value of a hexadecimal digit. -/
def hexDigit? (b : UInt8) : Option Nat :=
  if '0'.toUInt8 ≤ b ∧ b ≤ '9'.toUInt8 then some (b.toNat - '0'.toNat)
  else if 'a'.toUInt8 ≤ b ∧ b ≤ 'f'.toUInt8 then
    some (b.toNat - 'a'.toNat + 10)
  else if 'A'.toUInt8 ≤ b ∧ b ≤ 'F'.toUInt8 then
    some (b.toNat - 'A'.toNat + 10)
  else none

/-- The unit that hexadecimal digits stand for. -/
def hexUnit? (digits : List UInt8) : Option Nat :=
  (digits.mapM hexDigit?).map (·.foldl (16 * · + ·) 0)

-- ============================================================ reading

/-- The unit comes first in a pair. -/
def isLeading (n : Nat) : Bool := 0xD800 ≤ n && n < 0xDC00

/-- The unit comes second in a pair. -/
def isTrailing (n : Nat) : Bool := 0xDC00 ≤ n && n < 0xE000

/-- The character of a pair of units. -/
def pair (leading trailing : Nat) : Char :=
  Char.ofNat (0x10000 + (leading - 0xD800) * 0x400 + (trailing - 0xDC00))

/-- The bytes of a text, behind bytes found before, which are in
reverse. `cut` is what ends the text in place of a quote. -/
def bytesOnto (found : List UInt8) (cut : Option Fault) :
    List Piece → Except Fault (List UInt8)
  | [] => orFault cut found.reverse
  | .byte b :: rest => bytesOnto (b :: found) cut rest
  | .unit n :: rest =>
    if isTrailing n then .error malformed
    else if isLeading n then
      match rest with
      | [] => .error (cut.getD malformed)
      | .byte _ :: _ => .error malformed
      | .unit m :: rest =>
        if isTrailing m then
          bytesOnto ((String.utf8EncodeChar (pair n m)).reverseAux found) cut
            rest
        else .error malformed
    else
      bytesOnto ((String.utf8EncodeChar (Char.ofNat n)).reverseAux found) cut
        rest

/-- The text that pieces make up. -/
def text (pieces : List Piece) (cut : Option Fault) :
    Except Fault String := do
  match Text.Utf8.decode? (← bytesOnto [] cut pieces) with
  | some cs => return String.ofList cs
  | none => .error malformed

/-- The text that pieces make up, as a scalar. -/
def scalar (pieces : List Piece) (cut : Option Fault) : Scalar String where
  read := text pieces cut
  skip := cut

end Coverage.Json.Quoted
