/-
JSON numbers. A number is an optional minus sign, digits without a
superfluous leading zero, an optional fraction and an optional
exponent. Passing over a number checks this grammar only. Reading it
checks also that it fits into a binary floating-point number, and tells
an unfinished number from a wrong one.

The check of the size gathers digits into a significand of 64 bits.
Whole digits that no longer fit move the exponent, fraction digits that
no longer fit are dropped.
-/
import Coverage.Json

namespace Coverage.Json.Number

-- =========================================================== grammar

/-- The sign and the digits of an exponent. -/
structure Exponent where
  negative : Bool
  digits : List Nat

/-- A number as it is written. -/
structure Numeral where
  negative : Bool
  /-- The digits before the point. -/
  whole : List Nat
  /-- The digits behind the point; none if there is no point. -/
  fraction : List Nat
  exponent : Option Exponent

/-- How the bytes of a number fail to be one. -/
inductive Break
  /-- They are used up where a digit must follow. -/
  | unfinished
  /-- Something else stands where a digit must. -/
  | wrong

/-- The byte is a digit. -/
def isDigit (b : UInt8) : Bool := '0'.toUInt8 ≤ b && b ≤ '9'.toUInt8

/-- The byte can occur in a number. -/
def isNumberByte (b : UInt8) : Bool :=
  isDigit b || ['-', '+', '.', 'e', 'E'].any (·.toUInt8 == b)

/-- Takes digits, at least one. -/
def takeDigits (bytes : List UInt8) :
    Except Break (List Nat × List UInt8) :=
  let digits := bytes.takeWhile isDigit
  let rest := bytes.dropWhile isDigit
  if digits.isEmpty then
    .error (if rest.isEmpty then .unfinished else .wrong)
  else .ok (digits.map fun b => b.toNat - '0'.toNat, rest)

/-- Takes a minus sign if one stands there. -/
def takeMinus : List UInt8 → Bool × List UInt8
  | b :: rest =>
    if b == '-'.toUInt8 then (true, rest) else (false, b :: rest)
  | [] => (false, [])

/-- Takes the digits before the point. -/
def takeWhole (bytes : List UInt8) :
    Except Break (List Nat × List UInt8) := do
  match ← takeDigits bytes with
  | (0 :: _ :: _, _) => .error .wrong
  | found => return found

/-- Takes the fraction if there is one. -/
def takeFraction : List UInt8 → Except Break (List Nat × List UInt8)
  | b :: rest =>
    if b == '.'.toUInt8 then takeDigits rest else .ok ([], b :: rest)
  | [] => .ok ([], [])

/-- Takes the sign of an exponent if one stands there. -/
def takeSign : List UInt8 → Bool × List UInt8
  | b :: rest =>
    if b == '+'.toUInt8 then (false, rest) else takeMinus (b :: rest)
  | [] => (false, [])

/-- Takes the exponent if there is one. -/
def takeExponent : List UInt8 →
    Except Break (Option Exponent × List UInt8)
  | b :: rest =>
    if b == 'e'.toUInt8 || b == 'E'.toUInt8 then do
      let (negative, rest) := takeSign rest
      let (digits, rest) ← takeDigits rest
      return (some ⟨negative, digits⟩, rest)
    else .ok (none, b :: rest)
  | [] => .ok (none, [])

/-- Takes a number. -/
def take (bytes : List UInt8) : Except Break (Numeral × List UInt8) := do
  let (negative, rest) := takeMinus bytes
  let (whole, rest) ← takeWhole rest
  let (fraction, rest) ← takeFraction rest
  let (exponent, rest) ← takeExponent rest
  return (⟨negative, whole, fraction, exponent⟩, rest)

-- ============================================================= value

/-- The number that digits stand for, behind a number read before. -/
def ofDigits (before : Nat) (digits : List Nat) : Nat :=
  digits.foldl (fun n d => 10 * n + d) before

/-- Appends digits to a significand as long as it fits into 64 bits, and
returns what did not fit. -/
def gather (significand : Nat) : List Nat → Nat × List Nat
  | [] => (significand, [])
  | d :: rest =>
    let next := 10 * significand + d
    if next ≤ Count.limit then gather next rest
    else (significand, d :: rest)

namespace Numeral

/-- The significand and the power of ten that goes with it, before the
written exponent is taken into account. -/
def scaled (n : Numeral) : Nat × Int :=
  let (significand, extra) := gather 0 n.whole
  let (significand, dropped) := gather significand n.fraction
  (significand,
    (extra.length : Int) - (n.fraction.length - dropped.length : Nat))

/-- The written exponent. -/
def exponentValue (n : Numeral) : Int :=
  match n.exponent with
  | none => 0
  | some e =>
    if e.negative then -(ofDigits 0 e.digits) else ofDigits 0 e.digits

/-- The written exponent alone puts the number out of range. -/
def exponentTooLarge (n : Numeral) : Bool :=
  n.scaled.1 != 0 && decide (((1 <<< 31 : Nat) : Int) ≤ n.exponentValue)

/-- The number fits into a binary floating-point number. A significand
of 64 bits does, and so does every smaller number. -/
def inRange (n : Numeral) : Bool :=
  let (significand, power) := n.scaled
  let power := power + n.exponentValue
  if significand = 0 ∨ power ≤ 0 then true
  else if power ≤ 308 then
    let scale := Float.ofScientific 1 false power.toNat
    ! (significand.toUInt64.toFloat * scale).isInf
  else false

/-- The value of a number that is written without sign, fraction and
exponent, if it fits into 64 bits. -/
def natural? (n : Numeral) : Option Nat :=
  let value := ofDigits 0 n.whole
  if ! n.negative && n.fraction.isEmpty && n.exponent.isNone
      && value ≤ Count.limit then some value
  else none

end Numeral

-- =========================================================== scalars

/-- What follows the bytes of a number. -/
inductive Follow
  /-- A byte that cannot occur in numbers. -/
  | byte
  /-- The end of the stream, or its failure. -/
  | streamEnd (failure : Option InputFault)

/-- What is wrong with a number that breaks off. `atEnd` is said of one
that is unfinished at the end of the stream. -/
def Break.fault (atEnd : JsonFault) : Break → Follow → Fault
  | .unfinished, .streamEnd failure => Fault.atEnd failure atEnd
  | _, _ => malformed

/-- A number that is known to be complete. -/
def Numeral.scalar (n : Numeral) : Scalar (Option Nat) where
  read := if n.inRange then .ok n.natural? else .error malformed

/-- A number at which the stream fails: whether it goes on cannot be
known. -/
def Numeral.cutOff (n : Numeral) (failure : InputFault) :
    Scalar (Option Nat) where
  read := .error (if n.exponentTooLarge then malformed else .input failure)
  skip := some (.input failure)

/-- The number at the front of bytes that can occur in numbers, and
those of them that are left over. -/
def scan (bytes : List UInt8) (follow : Follow) :
    Scalar (Option Nat) × List UInt8 :=
  match take bytes, follow with
  | .error b, _ =>
    (⟨.error (b.fault .truncated follow), some (b.fault .malformed follow)⟩,
      [])
  | .ok (n, []), .streamEnd (some failure) => (n.cutOff failure, [])
  | .ok (n, rest), _ => (n.scalar, rest)

end Coverage.Json.Number
