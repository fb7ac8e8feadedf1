/-
The words of a JSON text. The lexer takes one byte after the other; what
a byte means hangs only on the word that it stands in. After a fault no
word follows.
-/
import Coverage.Json.Number
import Coverage.Json.Quoted

namespace Coverage.Json

/-- A word of a JSON text. -/
inductive Token
  | openArray
  | closeArray
  | openObject
  | closeObject
  | comma
  | colon
  | null
  | bool (value : Bool)
  | number (value : Scalar (Option Nat))
  | string (value : Scalar String)
  /-- No word begins here, or one breaks off. -/
  | broken (fault : Fault)

/-- The word that a lexer is in. -/
inductive Lexer.Word
  /-- It is between words. -/
  | none
  /-- The rest of a known word must follow. -/
  | literal (rest : List UInt8) (token : Token)
  /-- Bytes of a number, in reverse. -/
  | number (bytes : List UInt8)
  /-- Pieces of a text, in reverse. -/
  | string (pieces : List Quoted.Piece)
  /-- Behind a backslash in a text. -/
  | escape (pieces : List Quoted.Piece)
  /-- Among the digits of a unit, in reverse, in a text. -/
  | unit (pieces : List Quoted.Piece) (digits : List UInt8)
  /-- There was a fault. -/
  | stopped

/-- The words found so far, in reverse, and the one that has begun. -/
structure Lexer where
  found : List Token
  word : Lexer.Word

namespace Lexer

/-- Before the first byte. -/
def start : Lexer := ⟨[], .none⟩

/-- Ends a word. -/
def push (found : List Token) (token : Token) : Lexer :=
  ⟨token :: found, .none⟩

/-- Ends the text at a fault. -/
def stop (found : List Token) (token : Token) : Lexer :=
  ⟨token :: found, .stopped⟩

/-- The bytes between words. -/
def isBlank (b : UInt8) : Bool :=
  [' ', '\n', '\r', '\t'].any (·.toUInt8 == b)

/-- The bytes of a word of the language. -/
def spell (word : String) : List UInt8 := word.toList.map Char.toUInt8

/-- Begins a word. -/
def begin (found : List Token) (b : UInt8) : Lexer :=
  if isBlank b then ⟨found, .none⟩
  else if b == '['.toUInt8 then push found .openArray
  else if b == ']'.toUInt8 then push found .closeArray
  else if b == '\x7b'.toUInt8 then push found .openObject
  else if b == '\x7d'.toUInt8 then push found .closeObject
  else if b == ','.toUInt8 then push found .comma
  else if b == ':'.toUInt8 then push found .colon
  else if b == '"'.toUInt8 then ⟨found, .string []⟩
  else if b == 'n'.toUInt8 then ⟨found, .literal (spell "ull") .null⟩
  else if b == 't'.toUInt8 then
    ⟨found, .literal (spell "rue") (.bool true)⟩
  else if b == 'f'.toUInt8 then
    ⟨found, .literal (spell "alse") (.bool false)⟩
  else if b == '-'.toUInt8 || Number.isDigit b then ⟨found, .number [b]⟩
  else stop found (.broken malformed)

/-- Ends a number. Bytes that could occur in numbers but do not belong
to this one are a fault of their own. -/
def endNumber (found : List Token) (bytes : List UInt8)
    (follow : Number.Follow) : Lexer :=
  let (value, rest) := Number.scan bytes.reverse follow
  if value.skip.isSome then stop found (.number value)
  else if rest.isEmpty then push found (.number value)
  else stop (.number value :: found) (.broken malformed)

/-- Takes a byte. -/
def step (l : Lexer) (b : UInt8) : Lexer :=
  match l.word with
  | .none => begin l.found b
  | .literal [] token => begin (token :: l.found) b
  | .literal (expected :: rest) token =>
    if b == expected then ⟨l.found, .literal rest token⟩
    else stop l.found (.broken malformed)
  | .number bytes =>
    if Number.isNumberByte b then ⟨l.found, .number (b :: bytes)⟩
    else
      let l := endNumber l.found bytes .byte
      match l.word with
      | .none => begin l.found b
      | _ => l
  | .string pieces =>
    if b == '"'.toUInt8 then
      push l.found (.string (Quoted.scalar pieces.reverse none))
    else if b == '\\'.toUInt8 then ⟨l.found, .escape pieces⟩
    else if b < 0x20 then
      stop l.found (.string (Quoted.scalar pieces.reverse (some malformed)))
    else ⟨l.found, .string (.byte b :: pieces)⟩
  | .escape pieces =>
    if b == 'u'.toUInt8 then ⟨l.found, .unit pieces []⟩
    else
      match Quoted.escaped? b with
      | some c => ⟨l.found, .string (.byte c :: pieces)⟩
      | none =>
        stop l.found
          (.string (Quoted.scalar pieces.reverse (some malformed)))
  | .unit pieces digits =>
    if digits.length < 3 then ⟨l.found, .unit pieces (b :: digits)⟩
    else
      match Quoted.hexUnit? (b :: digits).reverse with
      | some n => ⟨l.found, .string (.unit n :: pieces)⟩
      | none =>
        stop l.found
          (.string (Quoted.scalar pieces.reverse (some malformed)))
  | .stopped => l

/-- Ends the text where the stream ends. -/
def finish (l : Lexer) (failure : Option InputFault) : List Token :=
  let cut := Fault.atEnd failure .truncated
  let l :=
    match l.word with
    | .none | .stopped => l
    | .literal [] token => push l.found token
    | .literal (_ :: _) _ => stop l.found (.broken cut)
    | .number bytes => endNumber l.found bytes (.streamEnd failure)
    | .string pieces | .escape pieces | .unit pieces _ =>
      stop l.found (.string (Quoted.scalar pieces.reverse (some cut)))
  l.found.reverse

end Lexer

/-- The words of a stream. -/
def tokens (s : ByteStream) : List Token :=
  (s.bytes.foldl Lexer.step .start).finish s.failure

end Coverage.Json
