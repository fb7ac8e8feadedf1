/-
Coverage profiles of the Go tools. The first line that is not blank
names the mode; each further one is a block:

    mode: <mode>
    <file>:<line>.<column>,<line>.<column> <statements> <count>

Separators are strict, exactly one space between the last fields, and
each separator is looked for behind the one before it. A block becomes
a region of its file; lines follow later from the regions.
-/
import Coverage.LineReader
import Coverage.Record
import Coverage.Text.Blank

namespace Coverage.GoProfile

open Record

/-- A place in a source file. -/
structure Position where
  line : Nat
  column : Nat
deriving DecidableEq, Repr

/-- A block of statements that run together. -/
structure Block where
  file : String
  first : Position
  last : Position
  /-- Number of statements in the block. -/
  statements : Nat
  /-- How often the block ran. -/
  count : Count
deriving DecidableEq

/-- The region of a block. -/
def Block.region (b : Block) : Region :=
  ⟨b.first.line, b.first.column, b.last.line, b.last.column⟩

/-- Reads a position, `<line>.<column>`. Faults name the whole line. -/
def readPosition (whole text : List Char) : Except Fault Position := do
  let some (line, column) := Text.splitFirst? '.' text
    | .error (.record .block whole (.positionPoint text))
  let line ← readNumber .block whole .line line
  let column ← readNumber .block whole .column column
  return ⟨line, column⟩

/-- Cuts text at a separator of a block line. -/
def cut (whole : List Char) (which : BlockSeparator) (sep : Char)
    (text : List Char) : Except Fault (List Char × List Char) :=
  match Text.splitFirst? sep text with
  | some parts => .ok parts
  | none => .error (.record .block whole (.separator which))

/-- Reads a block line. Blocks that touch too many lines are refused. -/
def readBlock (whole : List Char) : Except Fault Block := do
  let (file, rest) ← cut whole .afterFile ':' whole
  if file = [] then
    .error (.record .block whole (.separator .afterFile))
  let (first, rest) ← cut whole .afterStart ',' rest
  let (last, rest) ← cut whole .afterEnd ' ' rest
  let (statements, count) ← cut whole .afterStatements ' ' rest
  let first ← readPosition whole first
  let last ← readPosition whole last
  let statements ← readNumber .block whole .statementCount statements
  let count ← readCount .block whole .hitCount count
  let block : Block := ⟨String.ofList file, first, last, statements, count⟩
  if block.region.lineCount > Region.maxLines then
    .error (.record .block whole .blockSpan)
  return block

/-- The line says which mode the profile was taken in. -/
def isMode (line : List Char) : Bool := "mode:".toList.isPrefixOf line

/-- Reads a line; the state says whether the mode was seen. -/
def read (seenMode : Bool) (line : List Char) :
    Except Fault (Bool × List Edit) :=
  if line.all Text.isBlank then .ok (seenMode, [])
  else if seenMode then do
    let block ← readBlock line
    return (true, [.add block.file (.region block.region block.count)])
  else if isMode line then .ok (true, [])
  else .error .missingMode

/-- The reader of the format. A profile without a mode is none. -/
def reader : LineReader Bool where
  start := false
  read := read
  finish seenMode := if seenMode then none else some .missingMode

/-- What a byte stream in this format asks for. -/
def decode (s : ByteStream) : Journal := reader.decode s

end Coverage.GoProfile
