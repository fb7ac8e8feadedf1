/-
Everything that can go wrong, as causes. A fault says what happened and
to which text; its wording is in one place, `Fault.message`, which
nothing else depends on. The faults of single integer fields live with
the numerals, those of a whole record are a `Defect` of that record.
-/
import Coverage.Text.Numeral

namespace Coverage

-- ===================================================== input failures

/-- Why bytes could not be had. -/
inductive InputFault
  /-- There is nothing at the path. -/
  | notFound
  /-- The path leads through something that is no directory. -/
  | notADirectory
  /-- A path was empty where one is needed. -/
  | emptyPath
  /-- A path holds a zero byte. -/
  | zeroInPath
  /-- Compressed data does not begin with a proper header. -/
  | badHeader
  /-- Compressed data does not follow the compression format. -/
  | corruptData
  /-- Decompressed data does not match its checksum or length. -/
  | checksumMismatch
  /-- The data ends too early. -/
  | unexpectedEnd
  /-- Anything else, in the words of the system. -/
  | other (detail : String)
deriving DecidableEq, Repr

/-- Coarse classes of input failures. -/
inductive InputFault.Kind
  | notFound
  | notADirectory
  | invalidInput
  | unexpectedEof
  | other
deriving DecidableEq, Repr

namespace InputFault

/-- The class of a failure. -/
def kind : InputFault → Kind
  | .notFound => .notFound
  | .notADirectory => .notADirectory
  | .emptyPath | .zeroInPath | .badHeader | .corruptData
  | .checksumMismatch => .invalidInput
  | .unexpectedEnd => .unexpectedEof
  | .other _ => .other

/-- The wording of a failure. -/
def message : InputFault → String
  | .notFound => "No such file or directory (os error 2)"
  | .notADirectory => "Not a directory (os error 20)"
  | .emptyPath => "cannot make an empty path absolute"
  | .zeroInPath => "file name contained an unexpected NUL byte"
  | .badHeader => "invalid gzip header"
  | .corruptData => "corrupt deflate stream"
  | .checksumMismatch =>
    "corrupt gzip stream does not have a matching checksum"
  | .unexpectedEnd => "unexpected end of file"
  | .other detail => detail

end InputFault

/-- How a JSON document fails. -/
inductive JsonFault
  /-- The text is not JSON. -/
  | malformed
  /-- The text ends before the document does. -/
  | truncated
  /-- The document is JSON so far, but not of the shape that is wanted. -/
  | misshapen
deriving DecidableEq, Repr

/-- The wording of a JSON failure. -/
def JsonFault.message : JsonFault → String
  | .malformed => "not a JSON text"
  | .truncated => "the document ends too early"
  | .misshapen => "the document has an unexpected shape"

-- =================================================== malformed records

/-- The kinds of records that can be malformed or out of place. -/
inductive RecordKind
  | function
  | lcount
  | branch
  | functionStart
  | functionHits
  | lineHits
  | branchHits
  | block
  | segment
deriving DecidableEq, Repr

/-- The record type as it is written. -/
def RecordKind.name : RecordKind → String
  | .function => "function"
  | .lcount => "lcount"
  | .branch => "branch"
  | .functionStart => "FN"
  | .functionHits => "FNDA"
  | .lineHits => "DA"
  | .branchHits => "BRDA"
  | .block => "block"
  | .segment => "segment"

/-- What an integer field stands for. -/
inductive FieldRole
  | startLine
  | endLine
  | lineNumber
  | line
  | column
  | hitCount
  | takenCount
  | statementCount
deriving DecidableEq, Repr

/-- The words for a field. -/
def FieldRole.name : FieldRole → String
  | .startLine => "start line"
  | .endLine => "end line"
  | .lineNumber => "line number"
  | .line => "line"
  | .column => "column"
  | .hitCount => "hit count"
  | .takenCount => "taken count"
  | .statementCount => "statement count"

/-- The separators of a block line, in the order in which they are
looked for. -/
inductive BlockSeparator
  | afterFile
  | afterStart
  | afterEnd
  | afterStatements
deriving DecidableEq, Repr

/-- The words for a separator. -/
def BlockSeparator.name : BlockSeparator → String
  | .afterFile => "':'"
  | .afterStart => "','"
  | .afterEnd => "' ' after position"
  | .afterStatements => "' ' after statement count"

/-- What is wrong with a record. -/
inductive Defect
  /-- There are `found` fields, but only the numbers listed are right. -/
  | fieldCount (expected : List Nat) (found : Nat)
  /-- A field is not an integer of its range. -/
  | integer (role : FieldRole) (text : List Char)
      (problem : Text.Numeral.Problem)
  /-- A branch has an outcome that is none of the known ones. -/
  | branchStatus (text : List Char)
  /-- A separator of a block line is missing. -/
  | separator (which : BlockSeparator)
  /-- A position has no point between line and column. -/
  | positionPoint (text : List Char)
  /-- A block touches too many lines. -/
  | blockSpan
  /-- A region between two segments touches more than `limit` lines. -/
  | regionSpan (first last limit : Nat)
  /-- A function names no file. -/
  | noFilenames
  /-- A function has no region to start at. -/
  | noRegions
  /-- A function starts at a line that is out of range. -/
  | startLineRange
deriving DecidableEq, Repr

/-- A text between apostrophes. -/
def quotedText (text : List Char) : String :=
  "'" ++ String.ofList text ++ "'"

/-- The wording of a defect. -/
def Defect.message : Defect → String
  | .fieldCount expected found =>
    "expected " ++ " or ".intercalate (expected.map Nat.repr)
      ++ " fields, found " ++ found.repr
  | .integer role text problem =>
    "invalid " ++ role.name ++ " " ++ quotedText text ++ ": "
      ++ problem.message
  | .branchStatus text =>
    "unrecognized branch status " ++ quotedText text
  | .separator which => "could not find separator " ++ which.name
  | .positionPoint text => "missing '.' in position " ++ quotedText text
  | .blockSpan => "block spans too many lines"
  | .regionSpan first last limit =>
    "region " ++ first.repr ++ ".." ++ last.repr ++ " spans more than "
      ++ limit.repr ++ " lines"
  | .noFilenames => "no filenames"
  | .noRegions => "no regions"
  | .startLineRange =>
    "invalid start line: " ++ Text.Numeral.Problem.tooLarge.message

-- ============================================================ faults

/-- Why coverage data could not be taken in or worked on. -/
inductive Fault
  /-- The bytes of an input could not be had. -/
  | input (cause : InputFault)
  /-- A JSON document could not be read. -/
  | json (cause : JsonFault)
  /-- A record is malformed. -/
  | record (kind : RecordKind) (payload : List Char) (defect : Defect)
  /-- A record about a file comes before any file is named. -/
  | orphan (kind : RecordKind)
  /-- A profile does not begin with its mode. -/
  | missingMode
  /-- An export is of another type. -/
  | exportType (found : List Char)
  /-- No format has this file extension. -/
  | unknownExtension (extension : List Char)
  /-- No format has this name. -/
  | unknownFormat (name : String)
  /-- Lines cannot be derived because the file has some already. -/
  | linesPresent (file : String)
  /-- A fault, with the path of the input it happened in. -/
  | inInput (path : String) (cause : Fault)
deriving DecidableEq, Repr

/-- The wording of a fault. -/
def Fault.message : Fault → String
  | .input cause => "I/O error: " ++ cause.message
  | .json cause => "JSON error: " ++ cause.message
  | .record kind payload defect =>
    "can't parse " ++ kind.name ++ " record " ++ quotedText payload
      ++ ": " ++ defect.message
  | .orphan kind => kind.name ++ " record appears before any file record"
  | .missingMode => "format error: missing mode record"
  | .exportType found =>
    "incorrect type for JSON data from LLVM: " ++ quotedText found
  | .unknownExtension extension =>
    "unrecognized file extension: " ++ quotedText extension
  | .unknownFormat name =>
    "unknown format: '" ++ name
      ++ "'. Supported: gcov, lcov, gcov-json, llvm, go"
  | .linesPresent file =>
    "cannot convert region data for '" ++ file
      ++ "': line data is already present"
  | .inInput path _ =>
    "can't load coverage data from '" ++ path ++ "'"

/-- The wordings of a fault and of what caused it, each followed by its
own cause. -/
def Fault.chain (fault : Fault) : List String :=
  fault.message
    :: match fault with
      | .input cause => [cause.message]
      | .json cause => [cause.message]
      | .inInput _ cause => cause.chain
      | _ => []

end Coverage
