/-
The intermediate text format of gcov. Records:

    file:<name>
    function:<start>,<hits>,<name>
    function:<start>,<end>,<hits>,<name>
    lcount:<line>,<hits>[,<has unexecuted block>]
    branch:<line>,<taken|nottaken|notexec>

A function record is read from both ends: the hit count is always the
last field but one, the name the last. Every other record type is
ignored.
-/
import Coverage.Record
import Coverage.Tracefile

namespace Coverage.Gcov

open Record

/-- What a function record says. -/
structure FunctionRecord where
  name : String
  start : Nat
  hits : Count
deriving DecidableEq

/-- Reads the payload of a function record. -/
def readFunction (payload : List Char) : Except Fault FunctionRecord :=
  match fields payload with
  | [start, hits, name] | [start, _, hits, name] => do
    let start ← readNumber .function payload .startLine start
    let hits ← readCount .function payload .hitCount hits
    return ⟨String.ofList name, start, hits⟩
  | _ => .error (wrongFieldCount .function payload [3, 4])

/-- Reads the payload of a line count: the line and its hits. -/
def readLine : List Char → Except Fault (Nat × Count) := readLineHits .lcount

/-- The outcome that a word stands for. -/
def status? (word : List Char) : Option BranchStatus :=
  if word = "taken".toList then some .taken
  else if word = "nottaken".toList then some .notTaken
  else if word = "notexec".toList then some .notExecuted
  else none

/-- Reads the payload of a branch: its line and its outcome. -/
def readBranch (payload : List Char) : Except Fault (Nat × BranchStatus) :=
  match fields payload with
  | [line, word] => do
    let line ← readNumber .branch payload .lineNumber line
    match status? word with
    | some status => return (line, status)
    | none => .error (.record .branch payload (.branchStatus word))
  | _ => .error (wrongFieldCount .branch payload [2])

/-- Reads a line. -/
def item (line : List Char) : Except Fault Tracefile.Item :=
  let (kind, payload) := Record.split line
  if kind = "file".toList then .ok (.file (String.ofList payload))
  else if kind = "function".toList then do
    let r ← readFunction payload
    return .datum .function (.function r.name r.start r.hits)
  else if kind = "lcount".toList then do
    let (line, hits) ← readLine payload
    return .datum .lcount (.line line hits)
  else if kind = "branch".toList then do
    let (line, status) ← readBranch payload
    return .datum .branch (.branch line status)
  else .ok .ignored

/-- The reader of the format. -/
def reader : LineReader (Option String) := Tracefile.reader item

/-- What a byte stream in this format asks for. -/
def decode (s : ByteStream) : Journal := reader.decode s

end Coverage.Gcov
