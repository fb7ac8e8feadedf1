/-
The tracefile format of lcov. Records:

    SF:<path of a source file>
    FN:<line>,<name>
    FN:<line>,<end line>,<name>
    FNDA:<hits>,<name>
    DA:<line>,<hits>[,<checksum>]
    BRDA:<line>,<block>,<branch>,<taken>
    end_of_record

Test names and the summary records are ignored, since the totals follow
from the data. White space at the end of a line is not part of it. With
a source root, the paths of files under it are kept relative to it.
-/
import Coverage.Record
import Coverage.SourcePath
import Coverage.Text.Blank
import Coverage.Tracefile

namespace Coverage.Lcov

open Record

/-- Reads where a function starts: its name and line. An end line has to
be a number, and is not kept. -/
def readFunctionStart (payload : List Char) :
    Except Fault (String × Nat) :=
  match fields payload with
  | [start, name] => do
    let start ← readNumber .functionStart payload .startLine start
    return (String.ofList name, start)
  | [start, last, name] => do
    let _ ← readNumber .functionStart payload .endLine last
    let start ← readNumber .functionStart payload .startLine start
    return (String.ofList name, start)
  | _ => .error (wrongFieldCount .functionStart payload [2, 3])

/-- Reads how often a function ran: its name and hits. -/
def readFunctionHits (payload : List Char) :
    Except Fault (String × Count) :=
  match fields payload with
  | [hits, name] => do
    let hits ← readCount .functionHits payload .hitCount hits
    return (String.ofList name, hits)
  | _ => .error (wrongFieldCount .functionHits payload [2])

/-- Reads how often a line ran: the line and its hits. -/
def readLineHits : List Char → Except Fault (Nat × Count) :=
  Record.readLineHits .lineHits

/-- Reads how a branch went: its line and outcome. A hyphen means that
the branch was never reached, which counts as not taken. -/
def readBranchHits (payload : List Char) :
    Except Fault (Nat × BranchStatus) :=
  match fields payload with
  | [line, _, _, taken] => do
    let line ← readNumber .branchHits payload .lineNumber line
    if taken = ['-'] then return (line, .notTaken)
    let taken ← readCount .branchHits payload .takenCount taken
    return (line, if taken.isHit then .taken else .notTaken)
  | _ => .error (wrongFieldCount .branchHits payload [4])

/-- The name under which a source file is kept. -/
def sourceName (root : Option (List Char)) (path : List Char) : String :=
  String.ofList
    ((root.bind (SourcePath.relativeTo? · path)).getD path)

/-- Reads a line. -/
def item (root : Option (List Char)) (line : List Char) :
    Except Fault Tracefile.Item :=
  let (kind, payload) := Record.split (Text.trimEnd Text.isBlank line)
  if kind = "SF".toList then .ok (.file (sourceName root payload))
  else if kind = "FN".toList then do
    let (name, start) ← readFunctionStart payload
    return .datum .functionStart (.function name start 0)
  else if kind = "FNDA".toList then do
    let (name, hits) ← readFunctionHits payload
    return .datum .functionHits (.function name 0 hits)
  else if kind = "DA".toList then do
    let (line, hits) ← readLineHits payload
    return .datum .lineHits (.line line hits)
  else if kind = "BRDA".toList then do
    let (line, status) ← readBranchHits payload
    return .datum .branchHits (.branch line status)
  else if kind = "end_of_record".toList then .ok .endOfFile
  else .ok .ignored

/-- The reader of the format, with an optional source root. -/
def reader (root : Option (List Char)) : LineReader (Option String) :=
  Tracefile.reader (item root)

/-- What a byte stream in this format asks for. -/
def decode (root : Option (List Char)) (s : ByteStream) : Journal :=
  (reader root).decode s

end Coverage.Lcov
