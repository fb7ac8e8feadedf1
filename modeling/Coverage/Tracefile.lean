/-
Tracefiles: line-oriented formats in which a marker names a file and the
records after it are about that file. What a line says is an item, and
the two tracefile formats differ only in how a line becomes an item.
Here is the common part: which file an item is about.

A record about a file is judged before it is asked which file it is
about, so a malformed record is reported as such even when no file was
named.
-/
import Coverage.LineReader

namespace Coverage.Tracefile

/-- What one line of a tracefile says. -/
inductive Item
  /-- From here on, records are about this file. -/
  | file (name : String)
  /-- From here on, records are about no file. -/
  | endOfFile
  /-- Something about the current file. -/
  | datum (kind : RecordKind) (datum : Datum)
  /-- Nothing that is of use here. -/
  | ignored
deriving DecidableEq

/-- Takes an item, with the current file as state. -/
def step (current : Option String) :
    Item → Except Fault (Option String × List Edit)
  | .file name => .ok (some name, [.touch name])
  | .endOfFile => .ok (none, [])
  | .ignored => .ok (current, [])
  | .datum kind datum =>
    match current with
    | some file => .ok (current, [.add file datum])
    | none => .error (.orphan kind)

/-- The reader of a tracefile format, from its way to read a line. -/
def reader (item : List Char → Except Fault Item) :
    LineReader (Option String) where
  start := none
  read current line := item line >>= step current

end Coverage.Tracefile
