/-
Records, the unit of the line-oriented formats. A line is a record type,
a colon and a payload; a payload is a list of fields with commas between
them. There is no quoting, so both cuts are lossless: a payload may hold
further colons, and an empty payload is one empty field.

Integer fields come in two ranges: line numbers and the like below
`2 ^ 32`, and counts below `2 ^ 64`. A field that is none of its range
is a fault of the whole record, which is reported with its payload.
-/
import Coverage.Count
import Coverage.Fault
import Coverage.Text.Split

namespace Coverage.Record

/-- The record type and the payload of a line, cut at its first colon. A
line without a colon is all type. -/
def split (line : List Char) : List Char × List Char :=
  (Text.splitFirst? ':' line).getD (line, [])

/-- The fields of a payload, cut at every comma. -/
def fields (payload : List Char) : List (List Char) :=
  payload.splitOn ','

variable (kind : RecordKind) (payload : List Char)

/-- The fault of a record with the wrong number of fields. -/
def wrongFieldCount (expected : List Nat) : Fault :=
  .record kind payload (.fieldCount expected (fields payload).length)

/-- Reads a field as a number below the bound. -/
def readBelow (bound : Nat) (role : FieldRole) (text : List Char) :
    Except Fault Nat :=
  match Text.Numeral.read bound text with
  | .ok n => .ok n
  | .error problem => .error (.record kind payload (.integer role text problem))

/-- Reads a field as a line number, a column or a like number. -/
def readNumber (role : FieldRole) (text : List Char) : Except Fault Nat :=
  readBelow kind payload (1 <<< 32) role text

/-- Reads a field as a count. The bound is that of counts, so nothing is
cut off. -/
def readCount (role : FieldRole) (text : List Char) : Except Fault Count :=
  (readBelow kind payload (Count.limit + 1) role text).map Count.saturate

/-- Reads how often a line ran: the line, its hits, and a further field
that may be there. -/
def readLineHits : Except Fault (Nat × Count) :=
  match fields payload with
  | [line, hits] | [line, hits, _] => do
    let line ← readNumber kind payload .lineNumber line
    let hits ← readCount kind payload .hitCount hits
    return (line, hits)
  | _ => .error (wrongFieldCount kind payload [2, 3])

end Coverage.Record
