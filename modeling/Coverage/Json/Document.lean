/-
Reading a JSON document: one value, and nothing behind it but blanks.

The reader goes through the words once. It keeps what surrounds the
place where it is, innermost first, so nesting is not limited. When a
fault comes, everything that is still open is cut by it.
-/
import Coverage.Json.Token

namespace Coverage.Json

-- ======================================================= surroundings

/-- An array or object without its end. Items and members are in
reverse. -/
inductive Open
  | array (items : List Json)
  | object (members : List Member)

/-- An array or object around a value that is not yet known. -/
inductive Hole
  | item (before : List Json)
  | member (before : List Member) (name : Scalar String)

/-- Puts the value into the hole. -/
def Hole.fill (v : Json) : Hole → Open
  | .item before => .array (v :: before)
  | .member before name => .object ((name, v) :: before)

/-- Ends an array or object, at its closing bracket or at a fault. -/
def Open.close (cut : Option Fault) : Open → Json
  | .array items => .array items.reverse cut
  | .object members => .object members.reverse cut

-- ============================================================ reading

/-- Where a reader is. -/
inductive Reader
  /-- A value must follow. -/
  | value (around : List Hole)
  /-- An array or object has just been opened. -/
  | opened (c : Open) (around : List Hole)
  /-- The name of a member must follow. -/
  | key (before : List Member) (around : List Hole)
  /-- The colon behind the name of a member must follow. -/
  | colon (before : List Member) (name : Scalar String) (around : List Hole)
  /-- A comma or closing bracket must follow. -/
  | separator (c : Open) (around : List Hole)
  /-- The value of the document is complete. -/
  | complete (root : Json)
  /-- Nothing that follows matters any more. -/
  | done (document : Document)

namespace Reader

/-- A value is complete. -/
def finish (v : Json) : List Hole → Reader
  | [] => .complete v
  | hole :: around => .separator (hole.fill v) around

/-- A fault comes with or behind a value, and cuts all around it. -/
def stop (fault : Fault) (v : Json) : List Hole → Document
  | [] => ⟨v, none⟩
  | hole :: around => stop fault ((hole.fill v).close (some fault)) around

/-- There is a fault in the place of a value. -/
def missing (fault : Fault) (around : List Hole) : Document :=
  stop fault (.missing fault) around

/-- A fault comes inside of an array or object. -/
def cut (fault : Fault) (c : Open) (around : List Hole) : Document :=
  stop fault (c.close (some fault)) around

/-- A scalar comes in the place of a value. -/
def scalar (v : Json) (around : List Hole) : Reader :=
  match v.skip with
  | none => finish v around
  | some fault => .done (stop fault v around)

/-- A word comes in the place of a value. -/
def onValue (around : List Hole) : Token → Reader
  | .openArray => .opened (.array []) around
  | .openObject => .opened (.object []) around
  | .null => finish .null around
  | .bool b => finish (.bool b) around
  | .number n => scalar (.number n) around
  | .string s => scalar (.string s) around
  | .broken fault => .done (missing fault around)
  | _ => .done (missing malformed around)

/-- A word comes in the place of the name of a member. -/
def onKey (before : List Member) (around : List Hole) : Token → Reader
  | .string name =>
    match name.skip with
    | none => .colon before name around
    | some fault => .done (missing fault (.member before name :: around))
  | _ => .done (cut malformed (.object before) around)

/-- Takes a word. Behind a complete value any word is one too many. -/
def step (r : Reader) (t : Token) : Reader :=
  match r, t with
  | .value around, t => onValue around t
  | .opened (.array items) around, .closeArray =>
    finish (Open.close none (.array items)) around
  | .opened (.array items) around, t => onValue (.item items :: around) t
  | .opened (.object members) around, .closeObject =>
    finish (Open.close none (.object members)) around
  | .opened (.object members) around, t => onKey members around t
  | .key before around, t => onKey before around t
  | .colon before name around, .colon =>
    .value (.member before name :: around)
  | .colon before name around, _ =>
    .done (missing malformed (.member before name :: around))
  | .separator (.array items) around, .comma => .value (.item items :: around)
  | .separator (.array items) around, .closeArray =>
    finish (Open.close none (.array items)) around
  | .separator (.object members) around, .comma => .key members around
  | .separator (.object members) around, .closeObject =>
    finish (Open.close none (.object members)) around
  | .separator c around, _ => .done (cut malformed c around)
  | .complete root, _ => .done ⟨root, some malformed⟩
  | .done document, _ => .done document

/-- The stream ends. -/
def finishStream (failure : Option InputFault) (r : Reader) : Document :=
  let fault := Fault.atEnd failure .truncated
  match r with
  | .value around => missing fault around
  | .opened c around | .separator c around => cut fault c around
  | .key before around => cut fault (.object before) around
  | .colon before name around =>
    missing fault (.member before name :: around)
  | .complete root => ⟨root, failure.map .input⟩
  | .done document => document

end Reader

/-- The document of a stream. -/
def Document.ofStream (s : ByteStream) : Document :=
  ((tokens s).foldl Reader.step (.value [])).finishStream s.failure

end Coverage.Json
