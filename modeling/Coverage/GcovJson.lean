/-
The JSON format of gcov. A document lists files; a file lists its
functions and its lines, and a line lists its branches with their
counts. A branch counts as taken when its count is not zero.
-/
import Coverage.Journal
import Coverage.Json.Shape
import Coverage.Libraries

namespace Coverage

/-- Line numbers stay below this. -/
def GcovJson.lineBound : Nat := 1 <<< 32

/-- A function of a document. -/
structure GcovJson.Function where
  name : String := ""
  start : Nat := 0
  count : Count := 0

/-- A line of a document. -/
structure GcovJson.Line where
  number : Nat := 0
  count : Count := 0
  /-- How often each branch was taken. -/
  branches : List Count := []

/-- A file of a document. -/
structure GcovJson.File where
  name : String := ""
  functions : List GcovJson.Function := []
  lines : List GcovJson.Line := []

/-- A whole document. -/
structure GcovJson where
  files : List GcovJson.File := []

namespace GcovJson

-- ============================================================= shapes

/-- The shape of a function. -/
def Function.shape : Json.Shape Function where
  blank := {}
  fields :=
    [.need "name" Json.asString fun name f => { f with name },
      .need "start_line" (Json.asNat lineBound)
        fun start f => { f with start },
      .need "execution_count" Json.asCount
        fun count f => { f with count }]

/-- The shape of a branch, of which only the count matters. -/
def branchShape : Json.Shape Count where
  blank := 0
  fields := [.need "count" Json.asCount fun count _ => count]

/-- The shape of a line. -/
def Line.shape : Json.Shape Line where
  blank := {}
  fields :=
    [.need "line_number" (Json.asNat lineBound)
        fun number l => { l with number },
      .need "count" Json.asCount fun count l => { l with count },
      .allow "branches" (Json.asList branchShape.read)
        fun branches l => { l with branches }]

/-- The shape of a file. -/
def File.shape : Json.Shape File where
  blank := {}
  fields :=
    [.need "file" Json.asString fun name f => { f with name },
      .allow "functions" (Json.asList Function.shape.read)
        fun functions f => { f with functions },
      .allow "lines" (Json.asList Line.shape.read)
        fun lines f => { f with lines }]

/-- The shape of a document. -/
def shape : Json.Shape GcovJson where
  blank := {}
  fields :=
    [.allow "files" (Json.asList File.shape.read)
      fun files d => { d with files }]

-- ============================================================== edits

/-- The outcome of a branch that was taken so often. -/
def branchStatus (count : Count) : BranchStatus :=
  if count.isHit then .taken else .notTaken

/-- What a line says about its file: its hits, then its branches. -/
def Line.data (l : Line) : List Datum :=
  .line l.number l.count
    :: l.branches.map fun count => .branch l.number (branchStatus count)

/-- What a function says about its file. -/
def Function.datum (f : Function) : Datum := .function f.name f.start f.count

/-- What a file says: first its functions, then its lines. -/
def File.data (f : File) : List Datum :=
  f.functions.map Function.datum ++ f.lines.flatMap Line.data

/-- The edits for a file: it becomes known, then comes what it says. -/
def File.edits (f : File) : List Edit :=
  .touch f.name :: f.data.map (.add f.name)

/-- The edits of a document, in order. -/
def edits (d : GcovJson) : List Edit := d.files.flatMap File.edits

/-- What a byte stream in this format asks for. -/
def decode [Libraries] (s : ByteStream) : Journal :=
  match (Libraries.document s).read shape.read with
  | .ok d => ⟨d.edits, none⟩
  | .error fault => .failed fault

end GcovJson

end Coverage
