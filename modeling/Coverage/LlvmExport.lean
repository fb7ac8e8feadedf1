/-
Exports of llvm-cov. An export is a JSON document whose type tag says
what it is; the tag is judged when the whole document has been read.

The data of a file is a list of segments, each of which starts at a
place and reaches to the start of the next one. A segment that enters a
region and has a count becomes a region from its start to the start of
the next segment. The data of a function names its files and lists its
regions; the function belongs to the first file and starts where the
first region does.
-/
import Coverage.Journal
import Coverage.Json.Shape
import Coverage.Libraries

namespace Coverage

/-- Line and column numbers stay below this. -/
def LlvmExport.lineBound : Nat := 1 <<< 32

-- =========================================================== segments

/-- A place in a file, and what is known from there on. -/
structure LlvmExport.Segment where
  line : Nat
  column : Nat
  count : Count
  /-- The count says something. -/
  hasCount : Bool
  /-- A region starts here. -/
  isEntry : Bool
deriving DecidableEq

/-- A function of an export. -/
structure LlvmExport.Function where
  name : String := ""
  count : Count := 0
  /-- Each region is a list of numbers, its first line in front. -/
  regions : List (List Nat) := []
  files : List String := []

/-- A file of an export. -/
structure LlvmExport.File where
  name : String := ""
  segments : List LlvmExport.Segment := []

/-- A part of an export. -/
structure LlvmExport.Part where
  files : List LlvmExport.File := []
  functions : List LlvmExport.Function := []

/-- A whole export. -/
structure LlvmExport where
  /-- The type tag. -/
  tag : String := ""
  parts : List LlvmExport.Part := []

namespace LlvmExport

-- ============================================================ reading

/-- Reads a segment from an array of at least five items. What follows
the fifth is passed over. -/
def Segment.ofJson : Json → Except Json.Fault Segment
  | .array items cut => do
    let (line, items) ← Json.takeItem cut items
    let line ← line.asNat lineBound
    let (column, items) ← Json.takeItem cut items
    let column ← column.asNat lineBound
    let (count, items) ← Json.takeItem cut items
    let count ← count.asCount
    let (hasCount, items) ← Json.takeItem cut items
    let hasCount ← hasCount.asBool
    let (isEntry, _) ← Json.takeItem cut items
    let isEntry ← isEntry.asBool
    Json.orFault cut ⟨line, column, count, hasCount, isEntry⟩
  | v => .error v.mismatch

/-- The shape of a function. -/
def Function.shape : Json.Shape Function where
  blank := {}
  fields :=
    [.need "name" Json.asString fun name f => { f with name },
      .need "count" Json.asCount fun count f => { f with count },
      .allow "regions" (Json.asList (Json.asList (Json.asNat (1 <<< 64))))
        fun regions f => { f with regions },
      .allow "filenames" (Json.asList Json.asString)
        fun files f => { f with files }]

/-- The shape of a file. -/
def File.shape : Json.Shape File where
  blank := {}
  fields :=
    [.need "filename" Json.asString fun name f => { f with name },
      .allow "segments" (Json.asList Segment.ofJson)
        fun segments f => { f with segments }]

/-- The shape of a part. -/
def Part.shape : Json.Shape Part where
  blank := {}
  fields :=
    [.allow "files" (Json.asList File.shape.read)
        fun files p => { p with files },
      .allow "functions" (Json.asList Function.shape.read)
        fun functions p => { p with functions }]

/-- The shape of an export. -/
def shape : Json.Shape LlvmExport where
  blank := {}
  fields :=
    [.allow "type" Json.asString fun tag e => { e with tag },
      .allow "data" (Json.asList Part.shape.read)
        fun parts e => { e with parts }]

-- ============================================================= events

/-- The tag of an export that can be read. -/
def expectedTag : String := "llvm.coverage.json.export"

/-- The region from the start of one segment to the start of the next. -/
def Segment.regionTo (s next : Segment) : Region :=
  ⟨s.line, s.column, next.line, next.column⟩

/-- The step for two neighbouring segments of a file: none unless the
first enters a region and has a count. -/
def File.segmentStep? (f : File) (s next : Segment) :
    Option (Except Fault Edit) :=
  if s.isEntry && s.hasCount then
    if (s.regionTo next).lineCount ≤ Region.maxLines then
      some (.ok (.add f.name (.region (s.regionTo next) s.count)))
    else
      some (.error (.record .segment f.name.toList
        (.regionSpan s.line next.line Region.maxLines)))
  else none

/-- The steps of a file: it becomes known, then come its regions. -/
def File.steps (f : File) : List (Except Fault Edit) :=
  .ok (.touch f.name)
    :: (f.segments.zip f.segments.tail).filterMap
      fun (s, next) => f.segmentStep? s next

/-- The step of a function. It fails if the function names no file, has
no start, or starts at a line that is out of range, the first of these
first. -/
def Function.step (f : Function) : Except Fault Edit :=
  let fail (defect : Defect) : Except Fault Edit :=
    .error (.record .function f.name.toList defect)
  match f.files, f.regions with
  | [], _ => fail .noFilenames
  | _, [] | _, [] :: _ => fail .noRegions
  | file :: _, (start :: _) :: _ =>
    if start < lineBound then
      .ok (.add file (.function f.name start f.count))
    else fail .startLineRange

/-- The steps of a part: all files, then all functions. -/
def Part.steps (p : Part) : List (Except Fault Edit) :=
  p.files.flatMap File.steps ++ p.functions.map Function.step

/-- The steps of an export, in the order of the document. -/
def steps (e : LlvmExport) : List (Except Fault Edit) :=
  e.parts.flatMap Part.steps

/-- What an export asks for: nothing if it is of another type, else its
steps up to the first that fails. -/
def journal (e : LlvmExport) : Journal :=
  if e.tag = expectedTag then .ofSteps e.steps
  else .failed (.exportType e.tag.toList)

/-- What a byte stream in this format asks for. -/
def decode [Libraries] (s : ByteStream) : Journal :=
  match (Libraries.document s).read shape.read with
  | .ok e => e.journal
  | .error fault => .failed fault

end LlvmExport

end Coverage
