/-
Listings of blocks: coverage of regions before it is written down in
some format. A listing is a list of files with their blocks, and a block
has a first place, a last place, a number of statements and a count.
Files and blocks may be listed more than once, and a block may end
before it begins.

Names carry what the formats ask of them, and blocks do not touch too
many lines. So every listing can be written as a profile of the Go tools
(`profile`), and as an export of llvm-cov (`toExport`, in JSON
`exportBytes`) in which each block is two segments: the region begins
with one, and the other, without a count, ends it.

Either is read without a fault, the profile for the regions of the
blocks (`decode_profile`), the export for the same and the files
(`journal_toExport`, `decode_exportBytes`).
-/
import Coverage.Proofs.BlockGrammar
import Coverage.Proofs.LineReading
import Coverage.Proofs.Listing
import Coverage.Proofs.SegmentReading

namespace Coverage

open Text (numeral encodeLines)
open Listing (LineNumber)

namespace BlockListing

/-- A place in a source file. -/
structure Place where
  line : LineNumber
  column : LineNumber

/-- A block of a file. -/
structure Block where
  first : Place
  last : Place
  /-- Number of statements in the block. -/
  statements : LineNumber
  /-- How often the block ran. -/
  count : Count
  /-- The block does not touch too many lines. -/
  narrow : last.line.val + 1 - first.line.val ≤ Region.maxLines

/-- A file, with the blocks in it. The name can stand in front of a block
of a profile, and there is one block at least, since a profile knows of no
other files. -/
structure File where
  name : List Char
  name_ne_nil : name ≠ []
  no_colon : ':' ∉ name
  no_lineFeed : '\n' ∉ name
  blocks : List Block
  blocks_ne_nil : blocks ≠ []

end BlockListing

/-- A list of files with their blocks. -/
structure BlockListing where
  /-- What a profile says of the mode it was taken in. -/
  mode : List Char
  mode_no_lineFeed : '\n' ∉ mode
  files : List BlockListing.File

namespace BlockListing

/-- The region of a block, from its first place to its last. -/
def Block.region (b : Block) : Region :=
  ⟨b.first.line, b.first.column, b.last.line, b.last.column⟩

/-- What is learnt from a block. -/
def Block.datum (b : Block) : Datum := .region b.region b.count

/-- The name that the file goes by in a set. -/
def File.key (f : File) : String := String.ofList f.name

/-- The regions of a file are added to it. -/
def File.edits (f : File) : List Edit :=
  f.blocks.map fun b => .add f.key b.datum

-- ============================================================== profile

/-- The text of a place, its line and column with a point between them. -/
def Place.text (p : Place) : List Char :=
  numeral p.line ++ '.' :: numeral p.column

/-- The text of a block behind the name of the file. -/
def Block.text (b : Block) : List Char :=
  b.first.text ++ ',' :: (b.last.text
    ++ ' ' :: (numeral b.statements ++ ' ' :: numeral b.count.toNat))

/-- The line of a block in a profile. -/
def File.blockLine (f : File) (b : Block) : List Char :=
  f.name ++ ':' :: b.text

/-- The first line of a profile. -/
def modeLine (l : BlockListing) : List Char := "mode:".toList ++ l.mode

/-- The listing as a profile. -/
def profile (l : BlockListing) : List UInt8 :=
  encodeLines (l.modeLine
    :: l.files.flatMap fun f => f.blocks.map f.blockLine)

/-- The text of a place is a position. -/
theorem Place.isPosition (p : Place) :
    GoProfile.IsPosition p.text ⟨p.line, p.column⟩ := by
  have hnumber : ∀ n : LineNumber, Record.IsNumber (numeral n) n :=
    fun n => Record.readNumber_eq_ok_iff.1
      (Record.readNumber_numeral .block [] .line n.isLt)
  exact ⟨rfl, hnumber p.line, hnumber p.column⟩

/-- The line of a block is the block. -/
theorem File.isBlock (f : File) (b : Block) :
    GoProfile.IsBlock (f.blockLine b)
      ⟨f.key, ⟨b.first.line, b.first.column⟩,
        ⟨b.last.line, b.last.column⟩, b.statements, b.count⟩ := by
  have hstatements := Record.readNumber_eq_ok_iff.1
    (Record.readNumber_numeral .block [] .statementCount b.statements.isLt)
  have hcount := Record.readCount_eq_ok_iff.1
    (Record.readCount_numeral .block [] .hitCount b.count)
  exact ⟨rfl, f.name_ne_nil, f.no_colon, rfl, b.first.isPosition,
    b.last.isPosition, hstatements, hcount, b.narrow⟩

/-- A place fits on a line. -/
theorem Place.lineFeed_not_mem_text (p : Place) : '\n' ∉ p.text :=
  p.isPosition.not_mem rfl (by decide) (by decide)

/-- So does a block, and nothing is trimmed at its end. -/
theorem File.closed_blockLine (f : File) (b : Block) :
    Text.Closed (f.blockLine b) := by
  have hstatements : '\n' ∉ numeral b.statements :=
    Text.not_mem_numeral rfl _
  have hlast := b.last.lineFeed_not_mem_text
  -- all that matters is the count at the end
  have hnumbers : Text.Closed
      ((b.last.text ++ ' ' :: (numeral b.statements ++ [' ']))
        ++ numeral b.count.toNat) :=
    .append_of_ne_nil (by simp [hlast, hstatements]) (.numeral _)
      Nat.toDigits_ne_nil
  simp only [List.append_assoc, List.cons_append, List.nil_append]
    at hnumbers
  exact .append f.no_lineFeed rfl
    (.append b.first.lineFeed_not_mem_text rfl hnumbers)

/-- A line with a colon is not blank. -/
theorem not_blank_of_colon {line : List Char} (h : ':' ∈ line) :
    ¬ line.all Text.isBlank = true := by
  intro hall
  cases List.all_eq_true.1 hall ':' h

/-- The lines of a profile are those that were written; behind the mode
carriage returns are trimmed. -/
theorem lines_profile (l : BlockListing) :
    Text.lines l.profile
      = ("mode:".toList ++ Text.trimEnd (· == '\r') l.mode)
        :: l.files.flatMap fun f => f.blocks.map f.blockLine := by
  have hblocks : ∀ line ∈ l.files.flatMap fun f => f.blocks.map f.blockLine,
      Text.Closed line := by
    intro line hline
    obtain ⟨f, -, hline⟩ := List.mem_flatMap.1 hline
    obtain ⟨b, -, rfl⟩ := List.mem_map.1 hline
    exact f.closed_blockLine b
  have hmode : '\n' ∉ l.modeLine := by
    intro h
    rcases List.mem_append.1 h with h | h
    · revert h
      decide
    · exact l.mode_no_lineFeed h
  rw [profile, Text.lines_encodeLines_eq_map (List.forall_mem_cons.2
      ⟨hmode, fun line hline => (hblocks line hline).no_lineFeed⟩),
    List.map_cons, (List.map_congr_left fun line hline =>
      (hblocks line hline).trimEnd_return).trans (List.map_id _)]
  refine congrArg (· :: _) ?_
  exact Text.trimEnd_append rfl "mode".toList l.mode

/-- A profile of a listing asks for the regions of its blocks. -/
theorem decode_profile (l : BlockListing) :
    GoProfile.decode l.profile = ⟨l.files.flatMap File.edits, none⟩ := by
  have hmode : GoProfile.reader.read false
      ("mode:".toList ++ Text.trimEnd (· == '\r') l.mode)
        = .ok (true, []) := by
    show GoProfile.read false
      ("mode:".toList ++ Text.trimEnd (· == '\r') l.mode) = .ok (true, [])
    unfold GoProfile.read
    rw [if_neg (not_blank_of_colon (List.mem_append_left _ (by decide))),
      if_neg Bool.false_ne_true]
    exact if_pos rfl
  have hblock : ∀ (f : File) (b : Block),
      GoProfile.reader.Reads true [f.blockLine b] true
        [.add f.key b.datum] := by
    intro f b
    have hcolon : ':' ∈ f.blockLine b :=
      List.mem_append_right f.name List.mem_cons_self
    refine .line ?_
    show GoProfile.read true (f.blockLine b) = _
    unfold GoProfile.read
    rw [if_neg (not_blank_of_colon hcolon), if_pos rfl,
      GoProfile.readBlock_eq_ok_iff.2 (f.isBlock b)]
    rfl
  have hfiles := LineReader.Reads.flatMap
    (fun f : File => LineReader.Reads.map (hblock f) f.blocks) l.files
  rw [GoProfile.decode, LineReader.decode_bytes, lines_profile]
  exact (LineReader.Reads.cons hmode hfiles).run_eq

-- =============================================================== export

open LlvmExport (Segment)

/-- A block is two segments, of which the first enters its region. -/
def Block.segments (b : Block) : List Segment :=
  [⟨b.first.line, b.first.column, b.count, true, true⟩,
    ⟨b.last.line, b.last.column, 0, false, false⟩]

/-- The file in an export, with the segments of all its blocks. -/
def File.toExport (f : File) : LlvmExport.File :=
  ⟨f.key, f.blocks.flatMap Block.segments⟩

/-- The listing as an export without functions. -/
def toExport (l : BlockListing) : LlvmExport :=
  ⟨LlvmExport.expectedTag, [⟨l.files.map File.toExport, []⟩]⟩

/-- The steps for the segments of blocks are the regions of the blocks.
From the end of a block to the next one there is no region. -/
theorem filterMap_segmentStep? (f : LlvmExport.File) (bs : List Block) :
    ((bs.flatMap Block.segments).zip
        (bs.flatMap Block.segments).tail).filterMap
        (fun (s, next) => f.segmentStep? s next)
      = bs.map fun b => .ok (.add f.name b.datum) := by
  induction bs with
  | nil => rfl
  | cons b bs ih =>
      have hregion : f.segmentStep?
          ⟨b.first.line, b.first.column, b.count, true, true⟩
          ⟨b.last.line, b.last.column, 0, false, false⟩
            = some (.ok (.add f.name b.datum)) :=
        if_pos b.narrow
      -- the end of the block has no count, whatever stands behind it
      have hrest : ((⟨b.last.line, b.last.column, 0, false, false⟩
          :: bs.flatMap Block.segments).zip
            (bs.flatMap Block.segments)).filterMap
            (fun (s, next) => f.segmentStep? s next)
          = bs.map fun b => .ok (.add f.name b.datum) := by
        rw [← ih]
        cases bs.flatMap Block.segments with
        | nil => rfl
        | cons s rest => rfl
      rw [List.map_cons, ← hrest]
      show (_ :: _).filterMap _ = _
      exact List.filterMap_cons_some hregion

/-- An export of a listing asks for its files and the regions of their
blocks. -/
theorem journal_toExport (l : BlockListing) :
    l.toExport.journal
      = ⟨l.files.flatMap fun f => .touch f.key :: f.edits, none⟩ := by
  have hok : ∀ edits : List Edit,
      Journal.ofSteps (edits.map Except.ok) = ⟨edits, none⟩ := by
    intro edits
    induction edits with
    | nil => rfl
    | cons e edits ih => rw [List.map_cons, Journal.ofSteps_ok, ih]
  have hsteps : l.toExport.steps
      = (l.files.flatMap fun f => .touch f.key :: f.edits).map Except.ok := by
    have hfile : ∀ f : File, f.toExport.steps
        = (.touch f.key :: f.edits).map Except.ok := by
      intro f
      unfold LlvmExport.File.steps
      rw [List.map_cons, File.edits, List.map_map]
      exact congrArg (_ :: ·) (filterMap_segmentStep? f.toExport f.blocks)
    show ((l.files.map File.toExport).flatMap LlvmExport.File.steps ++ [])
      ++ [] = _
    rw [List.append_nil, List.append_nil, List.flatMap_map,
      List.map_flatMap]
    simp only [hfile]
  have htag : l.toExport.tag = LlvmExport.expectedTag := rfl
  rw [LlvmExport.journal, if_pos htag, hsteps, hok]

-- ====================================================== export in JSON

open Json (Written)

/-- A segment in JSON, which starts a region or does not. -/
def Place.written (p : Place) (count : Count) (starts : Bool) : Written :=
  .array [.natural p.line, .natural p.column, .natural count.toNat,
    .bool starts, .bool starts]

/-- A block in JSON, as its two segments. -/
def Block.written (b : Block) : List Written :=
  [b.first.written b.count true, b.last.written 0 false]

/-- A file in JSON, with the segments of all its blocks. -/
def File.written (f : File) : Written :=
  .object [("filename", .text f.key),
    ("segments", .array (f.blocks.flatMap Block.written))] nofun

/-- The part that has all the files, in JSON. -/
def writtenPart (l : BlockListing) : Written :=
  .object [("files", .array (l.files.map File.written)),
    ("functions", .array [])] nofun

/-- The listing as an export in JSON, with its tag. -/
def written (l : BlockListing) : Written :=
  .object [("type", .text LlvmExport.expectedTag),
    ("data", .array [l.writtenPart])] nofun

/-- The bytes of that export. -/
def exportBytes (l : BlockListing) : List UInt8 := l.written.bytes

/-- A segment is read as it was written. -/
theorem Place.ofJson_written (p : Place) (count : Count) (starts : Bool) :
    Segment.ofJson (p.written count starts).value
      = .ok ⟨p.line, p.column, count, starts, starts⟩ := by
  have hcount : count.toNat < 1 <<< 64 :=
    Nat.lt_of_le_pred (by decide) count.le_limit
  have hsegment := LlvmExport.IsSegment.mk
    (s := ⟨p.line, p.column, count, starts, starts⟩)
    (Json.Number.isNatural_numeralOf _) p.line.isLt
    (Json.Number.isNatural_numeralOf _) p.column.isLt
    (Json.Number.isNatural_numeralOf _) hcount []
  exact LlvmExport.Segment.ofJson_known_iff.2 hsegment

/-- A file is read with the segments of its blocks. -/
theorem File.read_written (f : File) :
    LlvmExport.File.shape.read f.written.value = .ok f.toExport := by
  have hblock : ∀ b : Block, List.Forall₂
      (fun w s => Segment.ofJson w.value = .ok s) b.written b.segments :=
    fun b => .cons (b.first.ofJson_written _ _)
      (.cons (b.last.ofJson_written _ _) .nil)
  have hsegments : Json.asList Segment.ofJson
      (Written.array (f.blocks.flatMap Block.written)).value
        = .ok f.toExport.segments :=
    Json.asList_array (List.rel_flatMap (R := Eq)
      (List.forall₂_same.2 fun _ _ => rfl)
      fun b _ h => h ▸ hblock b)
  have hread := Json.Shape.read_pair (s := LlvmExport.File.shape) rfl
    (by decide) (Json.Field.read_need (Json.asString_text f.key) _ _ _)
    (Json.Field.read_allow hsegments _ _ _)
  exact hread

/-- The part that has all the files is read with them. -/
theorem read_writtenPart (l : BlockListing) :
    LlvmExport.Part.shape.read l.writtenPart.value
      = .ok ⟨l.files.map File.toExport, []⟩ := by
  have hfiles : Json.asList LlvmExport.File.shape.read
      (Written.array (l.files.map File.written)).value
        = .ok (l.files.map File.toExport) :=
    Json.asList_array (Json.forall₂_map_map fun f _ => f.read_written)
  have hfunctions : Json.asList LlvmExport.Function.shape.read
      (Written.array []).value = .ok [] := Json.asList_array .nil
  have hread := Json.Shape.read_pair (s := LlvmExport.Part.shape) rfl
    (by decide) (Json.Field.read_allow hfiles _ _ _)
    (Json.Field.read_allow hfunctions _ _ _)
  exact hread

/-- The export in JSON is read as the export. -/
theorem read_written (l : BlockListing) :
    LlvmExport.shape.read l.written.value = .ok l.toExport := by
  have hparts : Json.asList LlvmExport.Part.shape.read
      (Written.array [l.writtenPart]).value
        = .ok [⟨l.files.map File.toExport, []⟩] :=
    Json.asList_array (.cons l.read_writtenPart .nil)
  have hread := Json.Shape.read_pair (s := LlvmExport.shape) rfl
    (by decide)
    (Json.Field.read_allow (Json.asString_text LlvmExport.expectedTag) _ _ _)
    (Json.Field.read_allow hparts _ _ _)
  exact hread

/-- An export of a listing, in JSON, asks for what the export does. -/
theorem decode_exportBytes [Libraries] [LawfulLibraries]
    (l : BlockListing) :
    LlvmExport.decode ⟨l.exportBytes, none⟩
      = ⟨l.files.flatMap fun f => .touch f.key :: f.edits, none⟩ := by
  have hread : (Libraries.document ⟨l.exportBytes, none⟩).read
      LlvmExport.shape.read = .ok l.toExport := by
    rw [exportBytes, Written.document_eq,
      Json.Document.read_mk_eq_ok_iff, l.read_written]
  rw [LlvmExport.decode, hread]
  exact l.journal_toExport

end BlockListing

end Coverage
