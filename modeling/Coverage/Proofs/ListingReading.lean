/-
Reading listings. A tracefile that a listing was written to is read
without a fault, and the edits that it asks for can be named: each
record is read as what it was written for, and `Reads` follows the
reader from record to record.

The reader of gcov asks for exactly the edits of the tree
(`Gcov.decode_gcov`). The reader of lcov asks for two where a function
stands, one with its start and one with its hits, next to one another
(`Lcov.decode_lcov`) or far apart (`Lcov.decode_lcovByKind`).
-/
import Coverage.Proofs.LineReading
import Coverage.Proofs.Listing
import Coverage.Tracefile.Gcov
import Coverage.Tracefile.Lcov

namespace Coverage

open Record (write join)
open Text (numeral)

namespace Tracefile

variable {item : List Char → Except Fault Item} {line : List Char}

/-- A record that names a file makes it the current one. -/
theorem reads_file {name : String} (h : item line = .ok (.file name))
    (current : Option String) :
    (reader item).Reads current [line] (some name) [.touch name] := by
  refine .line ?_
  show item line >>= step current = _
  rw [h]
  rfl

/-- After an end of record there is no current file. -/
theorem reads_endOfFile (h : item line = .ok .endOfFile)
    (current : Option String) :
    (reader item).Reads current [line] none [] := by
  refine .line ?_
  show item line >>= step current = _
  rw [h]
  rfl

/-- A record about the current file adds to it. -/
theorem reads_datum {kind : RecordKind} {x : Datum}
    (h : item line = .ok (.datum kind x)) (file : String) :
    (reader item).Reads (some file) [line] (some file) [.add file x] := by
  refine .line ?_
  show item line >>= step (some file) = _
  rw [h]
  rfl

end Tracefile

-- =============================================================== fields

/-- A numeral and one more field are found again. -/
theorem Listing.fields_pair (n : Nat) {field : List Char}
    (hfield : ',' ∉ field) :
    Record.fields (join [numeral n, field]) = [numeral n, field] := by
  refine Record.fields_join (List.cons_ne_nil _ _) fun f hf => ?_
  rcases List.mem_cons.1 hf with rfl | hf
  · exact Text.not_mem_numeral rfl n
  · rw [List.mem_singleton.1 hf]
    exact hfield

/-- A line is read as its number and its count, under any type of
record. -/
theorem Listing.Line.readLineHits_join (l : Line) (kind : RecordKind) :
    Record.readLineHits kind
        (join [numeral l.number, numeral l.count.toNat])
      = .ok (l.number.val, l.count) := by
  unfold Record.readLineHits
  rw [fields_pair _ (Text.not_mem_numeral rfl _)]
  show (Record.readNumber _ _ _ _ >>= fun line =>
    Record.readCount _ _ _ _ >>= fun hits => _) = _
  rw [Record.readNumber_numeral _ _ _ l.number.isLt,
    Record.readCount_numeral]
  rfl

/-- A branch counts as taken if its count is positive. -/
theorem Listing.Branch.branchStatus_eq (b : Branch) :
    GcovJson.branchStatus b.count
      = if 0 < b.count.toNat then .taken else .notTaken := by
  unfold GcovJson.branchStatus Count.isHit
  by_cases h : b.count.toNat = 0
  · rw [h]
    rfl
  · rw [if_pos (bne_iff_ne.2 h), if_pos (Nat.pos_of_ne_zero h)]

-- ================================================================= gcov

namespace Gcov

open Listing

/-- The record of a file selects it. -/
theorem item_file (payload : List Char) :
    item (write "file" payload) = .ok (.file (String.ofList payload)) := by
  unfold item
  rw [Record.split_write (by decide)]
  rfl

/-- A function is read whether it has an end field or not. -/
theorem readFunction_join (f : Function) :
    readFunction (join (f.gcovFields ++ [f.name.text]))
      = .ok ⟨String.ofList f.name.text, f.start, f.hits⟩ := by
  have hcomma : ∀ g ∈ f.gcovFields ++ [f.name.text], ',' ∉ g := by
    intro g hg
    rcases List.mem_append.1 hg with hg | hg
    · exact f.not_mem_gcovFields rfl (fun e _ => e.no_comma) g hg
    · rw [List.mem_singleton.1 hg]
      exact f.name.no_comma
  unfold readFunction
  rw [Record.fields_join (by simp) hcomma]
  -- the end field is passed over
  cases hlast : f.last with
  | none =>
      simp only [Function.gcovFields, hlast]
      show (Record.readNumber _ _ _ _ >>= fun start =>
        Record.readCount _ _ _ _ >>= fun hits => _) = _
      rw [Record.readNumber_numeral _ _ _ f.start.isLt,
        Record.readCount_numeral]
      rfl
  | some e =>
      simp only [Function.gcovFields, hlast]
      show (Record.readNumber _ _ _ _ >>= fun start =>
        Record.readCount _ _ _ _ >>= fun hits => _) = _
      rw [Record.readNumber_numeral _ _ _ f.start.isLt,
        Record.readCount_numeral]
      rfl

/-- The record of a function says where it starts and how often it ran. -/
theorem item_function (f : Function) :
    item f.gcov
      = .ok (.datum .function
          (.function (String.ofList f.name.text) f.start f.hits)) := by
  unfold item Function.gcov
  rw [Record.split_write (by decide)]
  show (readFunction _ >>= _) = _
  rw [readFunction_join]
  rfl

/-- The record of a line says how often it ran. -/
theorem item_line (l : Line) :
    item (write "lcount" (join [numeral l.number, numeral l.count.toNat]))
      = .ok (.datum .lcount (.line l.number l.count)) := by
  unfold item
  rw [Record.split_write (by decide)]
  show (Record.readLineHits .lcount _ >>= _) = _
  rw [l.readLineHits_join]
  rfl

/-- The word for a branch is read as what its count means. -/
theorem status?_word (b : Branch) :
    status? b.word = some (GcovJson.branchStatus b.count) := by
  rw [b.branchStatus_eq, Branch.word]
  split
  · rfl
  · rfl

/-- A branch is read with the outcome that its count comes to. -/
theorem readBranch_join (l : Line) (b : Branch) :
    readBranch (join [numeral l.number, b.word])
      = .ok (l.number.val, GcovJson.branchStatus b.count) := by
  have hcomma : ',' ∉ b.word := by
    unfold Branch.word
    split
    · decide
    · decide
  unfold readBranch
  rw [fields_pair _ hcomma]
  show (Record.readNumber _ _ _ _ >>= fun line => _) = _
  rw [Record.readNumber_numeral _ _ _ l.number.isLt, status?_word]
  rfl

/-- The record of a branch says how it went. -/
theorem item_branch (l : Line) (b : Branch) :
    item (write "branch" (join [numeral l.number, b.word]))
      = .ok (.datum .branch
          (.branch l.number (GcovJson.branchStatus b.count))) := by
  unfold item
  rw [Record.split_write (by decide)]
  show (readBranch _ >>= _) = _
  rw [readBranch_join]
  rfl

/-- The records of a line ask for what the line says in the tree. -/
theorem reads_line (file : String) (l : Line) :
    reader.Reads (some file) l.gcov (some file)
      (l.tree.data.map (.add file)) := by
  have hbranches := LineReader.Reads.map (fun b =>
    Tracefile.reads_datum (item_branch l b) file) l.branches
  rw [GcovJson.Line.data, List.map_cons, Line.tree, List.map_map,
    List.map_map]
  exact (Tracefile.reads_datum (item_line l) file).append hbranches

/-- The records of a file ask for the edits of the file in the tree. -/
theorem reads_file (current : Option String) (f : File) :
    ∃ next, reader.Reads current f.gcov next f.tree.edits := by
  refine ⟨some (String.ofList f.name.text), ?_⟩
  have hfunctions := LineReader.Reads.map (fun g =>
    Tracefile.reads_datum (item_function g)
      (String.ofList f.name.text)) f.functions
  have hlines := LineReader.Reads.flatMap
    (reads_line (String.ofList f.name.text)) f.lines
  rw [GcovJson.File.edits, GcovJson.File.data, List.map_append,
    List.map_flatMap, File.tree, List.map_map, List.map_map,
    List.flatMap_map]
  exact (Tracefile.reads_file (item_file f.name.text) current).append
    (hfunctions.append hlines)

/-- A listing is read from a tracefile of gcov as its tree. -/
theorem decode_gcov (l : Listing) : decode l.gcov = ⟨l.tree.edits, none⟩ := by
  obtain ⟨next, hreads⟩ :=
    LineReader.Reads.flatMap_any reads_file reader.start l.files
  rw [decode, LineReader.decode_bytes, Listing.gcov,
    Text.lines_encodeLines l.closed_gcov, hreads.run_eq,
    GcovJson.edits, Listing.tree, List.flatMap_map]
  rfl

end Gcov

-- ================================================================= lcov

namespace Lcov

open Listing

/-- The record of a file selects it, by the name that it goes by without a
source root. -/
theorem item_file {payload : List Char} (h : Text.Closed payload) :
    item none (write "SF" payload)
      = .ok (.file (String.ofList payload)) := by
  unfold item
  rw [(Record.closed_write (by decide) h).trimEnd_isBlank,
    Record.split_write (by decide)]
  rfl

theorem item_endOfFile :
    item none "end_of_record".toList = .ok .endOfFile :=
  rfl

/-- The first record of a function tells where it starts. -/
theorem readFunctionStart_join (f : Function) :
    readFunctionStart (join [numeral f.start, f.name.text])
      = .ok (String.ofList f.name.text, f.start.val) := by
  unfold readFunctionStart
  rw [fields_pair _ f.name.no_comma]
  show (Record.readNumber _ _ _ _ >>= fun start => _) = _
  rw [Record.readNumber_numeral _ _ _ f.start.isLt]
  rfl

/-- One record says where a function starts. -/
theorem item_functionStart (f : Function) :
    item none f.lcovStart
      = .ok (.datum .functionStart
          (.function (String.ofList f.name.text) f.start 0)) := by
  unfold item
  rw [f.closed_lcovStart.trimEnd_isBlank, Function.lcovStart,
    Record.split_write (by decide)]
  show (readFunctionStart _ >>= _) = _
  rw [readFunctionStart_join]
  rfl

/-- The second record of a function tells how often it ran. -/
theorem readFunctionHits_join (f : Function) :
    readFunctionHits (join [numeral f.hits.toNat, f.name.text])
      = .ok (String.ofList f.name.text, f.hits) := by
  unfold readFunctionHits
  rw [fields_pair _ f.name.no_comma]
  show (Record.readCount _ _ _ _ >>= fun hits => _) = _
  rw [Record.readCount_numeral]
  rfl

/-- Another says how often it ran. -/
theorem item_functionHits (f : Function) :
    item none f.lcovHits
      = .ok (.datum .functionHits
          (.function (String.ofList f.name.text) 0 f.hits)) := by
  unfold item
  rw [f.closed_lcovHits.trimEnd_isBlank, Function.lcovHits,
    Record.split_write (by decide)]
  show (readFunctionHits _ >>= _) = _
  rw [readFunctionHits_join]
  rfl

/-- The record of a line says how often it ran. -/
theorem item_line (l : Line) :
    item none l.lcovHits
      = .ok (.datum .lineHits (.line l.number l.count)) := by
  unfold item
  rw [l.closed_lcovHits.trimEnd_isBlank, Line.lcovHits,
    Record.split_write (by decide)]
  show (Record.readLineHits .lineHits _ >>= _) = _
  rw [l.readLineHits_join]
  rfl

/-- A branch is read as what its count means; no count is a hyphen. -/
theorem readBranchHits_join (l : Line) (b : Branch) :
    readBranchHits (join [numeral l.number, numeral b.block,
    numeral b.index, numeral b.count.toNat])
      = .ok (l.number.val, GcovJson.branchStatus b.count) := by
  have hfields : Record.fields (join [numeral l.number, numeral b.block,
      numeral b.index, numeral b.count.toNat])
        = [numeral l.number, numeral b.block, numeral b.index,
          numeral b.count.toNat] := by
    refine Record.fields_join (List.cons_ne_nil _ _) fun f hf => ?_
    simp only [List.mem_cons, List.not_mem_nil, or_false] at hf
    rcases hf with rfl | rfl | rfl | rfl
    · exact Text.not_mem_numeral rfl _
    · exact Text.not_mem_numeral rfl _
    · exact Text.not_mem_numeral rfl _
    · exact Text.not_mem_numeral rfl _
  have hhyphen : numeral b.count.toNat ≠ ['-'] := by
    intro h
    have hmem : '-' ∈ numeral b.count.toNat := by
      rw [h]
      exact List.mem_cons_self
    exact Text.not_mem_numeral rfl _ hmem
  unfold readBranchHits
  rw [hfields]
  show (Record.readNumber _ _ _ _ >>= fun line => _) = _
  rw [Record.readNumber_numeral _ _ _ l.number.isLt]
  show (if numeral b.count.toNat = ['-'] then _ else _) = _
  rw [if_neg hhyphen]
  show (Record.readCount _ _ _ _ >>= fun taken => _) = _
  rw [Record.readCount_numeral]
  rfl

/-- The record of a branch says how it went, which is the same as its word
in gcov. -/
theorem item_branch (l : Line) (b : Branch) :
    item none (l.lcovBranch b)
      = .ok (.datum .branchHits
          (.branch l.number (GcovJson.branchStatus b.count))) := by
  unfold item
  rw [(l.closed_lcovBranch b).trimEnd_isBlank, Line.lcovBranch,
    Record.split_write (by decide)]
  show (readBranchHits _ >>= _) = _
  rw [readBranchHits_join]
  rfl

/-- What the record of the start of a function says. -/
def startDatum (f : Function) : Datum :=
  .function (String.ofList f.name.text) f.start 0

/-- What the record of the hits of a function says. -/
def hitsDatum (f : Function) : Datum :=
  .function (String.ofList f.name.text) 0 f.hits

/-- What the record of the hits of a line says. -/
def lineDatum (l : Line) : Datum := .line l.number l.count

/-- What the record of a branch of a line says. -/
def branchDatum (l : Line) (b : Branch) : Datum :=
  .branch l.number (GcovJson.branchStatus b.count)

/-- What the records of a file say, function by function and line by
line. -/
def data (f : File) : List Datum :=
  f.functions.flatMap (fun g => [startDatum g, hitsDatum g])
    ++ f.lines.flatMap (fun l => lineDatum l :: l.branches.map (branchDatum l))

/-- What the records of a file say, kind by kind. -/
def dataByKind (f : File) : List Datum :=
  f.functions.map startDatum ++ f.functions.map hitsDatum
    ++ f.lines.map lineDatum
    ++ f.lines.flatMap (fun l => l.branches.map (branchDatum l))

/-- The edits of a file that is said to have this data. -/
def edits (f : File) (xs : List Datum) : List Edit :=
  .touch (String.ofList f.name.text)
    :: xs.map (.add (String.ofList f.name.text))

/-- The first and the last record stand around the others. -/
theorem reads_frame (current : Option String) (f : File)
    {body : List (List Char)} {xs : List Datum}
    (hbody : (reader none).Reads (some (String.ofList f.name.text)) body
      (some (String.ofList f.name.text))
      (xs.map (.add (String.ofList f.name.text)))) :
    (reader none).Reads current
      (write "SF" f.name.text :: (body ++ ["end_of_record".toList])) none
      (edits f xs) := by
  have hend := hbody.append
    (Tracefile.reads_endOfFile item_endOfFile _)
  rw [List.append_nil] at hend
  exact (Tracefile.reads_file (item_file f.name.closed) current).append
    hend

theorem reads_start (file : String) (f : Function) :
    (reader none).Reads (some file) [f.lcovStart] (some file)
      [.add file (startDatum f)] :=
  Tracefile.reads_datum (item_functionStart f) file

theorem reads_hits (file : String) (f : Function) :
    (reader none).Reads (some file) [f.lcovHits] (some file)
      [.add file (hitsDatum f)] :=
  Tracefile.reads_datum (item_functionHits f) file

theorem reads_line (file : String) (l : Line) :
    (reader none).Reads (some file) [l.lcovHits] (some file)
      [.add file (lineDatum l)] :=
  Tracefile.reads_datum (item_line l) file

theorem reads_branches (file : String) (l : Line) :
    (reader none).Reads (some file) (l.branches.map l.lcovBranch)
      (some file) ((l.branches.map (branchDatum l)).map (.add file)) := by
  rw [List.map_map]
  exact .map (fun b => Tracefile.reads_datum (item_branch l b) file)
    l.branches

/-- A file is selected, its data are added, and then no file is. -/
theorem reads_file (current : Option String) (f : File) :
    (reader none).Reads current f.lcov none (edits f (data f)) := by
  refine reads_frame current f ?_
  rw [data, List.map_append, List.map_flatMap, List.map_flatMap]
  refine .append (.flatMap (fun g => ?_) _) (.flatMap (fun l => ?_) _)
  · exact (reads_start _ g).append (reads_hits _ g)
  · exact (reads_line _ l).append (reads_branches _ l)

/-- The same holds with the records by kind. -/
theorem reads_file_byKind (current : Option String) (f : File) :
    (reader none).Reads current f.lcovByKind none
      (edits f (dataByKind f)) := by
  refine reads_frame current f ?_
  have hstarts := LineReader.Reads.map
    (reads_start (String.ofList f.name.text)) f.functions
  have hhits := LineReader.Reads.map
    (reads_hits (String.ofList f.name.text)) f.functions
  have hlines := LineReader.Reads.map
    (reads_line (String.ofList f.name.text)) f.lines
  have hbranches := LineReader.Reads.flatMap
    (reads_branches (String.ofList f.name.text)) f.lines
  rw [dataByKind, List.map_append, List.map_append, List.map_append,
    List.map_map, List.map_map, List.map_map, List.map_flatMap]
  exact ((hstarts.append hhits).append hlines).append hbranches

/-- A listing is read from a tracefile of lcov with each function cut in
two. -/
theorem decode_lcov (l : Listing) :
    decode none l.lcov
      = ⟨l.files.flatMap fun f => edits f (data f), none⟩ := by
  have hreads := LineReader.Reads.flatMap (reads_file none) l.files
  rw [decode, LineReader.decode_bytes, Listing.lcov,
    Text.lines_encodeLines l.closed_lcov]
  exact hreads.run_eq

/-- Kind by kind the two parts of a function are far apart. -/
theorem decode_lcovByKind (l : Listing) :
    decode none l.lcovByKind
      = ⟨l.files.flatMap fun f => edits f (dataByKind f), none⟩ := by
  have hreads := LineReader.Reads.flatMap (reads_file_byKind none) l.files
  rw [decode, LineReader.decode_bytes, Listing.lcovByKind,
    Text.lines_encodeLines l.closed_lcovByKind]
  exact hreads.run_eq

end Lcov

end Coverage
