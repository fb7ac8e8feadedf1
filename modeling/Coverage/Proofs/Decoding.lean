/-
Decoding adds. Decoding an input into a set of files leaves the set with
all files inserted that decoding the same input alone would leave, and
meets the same fault. What an input contributes thus never depends on
what was loaded before, also when it fails part way.

# Two readings of an input

`Format.decode` reads an input into a journal, which is applied to a set
afterwards. `decodeInto` reads the same input with the set in hand: each
line, segment or function changes the set before the next one is looked
at, and the first that is refused leaves the set as it is then.
`decodeInto_eq_record` says that the two agree, so whatever is proved of
one holds of the other.

# How it is proved

An edit is the insertion of a file that has nothing but what was learnt
(`apply_eq_insert`), so the edits of a journal are insertions of files
one after the other. Merging is associative, and therefore the files
that go by one name may as well be merged first and inserted then
(`applyAll_eq_insertMany`).
-/
import Coverage.Decoding
import Coverage.Proofs.FileSet

namespace Coverage

-- ====================================================== set in hand

/-- Reads lines into a set from a state on. Each line changes the set
before the next one is read. -/
def LineReader.feed {σ : Type} (r : LineReader σ) (S : FileSet)
    (state : σ) : List (List Char) → FileSet × Option Fault
  | [] => (S, r.finish state)
  | line :: rest =>
    match r.read state line with
    | .error fault => (S, some fault)
    | .ok (next, edits) => r.feed (S.applyAll edits) next rest

/-- Reads a byte stream into a set. -/
def LineReader.feedStream {σ : Type} (r : LineReader σ) (S : FileSet)
    (s : ByteStream) : FileSet × Option Fault :=
  match s.failure with
  | none => r.feed S r.start (Text.lines s.bytes)
  | some failure =>
    (r.stoppedBy failure).feed S r.start (Text.wholeLines s.bytes)

/-- Takes steps into a set, up to the first that fails. -/
def FileSet.follow (S : FileSet) :
    List (Except Fault Edit) → FileSet × Option Fault
  | [] => (S, none)
  | .ok e :: rest => (S.apply e).follow rest
  | .error fault :: _ => (S, some fault)

/-- Decodes a stream of that format into a set, which changes as the
input is read. Of the documents nothing is taken before they were
parsed. -/
def FileSet.decodeInto [Libraries] (S : FileSet) (format : Format)
    (s : Settings) (stream : ByteStream) (pieceSize : Option Nat) :
    FileSet × Option Fault :=
  match format with
  | .gcov => Gcov.reader.feedStream S stream
  | .lcov => (Lcov.reader s.sourceRoot).feedStream S stream
  | .goProfile => GoProfile.reader.feedStream S stream
  | .gcovJson =>
    match (Libraries.document (Libraries.decompress stream pieceSize)).read
      GcovJson.shape.read with
    | .ok d => (S.applyAll d.edits, none)
    | .error fault => (S, some fault)
  | .llvm =>
    match (Libraries.document stream).read LlvmExport.shape.read with
    | .ok e =>
      if e.tag = LlvmExport.expectedTag then S.follow e.steps
      else (S, some (.exportType e.tag.toList))
    | .error fault => (S, some fault)

/-- Reading lines into a set is recording the journal of the lines. -/
theorem LineReader.feed_eq_record {σ : Type} (r : LineReader σ)
    (S : FileSet) (state : σ) (lines : List (List Char)) :
    r.feed S state lines = S.record (r.run state lines) := by
  induction lines generalizing S state with
  | nil => rfl
  | cons line rest ih =>
      rw [feed, run_cons]
      cases hread : r.read state line with
      | error fault => rfl
      | ok taken =>
          obtain ⟨next, edits⟩ := taken
          show r.feed (S.applyAll edits) next rest = _
          rw [ih, FileSet.record, FileSet.record,
            FileSet.applyAll_append]

/-- Reading a stream into a set is recording its journal. -/
theorem LineReader.feedStream_eq_record {σ : Type} (r : LineReader σ)
    (S : FileSet) (s : ByteStream) :
    r.feedStream S s = S.record (r.decode s) := by
  unfold feedStream decode
  cases s.failure with
  | none => exact r.feed_eq_record S r.start _
  | some failure => exact (r.stoppedBy failure).feed_eq_record S r.start _

/-- Taking steps into a set is recording the journal of the steps. -/
theorem FileSet.follow_eq_record (S : FileSet)
    (steps : List (Except Fault Edit)) :
    S.follow steps = S.record (.ofSteps steps) := by
  induction steps generalizing S with
  | nil => rfl
  | cons step rest ih =>
      cases step with
      | error fault => rfl
      | ok e =>
          rw [follow, ih, Journal.ofSteps_ok]
          rfl

namespace FileSet

/-- Decoding with the set in hand is recording the journal of the
input. -/
theorem decodeInto_eq_record [Libraries] (S : FileSet) (format : Format)
    (s : Settings) (stream : ByteStream) (pieceSize : Option Nat) :
    S.decodeInto format s stream pieceSize
      = S.record (format.decode s stream pieceSize) := by
  cases format with
  | gcov => exact LineReader.feedStream_eq_record _ _ _
  | lcov => exact LineReader.feedStream_eq_record _ _ _
  | goProfile => exact LineReader.feedStream_eq_record _ _ _
  | gcovJson =>
      simp only [decodeInto, Format.decode, GcovJson.decode]
      cases (Libraries.document
        (Libraries.decompress stream pieceSize)).read
        GcovJson.shape.read with
      | ok d => rfl
      | error fault => rfl
  | llvm =>
      simp only [decodeInto, Format.decode, LlvmExport.decode]
      cases (Libraries.document stream).read LlvmExport.shape.read with
      | error fault => rfl
      | ok e =>
          show _ = S.record e.journal
          unfold LlvmExport.journal
          by_cases htag : e.tag = LlvmExport.expectedTag
          · rw [if_pos htag]
            exact (if_pos htag).trans (follow_eq_record S e.steps)
          · rw [if_neg htag]
            exact if_neg htag

-- ==================================================== edits and inserts

/-- Making edits is inserting the files that the edits alone make. -/
theorem applyAll_eq_insertMany (S : FileSet) (edits : List Edit) :
    S.applyAll edits
      = S.insertMany (FileSet.empty.applyAll edits).values := by
  refine ext_get? fun n => ?_
  rw [get?_insertMany_values S (Keyed.empty.applyAll edits),
    get?_applyAll, get?_applyAll, get?_empty, Option.merge_none_left]

/-- A file that the edits alone do not make is left as it was. -/
theorem get?_applyAll_of_not_contains (S : FileSet) (edits : List Edit)
    {n : String}
    (hn : (FileSet.empty.applyAll edits).contains n = false) :
    (S.applyAll edits).get? n = S.get? n := by
  rw [contains_eq_isSome, Option.isSome_eq_false_iff,
    Option.isNone_iff_eq_none] at hn
  rw [applyAll_eq_insertMany,
    get?_insertMany_values S (Keyed.empty.applyAll edits), hn,
    Option.merge_none_right]

-- ======================================================= decoding adds

/-- Decoding an input into a set meets the fault that it meets alone,
and leaves the set with all files inserted that it leaves alone. Files
that the input does not make stay as they were. This holds of the
reading with the set in hand and of the journal that is recorded,
whatever the libraries make of the input, and also of a stream that
fails. -/
theorem decodeInto_eq_insertMany [Libraries] (S : FileSet)
    (format : Format) (s : Settings) (stream : ByteStream)
    (pieceSize : Option Nat) :
    let alone := FileSet.empty.decodeInto format s stream pieceSize
    S.decodeInto format s stream pieceSize
        = (S.insertMany alone.1.values, alone.2)
      ∧ S.record (format.decode s stream pieceSize)
        = (S.insertMany alone.1.values, alone.2)
      ∧ ∀ n, alone.1.contains n = false →
        (S.decodeInto format s stream pieceSize).1.get? n = S.get? n := by
  intro alone
  have halone : alone
      = FileSet.empty.record (format.decode s stream pieceSize) :=
    decodeInto_eq_record _ _ _ _ _
  have hrecord : S.record (format.decode s stream pieceSize)
      = (S.insertMany alone.1.values, alone.2) := by
    rw [halone, record, record, applyAll_eq_insertMany]
  refine ⟨?_, hrecord, ?_⟩
  · rw [decodeInto_eq_record, hrecord]
  · intro n hn
    rw [halone] at hn
    rw [decodeInto_eq_record]
    exact get?_applyAll_of_not_contains S _ hn

end FileSet

end Coverage
