/-
Reading an input line by line. A reader has a state, reads one line into
a new state and some edits, and has a last word when the lines are
used up. The first line that it refuses stops it, and of that line
nothing is kept. A line that a failure of the stream keeps from its end
is not read at all, and the failure takes the place of the last word.

`run` collects edits in reverse so that long inputs do not nest;
`run_cons` and `run_nil` say what it means.
-/
import Coverage.ByteStream
import Coverage.Journal
import Coverage.Text.Lines

namespace Coverage

/-- How to read a format line by line, with states from `σ`. -/
structure LineReader (σ : Type) where
  /-- The state before the first line. -/
  start : σ
  /-- Reads a line: the next state, and the edits that the line asks
  for. -/
  read : σ → List Char → Except Fault (σ × List Edit)
  /-- What is wrong if the input ends in this state. -/
  finish : σ → Option Fault := fun _ => none

namespace LineReader

variable {σ : Type} (r : LineReader σ)

/-- Reads lines from a state on, behind edits found before, which are in
reverse. -/
def runOnto (found : List Edit) (state : σ) : List (List Char) → Journal
  | [] => ⟨found.reverse, r.finish state⟩
  | line :: rest =>
    match r.read state line with
    | .error fault => ⟨found.reverse, some fault⟩
    | .ok (next, edits) => runOnto (edits.reverseAux found) next rest

/-- Reads lines from a state on. -/
def run (state : σ) (lines : List (List Char)) : Journal :=
  r.runOnto [] state lines

/-- The reader whose last word is that its stream fails. -/
def stoppedBy (failure : InputFault) : LineReader σ :=
  { r with finish := fun _ => some (.input failure) }

/-- Reads a byte stream. -/
def decode (s : ByteStream) : Journal :=
  match s.failure with
  | none => r.run r.start (Text.lines s.bytes)
  | some failure =>
    (r.stoppedBy failure).run r.start (Text.wholeLines s.bytes)

/-- Bytes that are at hand are read line by line. -/
theorem decode_bytes (bytes : List UInt8) :
    r.decode bytes = r.run r.start (Text.lines bytes) := rfl

/-- Edits found before do not change how reading goes on. -/
theorem runOnto_eq (found : List Edit) (state : σ)
    (lines : List (List Char)) :
    r.runOnto found state lines
      = ⟨found.reverse ++ (r.run state lines).edits,
          (r.run state lines).fault⟩ := by
  induction lines generalizing found state with
  | nil => simp [run, runOnto]
  | cons line rest ih =>
    simp only [run, runOnto]
    split
    · simp
    · rename_i next edits _
      rw [ih (edits.reverseAux found) next, ih (edits.reverseAux []) next]
      simp [List.reverseAux_eq]

/-- Without a line the reader has its last word. -/
theorem run_nil (state : σ) : r.run state [] = ⟨[], r.finish state⟩ := rfl

/-- A line is read first, and the lines behind it from the next state. -/
theorem run_cons (state : σ) (line : List Char)
    (rest : List (List Char)) :
    r.run state (line :: rest)
      = match r.read state line with
        | .error fault => .failed fault
        | .ok (next, edits) =>
          ⟨edits ++ (r.run next rest).edits, (r.run next rest).fault⟩ := by
  simp only [run, runOnto]
  split
  · rfl
  · rw [runOnto_eq]
    simp [run, List.reverseAux_eq]

end LineReader

end Coverage
