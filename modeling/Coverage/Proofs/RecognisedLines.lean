/-
What the line-oriented formats look at. Each of them ignores some lines:
gcov and lcov the records of other types than theirs, profiles the lines
without anything but white space. What is left, as text without line
terminators, and in lcov without white space at the end, is all that an
input says (`LineFormat.recognised`). Two inputs that agree in it leave
the same set with the same fault, from whatever set they are recorded
into (`FileSet.record_eq_of_recognised`).

So there are changes to the bytes of an input that are none to what it
says: a carriage return before a line feed, a line feed at the end, a
line between others that is not recognised, a blank one for instance
(`LineFormat.Recast`). Any number of them may be made and undone.

# How it is proved

A reader that ignores a line stays in its state and asks for nothing, in
every state (`LineReader.Ignores`); what it is in the middle of is not
disturbed, be it a file that is selected or a mode that is still to come.
So its run over all lines is its run over the others, by induction over
the lines (`LineReader.Ignores.run_filter`). That the changes keep the
lines that are recognised is then a matter of cutting lines, and where
they are cut is known byte by byte (`Text.cutLines_append_cons`,
`Text.cutLines_concat_return`).
-/
import Mathlib.Logic.Relation
import Coverage.Proofs.LineEnds
import Coverage.Proofs.Rejection

namespace Coverage

-- =============================================================== readers

namespace LineReader

variable {σ : Type} {r : LineReader σ} {body : List Char → List Char}
  {heeded : List Char → Bool}

/-- The reader looks at the body of a line only, and a line whose body is
not heeded asks for nothing and leaves the state as it is. Blank lines
are among those. -/
structure Ignores (r : LineReader σ) (body : List Char → List Char)
    (heeded : List Char → Bool) : Prop where
  read_body : ∀ state line, r.read state (body line) = r.read state line
  read_other : ∀ state line, heeded (body line) = false →
    r.read state line = .ok (state, [])
  blank : ∀ line, line.all Text.isBlank = true →
    heeded (body line) = false

namespace Ignores

/-- Lines that are not heeded may be left out, from any state on. -/
theorem run_filter (h : r.Ignores body heeded) (state : σ)
    (lines : List (List Char)) :
    r.run state ((lines.map body).filter heeded) = r.run state lines := by
  induction lines generalizing state with
  | nil => rfl
  | cons line rest ih =>
      rw [List.map_cons]
      cases hline : heeded (body line) with
      | true =>
          rw [List.filter_cons_of_pos hline, run_cons, run_cons,
            h.read_body]
          cases r.read state line with
          | error fault => rfl
          | ok p => simp only [ih p.1]
      | false =>
          -- the run over the others goes on from the same state
          rw [List.filter_cons_of_neg (Bool.eq_false_iff.1 hline), run_cons,
            h.read_other state line hline, ih state]
          rfl

/-- What a reader makes of an input is what it makes of the lines that it
heeds. -/
theorem decode_eq (h : r.Ignores body heeded) (bytes : List UInt8) :
    r.decode bytes
      = r.run r.start (((Text.cutLines bytes).map body).filter heeded) := by
  rcases Text.cutLines_eq_or bytes with heq | heq
  · rw [heq, h.run_filter, decode_bytes]
  · have hnil : heeded (body []) = false := h.blank [] rfl
    rw [heq, List.map_append, List.filter_append, List.map_singleton,
      List.filter_cons_of_neg (Bool.eq_false_iff.1 hnil), List.filter_nil,
      List.append_nil, h.run_filter, decode_bytes]

/-- Inputs with the same heeded lines are read alike. -/
theorem decode_congr (h : r.Ignores body heeded) {x y : List UInt8}
    (heq : ((Text.cutLines x).map body).filter heeded
      = ((Text.cutLines y).map body).filter heeded) :
    r.decode x = r.decode y := by
  rw [h.decode_eq, heq, ← h.decode_eq]

end Ignores

end LineReader

/-- The type of a record is cut from its line. -/
theorem Record.mem_of_mem_split {line : List Char} {c : Char}
    (h : c ∈ (split line).1) : c ∈ line := by
  have hrecord : IsRecord line (split line).1 (split line).2 :=
    split_eq_iff.1 rfl
  rcases hrecord.line with hline | ⟨hline, -⟩
  · rw [hline]
    exact List.mem_append_left _ h
  · rw [hline]
    exact h

namespace Tracefile

open Text (isBlank)

/-- The line is a record of one of these types. -/
def isOfType (types : List String) (line : List Char) : Bool :=
  types.any (·.toList == (Record.split line).1)

/-- A record is of none of the types if its own is another one. -/
theorem isOfType_eq_false_iff {types : List String} {line : List Char} :
    isOfType types line = false
      ↔ (Record.split line).1 ∉ types.map (·.toList) := by
  simp only [isOfType, List.any_eq_false, beq_iff_eq, List.mem_map,
    not_exists, not_and]

/-- The reader of a tracefile ignores the records of other types than
those of its grammar. -/
theorem ignores {G : Grammar} {item : List Char → Except Fault Item}
    (h : G.ReadBy item) {types : List String}
    (htypes : G.types = types.map (·.toList))
    (hvisible : (types.all fun t => t.toList.any (! isBlank ·)) = true)
    (hbody : ∀ line, item (G.body line) = item line)
    (hstart : ∀ line, G.body line <+: line) :
    (reader item).Ignores G.body (isOfType types) where
  read_body state line := by
    show item (G.body line) >>= step state = item line >>= step state
    rw [hbody]
  read_other state line hline := by
    rw [isOfType_eq_false_iff, ← htypes] at hline
    have hitem : item line = .ok .ignored :=
      (h.ok_iff line _).2 (.ignored hline (Record.split_eq_iff.1 rfl))
    show item line >>= step state = _
    rw [hitem]
    rfl
  blank line hblank := by
    rw [isOfType_eq_false_iff, List.mem_map]
    rintro ⟨t, ht, htype⟩
    obtain ⟨c, hc, hshown⟩ :=
      List.any_eq_true.1 (List.all_eq_true.1 hvisible t ht)
    rw [htype] at hc
    have hmem := (hstart line).subset (Record.mem_of_mem_split hc)
    rw [List.all_eq_true.1 hblank c hmem] at hshown
    cases hshown

end Tracefile

-- =============================================================== formats

/-- The formats that are read line by line. File names in lcov may be
made relative to a source root. -/
inductive LineFormat
  | gcov
  | lcov (root : Option (List Char))
  | goProfile

namespace LineFormat

open Text

/-- What a byte stream in this format asks for. -/
def decode (f : LineFormat) (bytes : List UInt8) : Journal :=
  match f with
  | .gcov => Gcov.decode bytes
  | .lcov root => Lcov.decode root bytes
  | .goProfile => GoProfile.decode bytes

/-- The part of a line that is looked at. -/
def body : LineFormat → List Char → List Char
  | .gcov => id
  | .lcov _ => trimEnd isBlank
  | .goProfile => id

/-- The line is not ignored. -/
def recognises : LineFormat → List Char → Bool
  | .gcov => Tracefile.isOfType ["file", "function", "lcount", "branch"]
  | .lcov _ =>
    Tracefile.isOfType ["SF", "end_of_record", "FN", "FNDA", "DA", "BRDA"]
  | .goProfile => fun line => !line.all isBlank

/-- The lines of an input that are not ignored, as they are looked at. -/
def recognised (f : LineFormat) (bytes : List UInt8) :
    List (List Char) :=
  ((cutLines bytes).map f.body).filter f.recognises

/-- The reader of gcov heeds the records of four types. -/
theorem ignores_gcov : Gcov.reader.Ignores (body .gcov)
    (recognises .gcov) :=
  Tracefile.ignores Gcov.readBy rfl (by decide +kernel) (fun _ => rfl)
    fun line => List.prefix_rfl

/-- The reader of lcov heeds the records of six types, without white space
at the end of a line. -/
theorem ignores_lcov (root : Option (List Char)) :
    (Lcov.reader root).Ignores (body (.lcov root))
      (recognises (.lcov root)) := by
  refine Tracefile.ignores (Lcov.readBy root) rfl (by decide +kernel)
    (fun line => ?_) fun line => trimEnd_isPrefix isBlank line
  show Lcov.item root (trimEnd isBlank line) = _
  rw [Lcov.item, trimEnd_trimEnd, Lcov.item]

/-- The reader of profiles heeds the lines that are not blank. -/
theorem ignores_goProfile : GoProfile.reader.Ignores (body .goProfile)
    (recognises .goProfile) where
  read_body _ _ := rfl
  read_other state line hline := by
    have hblank : line.all isBlank = true := by
      simpa [recognises, body] using hline
    exact GoProfile.read_of_blank hblank state
  blank line hblank := by
    show (!line.all isBlank) = false
    rw [hblank]
    rfl

/-- Inputs with the same recognised lines ask for the same. -/
theorem decode_eq_of_recognised {f : LineFormat} {x y : List UInt8}
    (h : f.recognised x = f.recognised y) : f.decode x = f.decode y := by
  cases f with
  | gcov => exact ignores_gcov.decode_congr h
  | lcov root => exact (ignores_lcov root).decode_congr h
  | goProfile => exact ignores_goProfile.decode_congr h

/-- No format recognises a blank line. -/
theorem recognises_of_blank (f : LineFormat) {line : List Char}
    (h : line.all isBlank = true) : f.recognises (f.body line) = false := by
  cases f with
  | gcov => exact ignores_gcov.blank line h
  | lcov root => exact (ignores_lcov root).blank line h
  | goProfile => exact ignores_goProfile.blank line h

-- =============================================================== changes

/-- A change to the bytes of an input that is none to what it says. -/
inductive Recast (f : LineFormat) : List UInt8 → List UInt8 → Prop
  /-- A carriage return is put before a line feed. -/
  | returned (x y : List UInt8) :
      Recast f (x ++ lineFeed :: y) (x ++ carriageReturn :: lineFeed :: y)
  /-- A line feed is put at the end. -/
  | ended (x : List UInt8) : Recast f x (x ++ [lineFeed])
  /-- A line that is not recognised is put where a line may begin. -/
  | inserted {x raw : List UInt8} (hx : EndsLine x)
      (hraw : lineFeed ∉ raw)
      (hline : f.recognises (f.body (cutLine raw)) = false)
      (y : List UInt8) :
      Recast f (x ++ y) (x ++ (raw ++ lineFeed :: y))
  /-- A line with nothing but white space is put where one may begin. -/
  | spaced {x raw : List UInt8} (hx : EndsLine x) (hraw : lineFeed ∉ raw)
      (hblank : (Utf8.decode raw).all isBlank = true) (y : List UInt8) :
      Recast f (x ++ y) (x ++ (raw ++ lineFeed :: y))

/-- A line between others goes if it is not recognised. -/
theorem recognised_inserted {f : LineFormat} {x raw : List UInt8}
    (hx : EndsLine x) (hraw : lineFeed ∉ raw)
    (hline : f.recognises (f.body (cutLine raw)) = false)
    (y : List UInt8) :
    f.recognised (x ++ (raw ++ lineFeed :: y)) = f.recognised (x ++ y) := by
  unfold recognised
  rw [cutLines_append hx, cutLines_append hx, cutLines_append_cons,
    cutLines_of_not_mem hraw, List.singleton_append, List.map_append,
    List.map_append, List.filter_append, List.filter_append, List.map_cons,
    List.filter_cons_of_neg (Bool.eq_false_iff.1 hline)]

/-- A change keeps the lines that are recognised. -/
theorem Recast.recognised_eq {f : LineFormat} {x y : List UInt8}
    (h : f.Recast x y) : f.recognised x = f.recognised y := by
  cases h with
  | returned x y =>
      have hcut : cutLines (x ++ carriageReturn :: lineFeed :: y)
          = cutLines (x ++ lineFeed :: y) := by
        rw [List.append_cons, cutLines_append_cons, cutLines_concat_return,
          cutLines_append_cons]
      rw [recognised, recognised, hcut]
  | ended x =>
      have hnil : f.recognises (f.body []) = false :=
        f.recognises_of_blank rfl
      have hcut : cutLines (x ++ [lineFeed]) = cutLines x ++ [[]] :=
        cutLines_append_cons x []
      rw [recognised, recognised, hcut, List.map_append, List.filter_append,
        List.map_singleton,
        List.filter_cons_of_neg (Bool.eq_false_iff.1 hnil), List.filter_nil,
        List.append_nil]
  | inserted hx hraw hline y => exact (recognised_inserted hx hraw hline y).symm
  | @spaced x raw hx hraw hblank y =>
      have hline : (cutLine raw).all isBlank = true :=
        List.all_eq_true.2 fun c hc => List.all_eq_true.1 hblank c
          ((trimEnd_isPrefix isLineEnd _).subset hc)
      exact (recognised_inserted hx hraw (f.recognises_of_blank hline) y).symm

/-- So do any number of changes, made or undone. -/
theorem recognised_eq_of_eqvGen {f : LineFormat} {x y : List UInt8}
    (h : Relation.EqvGen f.Recast x y) : f.recognised x = f.recognised y := by
  induction h with
  | rel _ _ hchange => exact hchange.recognised_eq
  | refl _ => rfl
  | symm _ _ _ ih => exact ih.symm
  | trans _ _ _ _ _ ih ih' => exact ih.trans ih'

/-- Carriage returns everywhere are such a change, one by one. -/
theorem eqvGen_withReturns (f : LineFormat) (before x : List UInt8) :
    Relation.EqvGen f.Recast (before ++ x) (before ++ withReturns x) := by
  induction x generalizing before with
  | nil => exact .refl _
  | cons b rest ih =>
      by_cases hb : b = lineFeed
      · have hreturns : withReturns (b :: rest)
            = [carriageReturn, lineFeed] ++ withReturns rest := by
          rw [withReturns, List.flatMap_cons, if_pos hb, withReturns]
        have hrest := ih (before ++ [carriageReturn, lineFeed])
        rw [List.append_assoc, List.append_assoc] at hrest
        rw [hreturns, hb]
        exact .trans _ _ _ (.rel _ _ (.returned before rest)) hrest
      · have hreturns : withReturns (b :: rest)
            = [b] ++ withReturns rest := by
          rw [withReturns, List.flatMap_cons, if_neg hb, withReturns]
        have hrest := ih (before ++ [b])
        rw [List.append_assoc, List.append_assoc] at hrest
        rw [hreturns]
        exact hrest

end LineFormat

-- ============================================================= any input

namespace FileSet

/-- Two inputs of which the format recognises the same lines leave the
same set, and the same fault or none, from whatever set they are recorded
into. No number of changes to terminators and to lines that the format
ignores makes a difference, and carriage returns before all line feeds
are such changes. -/
theorem record_eq_of_recognised (S : FileSet) (f : LineFormat) :
    (∀ x y, f.recognised x = f.recognised y →
      S.record (f.decode x) = S.record (f.decode y))
    ∧ (∀ x y, Relation.EqvGen f.Recast x y →
      S.record (f.decode x) = S.record (f.decode y))
    ∧ ∀ x, Relation.EqvGen f.Recast x (Text.withReturns x) := by
  refine ⟨fun x y h => ?_, fun x y h => ?_, f.eqvGen_withReturns []⟩
  · rw [LineFormat.decode_eq_of_recognised h]
  · rw [LineFormat.decode_eq_of_recognised
      (LineFormat.recognised_eq_of_eqvGen h)]

/-- A tracefile of lcov. -/
def plainLines : List UInt8 :=
  "SF:/r/a.c\nDA:1,1\nend_of_record\n".toUTF8.data.toList

/-- The same with summaries, blank lines and spaces at the ends of lines,
and with its last line unfinished. -/
def dressedLines : List UInt8 :=
  "TN:t\r\nSF:/r/a.c \r\n\nDA:1,1\nLF:1\nend_of_record".toUTF8.data.toList

/-- A profile whose last line is no block, and ends within a character. -/
def brokenProfile : List UInt8 :=
  "mode: set\na.go:1.1,2.1 1 1\nb.go:".toUTF8.data.toList
    ++ [0xC3, 0x0A]

/-- A tracefile is read as before, and a profile is refused as before. -/
theorem record_eq_of_recognised_lines :
    let S := FileSet.empty
    let lcov := LineFormat.lcov (some "/r".toList)
    let go := LineFormat.goProfile
    (lcov.recognised plainLines = lcov.recognised dressedLines
      ∧ S.record (lcov.decode plainLines)
        = S.record (lcov.decode dressedLines)
      ∧ (S.record (lcov.decode dressedLines)).1.names = ["a.c"])
    ∧ Relation.EqvGen go.Recast brokenProfile
        (Text.withReturns brokenProfile)
      ∧ S.record (go.decode brokenProfile)
        = S.record (go.decode (Text.withReturns brokenProfile))
      ∧ (S.record (go.decode (Text.withReturns brokenProfile))).2
        = some (.record .block "b.go:\uFFFD".toList
            (.separator .afterStart)) := by
  intro S lcov go
  have hlines : lcov.recognised plainLines
      = lcov.recognised dressedLines := by
    decide +kernel
  have hreturns := (record_eq_of_recognised S go).2.2 brokenProfile
  exact ⟨⟨hlines, (record_eq_of_recognised S lcov).1 _ _ hlines,
      by decide +kernel⟩,
    hreturns, (record_eq_of_recognised S go).2.1 _ _ hreturns,
    by decide +kernel⟩

end FileSet

end Coverage
