/-
What is left of an input that fails. Tracefiles and profiles are read up
to the first line that is refused. The set is then what the lines before
have made of it, the line itself leaves no trace, and the lines behind it
could be any others (`StopsAt`).

Why a line is refused is known as well. In a tracefile a record is
refused as malformed if its payload says nothing, whether there is a
current file or not, and as an orphan if it says something and there is
none. In a profile a line is refused because it should say the mode, or
because it is no block. A profile fails without such a line only if it
has nothing but blank lines.

# How it is proved

Either a reader takes in all lines or there is a first that it refuses
(`LineReader.reads_or_refused`). Lines before it that are taken in mean
items (`Tracefile.reads_iff`), and the reader is in the state that these
lead to; so the fault can be read off the line and those items.
-/
import Coverage.Proofs.Attribution
import Coverage.Proofs.Decoding
import Coverage.Proofs.GcovGrammar
import Coverage.Proofs.LcovGrammar

namespace Coverage

open Record (IsRecord Blames)

-- ============================================================== stopping

namespace LineReader

variable {σ : Type} {r : LineReader σ} {S : FileSet} {bytes : List UInt8}
  {fault : Fault}

/-- Reading the bytes into the set stops at the line with the fault. The
lines before are all taken in, and whatever follows the line, the set
is what they have made of it. -/
structure StopsAt (r : LineReader σ) (S : FileSet) (bytes : List UInt8)
    (before : List (List Char)) (line : List Char) (fault : Fault) :
    Prop where
  lines : before ++ [line] <+: Text.lines bytes
  refused : ∃ state edits, r.Reads r.start before state edits
    ∧ r.read state line = .error fault
  outcome : ∀ others, before ++ [line] <+: Text.lines others →
    S.record (r.decode others) = ((r.feed S r.start before).1, some fault)

/-- A reading that fails stops at a line or at the end. -/
theorem stopsAt_or_finish
    (h : (S.record (r.decode bytes)).2 = some fault) :
    (∃ before line, r.StopsAt S bytes before line fault)
      ∨ ∃ state edits, r.Reads r.start (Text.lines bytes) state edits
        ∧ r.finish state = some fault := by
  change (r.run r.start (Text.lines bytes)).fault = some fault at h
  rcases reads_or_refused r r.start (Text.lines bytes) with
    ⟨state, edits, hreads⟩ | hrefused
  · rw [hreads.run_eq] at h
    exact Or.inr ⟨state, edits, hreads, h⟩
  · obtain ⟨before, line, after, state, edits, fault', hlines, hreads,
      hline⟩ := hrefused
    rw [hlines, hreads.run_refused hline] at h
    cases h
    refine Or.inl ⟨before, line, ?_, ⟨state, edits, hreads, hline⟩, ?_⟩
    · exact ⟨after, by rw [hlines, ← List.append_cons]⟩
    · rintro others ⟨rest, hrest⟩
      rw [decode, ← hrest, List.append_assoc, List.singleton_append,
        hreads.run_refused hline, feed_eq_record, hreads.run_eq]
      rfl

end LineReader

-- ============================================================ tracefiles

namespace Tracefile

/-- A line behind these items is refused with this fault: it is a record
about a file, and its payload says nothing, or it says something but no
file is selected. -/
inductive Grammar.Refusal (G : Grammar) (before : List Item)
    (line : List Char) : Fault → Prop
  | malformed {kind : RecordKind} {payload : List Char} (defect : Defect)
      (hkind : kind ∈ G.kinds)
      (hline : IsRecord (G.body line) kind.name.toList payload)
      (hnothing : ∀ x, ¬ G.Says payload kind x) :
      Refusal G before line (.record kind payload defect)
  | orphan {kind : RecordKind} {payload : List Char} {x : Datum}
      (hkind : kind ∈ G.kinds)
      (hline : IsRecord (G.body line) kind.name.toList payload)
      (hsaid : G.Says payload kind x) (hnone : selected before = none) :
      Refusal G before line (.orphan kind)

variable {G : Grammar} {item : List Char → Except Fault Item}

/-- A line that the reader refuses behind these items is refused for one
of the two reasons. -/
theorem refusal_of_read (h : G.ReadBy item) {before : List Item}
    {line : List Char} {fault : Fault}
    (hline : (reader item).read (selected before) line = .error fault) :
    G.Refusal before line fault := by
  change item line >>= step (selected before) = .error fault at hline
  cases hitem : item line with
  | error fault' =>
      rw [hitem] at hline
      cases hline
      obtain ⟨kind, hkind, payload, defect, hrecord, rfl⟩ :=
        h.blames line fault hitem
      refine .malformed defect hkind hrecord fun x hx => ?_
      rw [(h.ok_iff line _).2 (.datum hkind hrecord hx)] at hitem
      cases hitem
  | ok i =>
      rw [hitem] at hline
      change step (selected before) i = .error fault at hline
      have hmeans := (h.ok_iff line i).1 hitem
      -- markers are never refused, only data without a file
      cases hmeans with
      | file hrecord => cases hline
      | endOfFile hend hrecord => cases hline
      | ignored htype hrecord => cases hline
      | datum hkind hrecord hsaid =>
          cases hs : selected before with
          | some file =>
              rw [hs] at hline
              cases hline
          | none =>
              rw [hs] at hline
              cases hline
              exact .orphan hkind hrecord hsaid hs

/-- A tracefile that fails has a line that is refused, behind lines that
all mean something. -/
theorem refusal_of_fault (h : G.ReadBy item) {S : FileSet}
    {bytes : List UInt8} {fault : Fault}
    (hfault : (S.record ((reader item).decode bytes)).2 = some fault) :
    ∃ before line items, (reader item).StopsAt S bytes before line fault
      ∧ List.Forall₂ G.Means before items
      ∧ G.Refusal items line fault := by
  rcases LineReader.stopsAt_or_finish hfault with
    ⟨before, line, hstops⟩ | ⟨state, edits, -, hfinish⟩
  · obtain ⟨state, edits, hreads, hline⟩ := hstops.refused
    obtain ⟨items, hmeans, -, rfl, -⟩ := (reads_iff h).1 hreads
    exact ⟨before, line, items, hstops, hmeans, refusal_of_read h hline⟩
  · cases hfinish

end Tracefile

-- ============================================================== profiles

namespace GoProfile

/-- The line has nothing but white space. -/
def Blank (line : List Char) : Prop := line.all Text.isBlank = true

/-- A line behind these lines is refused with this fault. Neither happens
to a blank line. -/
inductive Refusal (before : List (List Char)) (line : List Char) :
    Fault → Prop
  | missingMode (hbefore : ∀ l ∈ before, Blank l) (hline : ¬ Blank line)
      (hmode : ¬ "mode:".toList <+: line) : Refusal before line .missingMode
  | block (defect : Defect) (hbefore : ∃ l ∈ before, ¬ Blank l)
      (hline : ¬ Blank line) :
      Refusal before line (.record .block line defect)

theorem blames_cut (whole : List Char) (which : BlockSeparator)
    (sep : Char) (text : List Char) :
    Blames .block whole (cut whole which sep text) := by
  unfold cut
  split
  · exact .ok _
  · exact .error _

theorem blames_readPosition (whole text : List Char) :
    Blames .block whole (readPosition whole text) := by
  unfold readPosition
  split
  · exact .bind (.readNumber _ _) fun _ => .bind (.readNumber _ _)
      fun _ => .ok _
  · exact .error _

/-- A line that is no block is blamed as a whole. -/
theorem blames_readBlock (whole : List Char) :
    Blames .block whole (readBlock whole) := by
  unfold readBlock
  refine .bind (blames_cut _ _ _ _) fun (file, rest) => ?_
  dsimp only
  split
  · exact .error _
  · refine .bind (blames_cut _ _ _ _) fun _ => ?_
    refine .bind (blames_cut _ _ _ _) fun _ => ?_
    refine .bind (blames_cut _ _ _ _) fun _ => ?_
    refine .bind (blames_readPosition _ _) fun _ => ?_
    refine .bind (blames_readPosition _ _) fun _ => ?_
    refine .bind (.readNumber _ _) fun _ => ?_
    refine .bind (.readCount _ _) fun _ => ?_
    split
    · exact .error _
    · exact .ok _

theorem read_of_blank {line : List Char} (h : Blank line) (seen : Bool) :
    read seen line = .ok (seen, []) := if_pos h

theorem read_of_not_blank {line : List Char} (h : ¬ Blank line)
    (seen : Bool) :
    read seen line
      = if seen then
          readBlock line >>= fun b =>
            pure (true, [.add b.file (.region b.region b.count)])
        else if isMode line then .ok (true, [])
        else .error .missingMode := if_neg h

/-- A line that is not blank is read as the mode or behind it. -/
theorem next_of_read {seen next : Bool} {line : List Char}
    {edits : List Edit} (hline : ¬ Blank line)
    (h : read seen line = .ok (next, edits)) : next = true := by
  rw [read_of_not_blank hline] at h
  split at h
  · obtain ⟨block, -, h⟩ := exceptBind_eq_ok_iff.1 h
    cases h
    rfl
  · split at h
    · cases h
      rfl
    · cases h

/-- The mode was seen if there was a line that is not blank. -/
theorem state_of_reads {s t : Bool} {lines : List (List Char)}
    {edits : List Edit} (h : reader.Reads s lines t edits) :
    t = true ↔ s = true ∨ ∃ l ∈ lines, ¬ Blank l := by
  induction h with
  | nil s => simp
  | @cons s next u line rest es fs hread _ ih =>
      rw [ih, List.exists_mem_cons_iff]
      by_cases hline : Blank line
      · cases (read_of_blank hline s).symm.trans hread
        simp [hline]
      · rw [next_of_read hline hread]
        simp [hline]

/-- Blank lines ask for nothing. -/
theorem edits_of_blank {s t : Bool} {lines : List (List Char)}
    {edits : List Edit} (h : reader.Reads s lines t edits)
    (hblank : ∀ l ∈ lines, Blank l) : edits = [] := by
  induction h with
  | nil s => rfl
  | cons hread _ ih =>
      obtain ⟨hline, hrest⟩ := List.forall_mem_cons.1 hblank
      cases (read_of_blank hline _).symm.trans hread
      exact ih hrest

/-- A line that the reader refuses is refused for one of the two
reasons. -/
theorem refusal_of_read {before : List (List Char)} {line : List Char}
    {state : Bool} {edits : List Edit} {fault : Fault}
    (hreads : reader.Reads false before state edits)
    (hline : read state line = .error fault) : Refusal before line fault := by
  -- the state tells whether a line before was not blank
  have hseen : state = true ↔ ∃ l ∈ before, ¬ Blank l := by
    rw [state_of_reads hreads]
    simp
  have hblank : ¬ Blank line := by
    intro h
    rw [read_of_blank h] at hline
    cases hline
  rw [read_of_not_blank hblank] at hline
  split at hline
  · next hstate =>
      cases hread : readBlock line with
      | ok block =>
          rw [hread] at hline
          cases hline
      | error fault' =>
          rw [hread] at hline
          cases hline
          obtain ⟨defect, rfl⟩ := blames_readBlock line fault hread
          exact .block defect (hseen.1 hstate) hblank
  · next hstate =>
      split at hline
      · cases hline
      · next hmode =>
          cases hline
          refine .missingMode (fun l hl => ?_) hblank fun h =>
            hmode (List.isPrefixOf_iff_prefix.2 h)
          by_contra hl'
          exact hstate (hseen.2 ⟨l, hl, hl'⟩)

/-- A profile that fails is blank, or it has a line that is refused. -/
theorem refusal_of_fault {S : FileSet} {bytes : List UInt8} {fault : Fault}
    (hfault : (S.record (decode bytes)).2 = some fault) :
    ((∀ line ∈ Text.lines bytes, Blank line) ∧ fault = .missingMode
        ∧ (S.record (decode bytes)).1 = S)
      ∨ ∃ before line, reader.StopsAt S bytes before line fault
        ∧ Refusal before line fault := by
  rcases LineReader.stopsAt_or_finish hfault with
    ⟨before, line, hstops⟩ | ⟨state, edits, hreads, hfinish⟩
  · obtain ⟨state, edits, hreads, hline⟩ := hstops.refused
    exact Or.inr ⟨before, line, hstops, refusal_of_read hreads hline⟩
  · cases state with
    | true => cases hfinish
    | false =>
        cases hfinish
        have hblank : ∀ line ∈ Text.lines bytes, Blank line := by
          intro line hline
          by_contra hne
          cases (state_of_reads hreads).2 (Or.inr ⟨line, hline, hne⟩)
        refine Or.inl ⟨hblank, rfl, ?_⟩
        show S.applyAll (reader.run reader.start (Text.lines bytes)).edits
          = S
        rw [hreads.run_eq, edits_of_blank hreads hblank]
        rfl

end GoProfile

-- ============================================================= any input

namespace FileSet

/-- An input in one of the three text formats that fails stops at its
first line that is refused, with a fault that follows from that line and
the ones before; or it is a profile with nothing but blank lines, which
has no mode and changes nothing. -/
theorem stopsAt_of_fault (S : FileSet) (bytes : List UInt8)
    (fault : Fault) :
    ((S.record (Gcov.decode bytes)).2 = some fault →
      ∃ before line items,
        Gcov.reader.StopsAt S bytes before line fault
          ∧ List.Forall₂ Gcov.grammar.Means before items
          ∧ Gcov.grammar.Refusal items line fault)
    ∧ (∀ root, (S.record (Lcov.decode root bytes)).2 = some fault →
      ∃ before line items,
        (Lcov.reader root).StopsAt S bytes before line fault
          ∧ List.Forall₂ (Lcov.grammar root).Means before items
          ∧ (Lcov.grammar root).Refusal items line fault)
    ∧ ((S.record (GoProfile.decode bytes)).2 = some fault →
      ((∀ line ∈ Text.lines bytes, GoProfile.Blank line)
          ∧ fault = .missingMode
          ∧ (S.record (GoProfile.decode bytes)).1 = S)
        ∨ ∃ before line,
          GoProfile.reader.StopsAt S bytes before line fault
            ∧ GoProfile.Refusal before line fault) :=
  ⟨Tracefile.refusal_of_fault Gcov.readBy,
    fun root => Tracefile.refusal_of_fault (Lcov.readBy root),
    GoProfile.refusal_of_fault⟩

/-- A line count without its count, before any file is named. -/
def countless : List UInt8 :=
  "version:8.2.0\nlcount:1\nfile:a.c\n".toUTF8.data.toList

/-- A record behind the end of its file. -/
def afterEnd : List UInt8 :=
  "SF:a.c\nDA:1,1\nend_of_record\nDA:2,1\nSF:b.c\n".toUTF8.data.toList

/-- A count is missing, a file has ended, and a profile is blank. -/
theorem stopsAt_countless_afterEnd_blank :
    (∃ before line,
      Gcov.reader.StopsAt FileSet.empty countless before line
        (.record .lcount ['1'] (.fieldCount [2, 3] 1)))
    ∧ (∃ before line items,
      (Lcov.reader none).StopsAt FileSet.empty afterEnd before line
          (.orphan .lineHits)
        ∧ (Lcov.grammar none).Refusal items line (.orphan .lineHits))
    ∧ ((∀ line ∈ Text.lines [32, 10], GoProfile.Blank line)
      ∨ ∃ before line,
        GoProfile.reader.StopsAt FileSet.empty [32, 10] before line
          .missingMode) := by
  refine ⟨?_, ?_, ?_⟩
  · obtain ⟨before, line, items, hstops, -⟩ :=
      (stopsAt_of_fault FileSet.empty countless
        (.record .lcount ['1'] (.fieldCount [2, 3] 1))).1
          (by decide +kernel)
    exact ⟨before, line, hstops⟩
  · obtain ⟨before, line, items, hstops, -, hrefusal⟩ :=
      (stopsAt_of_fault FileSet.empty afterEnd (.orphan .lineHits)).2.1
        none (by decide +kernel)
    exact ⟨before, line, items, hstops, hrefusal⟩
  · rcases (stopsAt_of_fault FileSet.empty [32, 10] .missingMode).2.2
      (by decide +kernel) with ⟨hblank, -⟩ | ⟨before, line, hstops, -⟩
    · exact Or.inl hblank
    · exact Or.inr ⟨before, line, hstops⟩

end FileSet

end Coverage
