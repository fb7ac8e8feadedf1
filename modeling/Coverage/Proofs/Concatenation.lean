/-
Tracefiles put end to end. Tools append one tracefile to another, and the
whole is then read as if the two were loaded one after the other: with the
same fault, if there is one, and into the same set
(`FileSet.record_decode_append`).

# The seam

Two things could go wrong where one input ends and the next begins. Lines
could run together, which they do not if the first input ends with a line
feed (`Text.lines_append`). And the file that the first input leaves
selected is still selected when the second is read, while alone the second
would begin with none. This shows only in a record that stands before any
marker of the second input. So it is enough that there is no such record
(`Grammar.Headed`), or that nothing is selected at the seam
(`Grammar.LeavesNone`).

# How it is proved

Reading the second input from two states is the same run until a marker
comes, and behind a marker the states are the same
(`run_eq_of_headed`). The induction is over the lines, for all states at
once: a line that is ignored leads on from both.
-/
import Coverage.Proofs.Attribution
import Coverage.Proofs.GcovGrammar
import Coverage.Proofs.LcovGrammar

namespace Coverage

-- ================================================================= lines

namespace Text

/-- There is no unfinished line at the end. -/
def EndsLine (bytes : List UInt8) : Prop :=
  bytes = [] ∨ bytes.getLast? = some lineFeed

instance (bytes : List UInt8) : Decidable (EndsLine bytes) :=
  inferInstanceAs (Decidable (_ ∨ _))

/-- A line feed ends the raw lines before it. -/
theorem rawLines_append_cons (x y : List UInt8) :
    rawLines (x ++ lineFeed :: y) = x.splitOn lineFeed ++ rawLines y := by
  have hne : y.splitOn lineFeed ≠ [] := List.splitOn_ne_nil _ _
  unfold rawLines
  simp only [List.splitOn_append_cons_self,
    List.getLast?_append_of_ne_nil _ hne]
  split
  · exact List.dropLast_append_of_ne_nil hne
  · rfl

/-- Whole lines stay lines of their own, whatever follows. -/
theorem lines_append {x : List UInt8} (hx : EndsLine x) (y : List UInt8) :
    lines (x ++ y) = lines x ++ lines y := by
  rcases hx with rfl | hlast
  · rfl
  · obtain ⟨x', rfl⟩ : ∃ x', x = x' ++ [lineFeed] :=
      List.getLast?_eq_some_iff.1 hlast
    have hnil : rawLines [] = [] := rfl
    unfold lines
    rw [List.append_assoc, List.singleton_append, rawLines_append_cons,
      rawLines_append_cons, hnil, List.append_nil, List.map_append]

end Text

-- =============================================================== readers

namespace LineReader

variable {σ : Type} {r : LineReader σ} {s t : σ} {ls : List (List Char)}
  {es : List Edit}

/-- Lines without a fault are all taken in. -/
theorem exists_reads_of_fault_eq_none (h : (r.run s ls).fault = none) :
    ∃ t es, r.Reads s ls t es := by
  rcases reads_or_refused r s ls with hreads | hrefused
  · exact hreads
  · obtain ⟨before, line, after, t, es, fault, rfl, hreads, hline⟩ :=
      hrefused
    rw [hreads.run_refused hline] at h
    cases h

/-- Behind lines that are taken in, reading goes on where they led. -/
theorem Reads.run_append (h : r.Reads s ls t es) (ms : List (List Char)) :
    r.run s (ls ++ ms)
      = ⟨es ++ (r.run t ms).edits, (r.run t ms).fault⟩ := by
  induction h with
  | nil s => rfl
  | cons hread _ ih =>
      rw [List.cons_append, run_cons, hread]
      simp only [ih, List.append_assoc]

end LineReader

-- ============================================================ tracefiles

namespace Tracefile

namespace Grammar

variable (G : Grammar)

/-- The line is a record that begins a file. -/
def begins (line : List Char) : Bool :=
  (Record.split (G.body line)).1 == G.fileType.toList

/-- Nothing is said about a file before the first line that begins one. -/
def Headed (lines : List (List Char)) : Prop :=
  ∀ line ∈ lines.takeWhile (! G.begins ·), ∀ kind x,
    ¬ G.Means line (.datum kind x)

/-- No file is selected behind the lines: there is no marker in them, or
the last one ends a file. -/
def LeavesNone (lines : List (List Char)) : Prop :=
  ∃ items, List.Forall₂ G.Means lines items ∧ selected items = none

/-- The second input may be appended to the first: it does not depend on
the file that is selected at the seam, or none is. -/
def Joins (x y : List UInt8) : Prop :=
  G.Headed (Text.lines y) ∨ G.LeavesNone (Text.lines x)

variable {G}

/-- A line that begins a file means nothing else. -/
theorem exists_means_file_of_begins {line : List Char}
    (h : G.begins line = true) : ∃ name, G.Means line (.file name) := by
  have hrecord : Record.IsRecord (G.body line) G.fileType.toList
      (Record.split (G.body line)).2 := by
    rw [← Record.split_eq_iff, ← beq_iff_eq.1 h]
  exact ⟨_, .file hrecord⟩

/-- Behind a line that begins no file the others still come first. -/
theorem Headed.tail {line : List Char} {rest : List (List Char)}
    (h : G.Headed (line :: rest)) (hline : G.begins line = false) :
    (∀ kind x, ¬ G.Means line (.datum kind x)) ∧ G.Headed rest := by
  unfold Headed at h
  rw [List.takeWhile_cons_of_pos (by simp [hline])] at h
  exact List.forall_mem_cons.1 h

end Grammar

variable {G : Grammar} {item : List Char → Except Fault Item}

/-- A line that is read as anything but a file begins none. -/
theorem begins_eq_false (h : G.ReadBy item) {line : List Char} {i : Item}
    (hitem : item line = .ok i) (hi : ∀ name, i ≠ .file name) :
    G.begins line = false := by
  by_contra hb
  obtain ⟨name, hmeans⟩ :=
    Grammar.exists_means_file_of_begins (Bool.not_eq_false _ ▸ hb)
  rw [(h.ok_iff _ _).2 hmeans] at hitem
  cases hitem
  exact hi name rfl

/-- What is selected before makes no difference to lines that say nothing
about a file before they begin one. -/
theorem run_eq_of_headed (h : G.ReadBy item) {lines : List (List Char)}
    (hlines : G.Headed lines) (s t : Option String) :
    (reader item).run s lines = (reader item).run t lines := by
  induction lines generalizing s t with
  | nil => rfl
  | cons line rest ih =>
      have hread : ∀ u, (reader item).read u line = item line >>= step u :=
        fun _ => rfl
      rw [LineReader.run_cons, LineReader.run_cons, hread, hread]
      cases hitem : item line with
      | error fault => rfl
      | ok i =>
          cases i with
          | file name => rfl
          | endOfFile => rfl
          | ignored =>
              -- the two runs go on from the states that they had
              have hbegins := begins_eq_false h hitem (by simp)
              have hrest := ih (hlines.tail hbegins).2 s t
              show (⟨[] ++ ((reader item).run s rest).edits, _⟩ : Journal)
                = ⟨[] ++ ((reader item).run t rest).edits, _⟩
              rw [hrest]
          | datum kind x =>
              have hbegins := begins_eq_false h hitem (by simp)
              exact absurd ((h.ok_iff _ _).1 hitem)
                ((hlines.tail hbegins).1 kind x)

/-- Lines mean one list of items only. -/
theorem means_unique (h : G.ReadBy item) {lines : List (List Char)}
    {is js : List Item} (his : List.Forall₂ G.Means lines is)
    (hjs : List.Forall₂ G.Means lines js) : is = js := by
  have hone : Relator.RightUnique G.Means := by
    intro line i j hi hj
    have hij := ((h.ok_iff line i).2 hi).symm.trans ((h.ok_iff line j).2 hj)
    exact Except.ok.inj hij
  exact hone.forall₂ his hjs

/-- Where the seam is clean, the second input is read behind the first as
it is read alone. -/
theorem decode_append (h : G.ReadBy item) {x y : List UInt8}
    (hx : Text.EndsLine x) (hok : ((reader item).decode x).fault = none)
    (hseam : G.Joins x y) :
    (reader item).decode (x ++ y)
      = ⟨((reader item).decode x).edits ++ ((reader item).decode y).edits,
          ((reader item).decode y).fault⟩ := by
  obtain ⟨t, es, hreads⟩ := LineReader.exists_reads_of_fault_eq_none hok
  have hfirst : (reader item).decode x = ⟨es, none⟩ := hreads.run_eq
  have hsecond : (reader item).run t (Text.lines y)
      = (reader item).decode y := by
    rcases hseam with hheaded | ⟨items, hmeans, hnone⟩
    · exact run_eq_of_headed h hheaded t none
    · obtain ⟨items', hmeans', -, rfl, -⟩ := (reads_iff h).1 hreads
      rw [means_unique h hmeans' hmeans, hnone]
      rfl
  rw [LineReader.decode, Text.lines_append hx, hreads.run_append, hsecond,
    hfirst]

/-- A tracefile behind another is recorded as one after the other. -/
theorem record_append (h : G.ReadBy item) (S : FileSet) {x y : List UInt8}
    (hx : Text.EndsLine x)
    (hok : (S.record ((reader item).decode x)).2 = none)
    (hseam : G.Joins x y) :
    S.record ((reader item).decode (x ++ y))
      = (S.record ((reader item).decode x)).1.record
          ((reader item).decode y) := by
  rw [decode_append h hx hok hseam]
  simp only [FileSet.record, FileSet.applyAll_append]

end Tracefile

-- ======================================================== either format

namespace FileSet

/-- A tracefile of gcov, or one of lcov with a source root or without,
that is read without a fault and ends with its last line may have another
appended to it. The whole leaves the set, and the fault if there is one,
that the second leaves behind the first; provided that the second begins
with a marker or none is in force behind the first. -/
theorem record_decode_append (S : FileSet) {x y : List UInt8}
    (hx : Text.EndsLine x) :
    ((S.record (Gcov.decode x)).2 = none → Gcov.grammar.Joins x y →
      S.record (Gcov.decode (x ++ y))
        = (S.record (Gcov.decode x)).1.record (Gcov.decode y))
    ∧ ∀ root, (S.record (Lcov.decode root x)).2 = none →
      (Lcov.grammar root).Joins x y →
      S.record (Lcov.decode root (x ++ y))
        = (S.record (Lcov.decode root x)).1.record
            (Lcov.decode root y) :=
  ⟨Tracefile.record_append Gcov.readBy S hx,
    fun root => Tracefile.record_append (Lcov.readBy root) S hx⟩

/-- A tracefile of gcov that leaves its file selected. -/
def firstRun : List UInt8 :=
  "file:a.c\nlcount:1,1\n".toUTF8.data.toList

/-- One that names its file behind the version, and breaks off. -/
def secondRun : List UInt8 :=
  "version:8\nfile:b.c\nlcount:2,1\nlcount:3".toUTF8.data.toList

/-- A tracefile of lcov that ends its file. -/
def endedRun : List UInt8 :=
  "SF:a.c\nDA:1,1\nend_of_record\n".toUTF8.data.toList

/-- One that has a record before any file. -/
def orphanRun : List UInt8 := "DA:2,1\n".toUTF8.data.toList

theorem joins_firstRun_secondRun :
    Gcov.grammar.Joins firstRun secondRun := by
  have hbefore : (Text.lines secondRun).takeWhile
      (! Gcov.grammar.begins ·) = ["version:8".toList] := by
    decide +kernel
  have hignored : Gcov.item "version:8".toList = .ok .ignored := rfl
  refine Or.inl fun line hline kind x hmeans => ?_
  rw [hbefore, List.mem_singleton] at hline
  subst hline
  have hitem := (Gcov.readBy.ok_iff _ _).2 hmeans
  rw [hignored] at hitem
  cases hitem

theorem joins_endedRun_orphanRun :
    (Lcov.grammar none).Joins endedRun orphanRun := by
  have hlines : Text.lines endedRun
      = ["SF:a.c".toList, "DA:1,1".toList, "end_of_record".toList] := by
    decide +kernel
  have hmeans := fun line i => ((Lcov.readBy none).ok_iff line i).1
  refine Or.inr ⟨[.file "a.c", .datum .lineHits (.line 1 (.saturate 1)),
    .endOfFile], ?_, rfl⟩
  rw [hlines]
  exact .cons (hmeans _ _ rfl)
    (.cons (hmeans _ _ rfl) (.cons (hmeans _ _ rfl) .nil))

/-- At the one seam a file is selected, but the next input does not care;
at the other none is, and so the record behind it is an orphan. -/
theorem record_decode_append_runs :
    let S := FileSet.empty
    (Text.EndsLine firstRun ∧ Gcov.grammar.Joins firstRun secondRun
      ∧ (S.record (Gcov.decode firstRun)).2 = none
      ∧ S.record (Gcov.decode (firstRun ++ secondRun))
        = (S.record (Gcov.decode firstRun)).1.record
            (Gcov.decode secondRun)
      ∧ (S.record (Gcov.decode (firstRun ++ secondRun))).1.names
        = ["a.c", "b.c"])
    ∧ Text.EndsLine endedRun
      ∧ (Lcov.grammar none).Joins endedRun orphanRun
      ∧ (S.record (Lcov.decode none endedRun)).2 = none
      ∧ S.record (Lcov.decode none (endedRun ++ orphanRun))
        = (S.record (Lcov.decode none endedRun)).1.record
            (Lcov.decode none orphanRun)
      ∧ (S.record (Lcov.decode none (endedRun ++ orphanRun))).2
        = some (.orphan .lineHits) := by
  intro S
  have hfirst : Text.EndsLine firstRun := by decide +kernel
  have hended : Text.EndsLine endedRun := by decide +kernel
  have hgcov : (S.record (Gcov.decode firstRun)).2 = none := by
    decide +kernel
  have hlcov : (S.record (Lcov.decode none endedRun)).2 = none := by
    decide +kernel
  have hjoined := (record_decode_append S hfirst).1 hgcov
    joins_firstRun_secondRun
  have hbroken := (record_decode_append S hended).2 none hlcov
    joins_endedRun_orphanRun
  exact ⟨⟨hfirst, joins_firstRun_secondRun, hgcov, hjoined,
      by decide +kernel⟩,
    hended, joins_endedRun_orphanRun, hlcov, hbroken, by decide +kernel⟩

end FileSet

end Coverage
