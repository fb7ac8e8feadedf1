/-
Following a line reader. `Reads` says that the lines are all taken in,
where this leads, and what they ask for.

Either all lines are taken in, or there is a first one that is refused
(`reads_or_refused`). What comes behind that one is never looked at
(`Reads.run_refused`), so the journal is known from the lines before it.
-/
import Coverage.LineReader

namespace Coverage.LineReader

/-- The reader takes the lines from one state to another, and they ask
for these edits. -/
inductive Reads {σ : Type} (r : LineReader σ) :
    σ → List (List Char) → σ → List Edit → Prop
  | nil (s : σ) : Reads r s [] s []
  | cons {s t u : σ} {line : List Char} {rest : List (List Char)}
      {es fs : List Edit} (h : r.read s line = .ok (t, es))
      (hrest : Reads r t rest u fs) : Reads r s (line :: rest) u (es ++ fs)

namespace Reads

variable {σ : Type} {r : LineReader σ} {s t u : σ}
  {ls ms : List (List Char)} {es fs : List Edit}

/-- One line alone. -/
theorem line {l : List Char} (h : r.read s l = .ok (t, es)) :
    r.Reads s [l] t es := by
  have hone := Reads.cons h (.nil t)
  rwa [List.append_nil] at hone

/-- One stretch after the other. -/
theorem append (h : r.Reads s ls t es) (h' : r.Reads t ms u fs) :
    r.Reads s (ls ++ ms) u (es ++ fs) := by
  induction h with
  | nil s => exact h'
  | cons hread _ ih =>
      rw [List.cons_append, List.append_assoc]
      exact .cons hread (ih h')

/-- Parts that each lead back to the state. -/
theorem flatMap {α : Type} {f : α → List (List Char)}
    {g : α → List Edit} (h : ∀ a, r.Reads s (f a) s (g a)) (as : List α) :
    r.Reads s (as.flatMap f) s (as.flatMap g) := by
  induction as with
  | nil => exact .nil s
  | cons a as ih =>
      rw [List.flatMap_cons, List.flatMap_cons]
      exact (h a).append ih

/-- Lines that each lead back to the state. -/
theorem map {α : Type} {f : α → List Char} {g : α → Edit}
    (h : ∀ a, r.Reads s [f a] s [g a]) (as : List α) :
    r.Reads s (as.map f) s (as.map g) := by
  rw [List.map_eq_flatMap, List.map_eq_flatMap]
  exact flatMap h as

/-- Parts that can each be read from any state. -/
theorem flatMap_any {α : Type} {f : α → List (List Char)}
    {g : α → List Edit} (h : ∀ s a, ∃ t, r.Reads s (f a) t (g a)) (s : σ)
    (as : List α) : ∃ t, r.Reads s (as.flatMap f) t (as.flatMap g) := by
  induction as generalizing s with
  | nil => exact ⟨s, .nil s⟩
  | cons a as ih =>
      obtain ⟨t, ha⟩ := h s a
      obtain ⟨u, has⟩ := ih t
      exact ⟨u, ha.append has⟩

/-- Lines that are read through are the whole journal. -/
theorem run_eq (h : r.Reads s ls t es) : r.run s ls = ⟨es, r.finish t⟩ := by
  induction h with
  | nil s => rfl
  | cons hread _ ih =>
      rw [LineReader.run_cons, hread]
      dsimp only
      rw [ih]

end Reads

variable {σ : Type} {r : LineReader σ} {s t u : σ}
  {ls : List (List Char)} {es : List Edit}

theorem reads_nil_iff : r.Reads s [] t es ↔ t = s ∧ es = [] := by
  constructor
  · intro h
    cases h
    exact ⟨rfl, rfl⟩
  · rintro ⟨rfl, rfl⟩
    exact .nil t

/-- The last line is read in the state that the others lead to. -/
theorem reads_concat_iff {l : List Char} :
    r.Reads s (ls ++ [l]) u es
      ↔ ∃ t fs gs, r.Reads s ls t fs ∧ r.read t l = .ok (u, gs)
        ∧ es = fs ++ gs := by
  constructor
  · intro h
    induction ls generalizing s es with
    | nil =>
        cases h with
        | cons hl hnil =>
            obtain ⟨rfl, rfl⟩ := reads_nil_iff.1 hnil
            exact ⟨s, [], _, .nil s, hl, List.append_nil _⟩
    | cons first rest ih =>
        cases h with
        | cons hfirst hrest =>
            obtain ⟨t, fs, gs, hfs, hl, rfl⟩ := ih hrest
            exact ⟨t, _, gs, .cons hfirst hfs, hl,
              (List.append_assoc _ _ _).symm⟩
  · rintro ⟨t, fs, gs, hfs, hl, rfl⟩
    exact hfs.append (.line hl)

-- ============================================================== refusal

/-- The lines are all taken in, or there is a first one that is
refused. -/
theorem reads_or_refused (r : LineReader σ) (s : σ)
    (ls : List (List Char)) :
    (∃ t es, r.Reads s ls t es)
      ∨ ∃ before line after t es fault, ls = before ++ line :: after
        ∧ r.Reads s before t es ∧ r.read t line = .error fault := by
  induction ls generalizing s with
  | nil => exact Or.inl ⟨s, [], .nil s⟩
  | cons l ls ih =>
      cases hl : r.read s l with
      | error fault =>
          exact Or.inr ⟨[], l, ls, s, [], fault, rfl, .nil s, hl⟩
      | ok p =>
          obtain ⟨next, edits⟩ := p
          rcases ih next with ⟨t, es, h⟩ | hrefused
          · exact Or.inl ⟨t, _, .cons hl h⟩
          · obtain ⟨before, line, after, t, es, fault, rfl, h, hline⟩ :=
              hrefused
            exact Or.inr ⟨l :: before, line, after, t, _, fault, rfl,
              .cons hl h, hline⟩

/-- Nothing behind a line that is refused matters. -/
theorem Reads.run_refused {line : List Char} {fault : Fault}
    (h : r.Reads s ls t es) (hline : r.read t line = .error fault)
    (after : List (List Char)) :
    r.run s (ls ++ line :: after) = ⟨es, some fault⟩ := by
  induction h with
  | nil s =>
      rw [List.nil_append, run_cons, hline]
      rfl
  | cons hread _ ih =>
      rw [List.cons_append, run_cons, hread]
      dsimp only
      rw [ih hline]

-- ========================================================= every edit

/-- What holds of all edits that a line can ask for holds of all edits
that an input asks for. -/
theorem forall_mem_edits_run {P : Edit → Prop}
    (h : ∀ s line t es, r.read s line = .ok (t, es) → ∀ e ∈ es, P e)
    (s : σ) (ls : List (List Char)) : ∀ e ∈ (r.run s ls).edits, P e := by
  induction ls generalizing s with
  | nil => exact fun e he => absurd he List.not_mem_nil
  | cons l ls ih =>
      rw [run_cons]
      cases hl : r.read s l with
      | error fault => exact fun e he => absurd he List.not_mem_nil
      | ok p =>
          obtain ⟨t, es⟩ := p
          intro e he
          rcases List.mem_append.1 he with he | he
          · exact h s l t es hl e he
          · exact ih t e he

/-- So it holds of all edits that a stream asks for, whether it fails or
not. -/
theorem forall_mem_edits_decode {P : Edit → Prop}
    (h : ∀ s line t es, r.read s line = .ok (t, es) → ∀ e ∈ es, P e)
    (stream : ByteStream) : ∀ e ∈ (r.decode stream).edits, P e := by
  unfold decode
  cases stream.failure with
  | none => exact forall_mem_edits_run h _ _
  | some failure =>
      exact forall_mem_edits_run (r := r.stoppedBy failure) h _ _

-- ========================================================= every fault

/-- What holds of all faults that a line or the end can have holds of the
fault of an input. -/
theorem forall_fault_run {P : Fault → Prop}
    (hread : ∀ s line fault, r.read s line = .error fault → P fault)
    (hfinish : ∀ s fault, r.finish s = some fault → P fault)
    (s : σ) (ls : List (List Char)) :
    ∀ fault, (r.run s ls).fault = some fault → P fault := by
  induction ls generalizing s with
  | nil => exact hfinish s
  | cons l ls ih =>
      rw [run_cons]
      cases hl : r.read s l with
      | error cause =>
          intro fault hfault
          exact hread s l fault (Option.some.inj hfault ▸ hl)
      | ok p => exact ih p.1

/-- So it holds of the fault of a stream, if it holds of failures. -/
theorem forall_fault_decode {P : Fault → Prop}
    (hread : ∀ s line fault, r.read s line = .error fault → P fault)
    (hfinish : ∀ s fault, r.finish s = some fault → P fault)
    (hinput : ∀ cause, P (.input cause)) (stream : ByteStream) :
    ∀ fault, (r.decode stream).fault = some fault → P fault := by
  unfold decode
  cases stream.failure with
  | none => exact forall_fault_run hread hfinish _ _
  | some failure =>
      refine forall_fault_run (r := r.stoppedBy failure) hread ?_ _ _
      intro s fault hfault
      exact Option.some.inj hfault ▸ hinput failure

end Coverage.LineReader
