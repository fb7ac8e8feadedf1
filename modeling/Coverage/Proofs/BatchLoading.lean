/-
Loading paths is decoding the inputs that they stand for, from left to
right. What it comes to is said without regard to how it proceeds
(`FileSet.LoadsTo`): either all paths stand for inputs and all of these
decode, or there is a first path that stands for none, or a first input
that fails. In the last two cases the set is what everything before has
made of it, with what the failing input asked for before it failed; what
comes behind plays no part. The fault names one path, and its cause names
none.

Hence a directory may be replaced by the paths of the inputs in it, as
long as no format is asked for.

# How it is proved

An input decodes or fails (`Input.decodes_or_fails`), as a path stands for
inputs or is unusable. The loader finds what holds, so along what has
gone well loading moves on, and so does the count (`loadInputs_append`,
`loadFrom_append`). Some outcome there always is (`exists_loadsTo`), and
it is the one that loading has.
-/
import Coverage.BuiltIn
import Coverage.Proofs.DecodingFaults
import Coverage.Proofs.Expansion

namespace Coverage

namespace Input

variable {files : FileSystem} {asked : Option Format} {path : String}
  {inputs : List Input} {cause : Fault}

/-- Why a path is of no use names no input. -/
theorem Unusable.isCause (h : Unusable files asked path cause) :
    cause.IsCause := by
  cases h with
  | unlisted hdir => exact nofun
  | unknown hfile hasked hformat =>
      unfold Format.ofPath at hformat
      dsimp only at hformat
      split at hformat
      · cases hformat
      · cases hformat
        exact nofun

-- ============================================================= decoding

variable [Libraries]

/-- The input opens and decodes, and makes the one set of the other. -/
def Decodes (s : Settings) (i : Input) (S T : FileSet) : Prop :=
  ∃ stream, i.contents = .ok stream
    ∧ S.record (i.format.decode s stream (some pieceSize)) = (T, none)

/-- The input fails for this reason, and leaves this of the set: all of it
if it cannot be opened, and else what it has asked for until then. -/
inductive Fails (s : Settings) (i : Input) (S : FileSet) :
    FileSet → Fault → Prop
  | unopened {cause : InputFault} (hopen : i.contents = .error cause) :
      Fails s i S S (.input cause)
  | undecodable {stream : ByteStream} {T : FileSet} {cause : Fault}
      (hopen : i.contents = .ok stream)
      (hdecode : S.record (i.format.decode s stream (some pieceSize))
        = (T, some cause)) :
      Fails s i S T cause

/-- The inputs decode one after the other. -/
inductive DecodesAll (s : Settings) :
    FileSet → List Input → FileSet → Prop
  | nil (S : FileSet) : DecodesAll s S [] S
  | cons {S T U : FileSet} {i : Input} {rest : List Input}
      (hi : i.Decodes s S T) (hrest : DecodesAll s T rest U) :
      DecodesAll s S (i :: rest) U

variable {s : Settings} {i : Input} {S T U : FileSet}

/-- An input that decodes is recorded without a fault. -/
theorem record_of_decodes (h : i.Decodes s S T) :
    S.record (i.journal s) = (T, none) := by
  obtain ⟨stream, hopen, hdecode⟩ := h
  obtain ⟨hset, hfault⟩ := Prod.mk.inj hdecode
  simp only [FileSet.record, journal, hopen]
  rw [hset, hfault]
  rfl

/-- An input that fails is recorded with a fault that names it. -/
theorem record_of_fails (h : i.Fails s S T cause) :
    S.record (i.journal s) = (T, some (.inInput i.path cause)) := by
  cases h with
  | unopened hopen =>
      simp only [FileSet.record, journal, hopen]
      rfl
  | undecodable hopen hdecode =>
      obtain ⟨hset, hfault⟩ := Prod.mk.inj hdecode
      simp only [FileSet.record, journal, hopen]
      rw [hset, hfault]
      rfl

/-- An input decodes or fails. -/
theorem decodes_or_fails (s : Settings) (i : Input) (S : FileSet) :
    (∃ T, i.Decodes s S T) ∨ ∃ T cause, i.Fails s S T cause := by
  cases hopen : i.contents with
  | error cause => exact Or.inr ⟨S, _, .unopened hopen⟩
  | ok stream =>
      rcases hdecode : S.record
        (i.format.decode s stream (some pieceSize)) with ⟨T, fault⟩
      cases fault with
      | none => exact Or.inl ⟨T, stream, hopen, hdecode⟩
      | some cause => exact Or.inr ⟨T, cause, .undecodable hopen hdecode⟩

/-- Inputs all decode, or there is a first that fails. -/
theorem decodesAll_or_fails (s : Settings) (inputs : List Input)
    (S : FileSet) :
    (∃ T, DecodesAll s S inputs T)
      ∨ ∃ first i rest T U cause, inputs = first ++ i :: rest
        ∧ DecodesAll s S first T ∧ i.Fails s T U cause := by
  induction inputs generalizing S with
  | nil => exact Or.inl ⟨S, .nil S⟩
  | cons i rest ih =>
      rcases decodes_or_fails s i S with ⟨T, hi⟩ | ⟨T, cause, hi⟩
      · rcases ih T with ⟨U, hrest⟩ | hstop
        · exact Or.inl ⟨U, .cons hi hrest⟩
        · obtain ⟨first, j, rest, U, V, cause, rfl, hfirst, hj⟩ := hstop
          exact Or.inr ⟨i :: first, j, rest, U, V, cause, rfl,
            .cons hi hfirst, hj⟩
      · exact Or.inr ⟨[], i, rest, S, T, cause, rfl, .nil S, hi⟩

/-- Inputs that decode may be followed by others that do. -/
theorem DecodesAll.append {first rest : List Input}
    (hfirst : DecodesAll s S first T) (hrest : DecodesAll s T rest U) :
    DecodesAll s S (first ++ rest) U := by
  induction hfirst with
  | nil S => exact hrest
  | cons hi _ ih => exact .cons hi (ih hrest)

/-- If inputs decode, the first of them do, and behind these the rest. -/
theorem DecodesAll.split {first rest : List Input}
    (h : DecodesAll s S (first ++ rest) U) :
    ∃ T, DecodesAll s S first T ∧ DecodesAll s T rest U := by
  induction first generalizing S with
  | nil => exact ⟨S, .nil S, h⟩
  | cons i first ih =>
      cases h with
      | cons hi hrest =>
          obtain ⟨T, hfirst, hrest⟩ := ih hrest
          exact ⟨T, .cons hi hfirst, hrest⟩

/-- Why an input fails names no input. -/
theorem Fails.isCause (h : i.Fails s S T cause) : cause.IsCause := by
  cases h with
  | unopened hopen => exact nofun
  | undecodable hopen hdecode =>
      exact Format.isCause_of_fault (Prod.mk.inj hdecode).2

end Input

-- ============================================================== loading

open Input (StandsFor Unusable DecodesAll Fails)

namespace FileSet

variable [Libraries]

/-- What loading the paths into the set comes to. -/
inductive LoadsTo (files : FileSystem) (s : Settings) (S : FileSet)
    (paths : List String) : FileSet × Except Fault Nat → Prop
  | all {expansion : List (List Input)} {T : FileSet}
      (hexpand : List.Forall₂ (StandsFor files s.format) paths expansion)
      (hdecode : DecodesAll s S expansion.flatten T) :
      LoadsTo files s S paths (T, .ok expansion.flatten.length)
  | unusable {before after : List String} {path : String}
      {expansion : List (List Input)} {T : FileSet} {cause : Fault}
      (hpaths : paths = before ++ path :: after)
      (hexpand : List.Forall₂ (StandsFor files s.format) before expansion)
      (hdecode : DecodesAll s S expansion.flatten T)
      (hpath : Unusable files s.format path cause) :
      LoadsTo files s S paths (T, .error (.inInput path cause))
  | fails {before after : List String} {path : String}
      {expansion : List (List Input)} {first rest : List Input} {i : Input}
      {T U : FileSet} {cause : Fault}
      (hpaths : paths = before ++ path :: after)
      (hexpand : List.Forall₂ (StandsFor files s.format) before expansion)
      (hpath : StandsFor files s.format path (first ++ i :: rest))
      (hdecode : DecodesAll s S (expansion.flatten ++ first) T)
      (hi : i.Fails s T U cause) :
      LoadsTo files s S paths (U, .error (.inInput i.path cause))

variable {files : FileSystem} {s : Settings} {S T U : FileSet}
  {inputs rest : List Input} {count : Nat}

/-- Behind inputs that decode, loading goes on with what they leave. -/
theorem loadInputs_append (h : DecodesAll s S inputs T) (count : Nat)
    (rest : List Input) :
    S.loadInputs s count (inputs ++ rest)
      = T.loadInputs s (count + inputs.length) rest := by
  induction h generalizing count with
  | nil S => rfl
  | cons hi _ ih =>
      rw [List.cons_append, loadInputs, Input.record_of_decodes hi]
      show loadInputs s _ (count + 1) _ = _
      rw [ih, List.length_cons, Nat.add_right_comm, Nat.add_assoc]

/-- Inputs that decode are loaded and counted. -/
theorem loadInputs_of_decodesAll (h : DecodesAll s S inputs T)
    (count : Nat) :
    S.loadInputs s count inputs = (T, .ok (count + inputs.length)) := by
  have happend := loadInputs_append h count []
  rwa [List.append_nil] at happend

/-- Loading stops at the first input that fails, whatever follows. -/
theorem loadInputs_of_fails {first : List Input} {i : Input} {cause : Fault}
    (hfirst : DecodesAll s S first T) (hi : i.Fails s T U cause)
    (count : Nat) (rest : List Input) :
    S.loadInputs s count (first ++ i :: rest)
      = (U, .error (.inInput i.path cause)) := by
  rw [loadInputs_append hfirst, loadInputs, Input.record_of_fails hi]

/-- A path in front is loaded as the inputs that it stands for. -/
theorem loadFrom_cons {path : String}
    (hpath : StandsFor files s.format path inputs) (S : FileSet)
    (count : Nat) (after : List String) :
    S.loadFrom files s count (path :: after)
      = match S.loadInputs s count inputs with
        | (T, .error fault) => (T, .error fault)
        | (T, .ok count) => T.loadFrom files s count after := by
  have hinputs := Input.ofPath_of_standsFor hpath
  rcases hload : S.loadInputs s count inputs with ⟨T, result⟩
  cases result with
  | error fault => simp [loadFrom, hinputs, hload]
  | ok n => simp [loadFrom, hinputs, hload]

/-- Behind paths whose inputs decode, loading goes on with what they
leave. -/
theorem loadFrom_append {before : List String}
    {expansion : List (List Input)}
    (hexpand : List.Forall₂ (StandsFor files s.format) before expansion)
    (hdecode : DecodesAll s S expansion.flatten T) (count : Nat)
    (after : List String) :
    S.loadFrom files s count (before ++ after)
      = T.loadFrom files s (count + expansion.flatten.length) after := by
  induction hexpand generalizing S count with
  | nil =>
      cases hdecode
      rfl
  | cons hpath _ ih =>
      rw [List.flatten_cons] at hdecode ⊢
      obtain ⟨U, hhere, hrest⟩ := hdecode.split
      rw [List.cons_append, loadFrom_cons hpath,
        loadInputs_of_decodesAll hhere]
      show U.loadFrom files s _ _ = _
      rw [ih hrest, List.length_append, Nat.add_assoc]

/-- Loading has the outcome that it comes to. -/
theorem load_of_loadsTo {paths : List String}
    {outcome : FileSet × Except Fault Nat}
    (h : S.LoadsTo files s paths outcome) :
    S.load files s paths = outcome := by
  unfold load
  cases h with
  | all hexpand hdecode =>
      have happend := loadFrom_append hexpand hdecode 0 []
      rwa [List.append_nil, Nat.zero_add] at happend
  | unusable hpaths hexpand hdecode hpath =>
      rw [hpaths, loadFrom_append hexpand hdecode, loadFrom,
        Input.ofPath_of_unusable hpath]
  | fails hpaths hexpand hpath hdecode hi =>
      obtain ⟨T, hbefore, hfirst⟩ := hdecode.split
      rw [hpaths, loadFrom_append hexpand hbefore, loadFrom_cons hpath,
        loadInputs_of_fails hfirst hi]

/-- One more path in front, whose inputs decode. -/
theorem LoadsTo.cons {path : String} {paths : List String}
    (hpath : StandsFor files s.format path inputs)
    (hinputs : DecodesAll s S inputs T)
    {outcome : FileSet × Except Fault Nat}
    (h : T.LoadsTo files s paths outcome) :
    ∃ outcome', S.LoadsTo files s (path :: paths) outcome' := by
  cases h with
  | all hexpand hdecode =>
      exact ⟨_, .all (.cons hpath hexpand) (hinputs.append hdecode)⟩
  | unusable hpaths hexpand hdecode hbad =>
      subst hpaths
      exact ⟨_, .unusable rfl (.cons hpath hexpand)
        (hinputs.append hdecode) hbad⟩
  | fails hpaths hexpand hhere hdecode hi =>
      subst hpaths
      refine ⟨_, .fails rfl (.cons hpath hexpand) hhere ?_ hi⟩
      rw [List.flatten_cons, List.append_assoc]
      exact hinputs.append hdecode

/-- Loading comes to something. -/
theorem exists_loadsTo (files : FileSystem) (s : Settings)
    (paths : List String) (S : FileSet) :
    ∃ outcome, S.LoadsTo files s paths outcome := by
  induction paths generalizing S with
  | nil => exact ⟨_, .all .nil (.nil S)⟩
  | cons path paths ih =>
      rcases Input.standsFor_or_unusable files s.format path with
        ⟨inputs, hpath⟩ | ⟨cause, hpath⟩
      · rcases Input.decodesAll_or_fails s inputs S with ⟨T, hinputs⟩ | hstop
        · obtain ⟨outcome, h⟩ := ih T
          exact h.cons hpath hinputs
        · obtain ⟨first, i, rest, T, U, cause, rfl, hfirst, hi⟩ := hstop
          exact ⟨_, .fails (List.nil_append _).symm .nil hpath hfirst hi⟩
      · exact ⟨_, .unusable (List.nil_append _).symm .nil (.nil S) hpath⟩

/-- A fault of loading names one path, and its cause names none. -/
theorem LoadsTo.isCause {paths : List String} {fault : Fault}
    (h : S.LoadsTo files s paths (T, .error fault)) :
    ∃ path cause, fault = .inInput path cause ∧ cause.IsCause := by
  cases h with
  | unusable hpaths hexpand hdecode hpath =>
      exact ⟨_, _, rfl, hpath.isCause⟩
  | fails hpaths hexpand hpath hdecode hi => exact ⟨_, _, rfl, hi.isCause⟩

/-- Once loading has failed, further paths change nothing. -/
theorem LoadsTo.append {paths : List String} {fault : Fault}
    (h : S.LoadsTo files s paths (T, .error fault)) (more : List String) :
    S.LoadsTo files s (paths ++ more) (T, .error fault) := by
  cases h with
  | unusable hpaths hexpand hdecode hpath =>
      subst hpaths
      exact .unusable (List.append_assoc _ _ more) hexpand hdecode hpath
  | fails hpaths hexpand hpath hdecode hi =>
      subst hpaths
      exact .fails (List.append_assoc _ _ more) hexpand hpath hdecode hi

-- ============================================================== listings

/-- Where inputs are what their own paths stand for, loading these paths
is loading the inputs. -/
theorem loadFrom_map_path
    (h : ∀ i ∈ inputs, StandsFor files s.format i.path [i]) (S : FileSet)
    (count : Nat) (after : List String) :
    S.loadFrom files s count (inputs.map Input.path ++ after)
      = match S.loadInputs s count inputs with
        | (T, .error fault) => (T, .error fault)
        | (T, .ok count) => T.loadFrom files s count after := by
  induction inputs generalizing S count with
  | nil => rfl
  | cons i rest ih =>
      obtain ⟨hi, hrest⟩ := List.forall_mem_cons.1 h
      rw [List.map_cons, List.cons_append, loadFrom_cons hi, loadInputs,
        loadInputs]
      rcases S.record (i.journal s) with ⟨T, fault⟩
      cases fault with
      | some fault => rfl
      | none => exact ih hrest T (count + 1)

/-- Paths that load alike into any set do so behind other paths. -/
theorem loadFrom_append_congr {paths paths' : List String}
    (h : ∀ (S : FileSet) count, S.loadFrom files s count paths
      = S.loadFrom files s count paths')
    (before : List String) (S : FileSet) (count : Nat) :
    S.loadFrom files s count (before ++ paths)
      = S.loadFrom files s count (before ++ paths') := by
  induction before generalizing S count with
  | nil => exact h S count
  | cons path before ih => simp only [List.cons_append, loadFrom, ih]

/-- Where no format is asked for, a path may be replaced by the paths of
the inputs it stands for. -/
theorem load_listed (hformat : s.format = none) {path : String}
    (hpath : StandsFor files none path inputs) (S : FileSet)
    (before after : List String) :
    S.load files s (before ++ path :: after)
      = S.load files s (before ++ inputs.map Input.path ++ after) := by
  rw [List.append_assoc]
  refine loadFrom_append_congr (fun S count => ?_) before S 0
  rw [loadFrom_map_path, loadFrom_cons]
  · rw [hformat]
    exact hpath
  · intro i hi
    rw [hformat]
    exact hpath.itself hi

/-- Loading has just the outcome that it comes to. If it fails, further
paths change nothing, and the fault names one path and its cause none.
Where no format is asked for, a directory is as good as the paths of the
inputs in it. -/
theorem load_eq_iff_loadsTo (S : FileSet) (files : FileSystem)
    (s : Settings) (paths : List String) :
    (∀ outcome, S.load files s paths = outcome
        ↔ S.LoadsTo files s paths outcome)
      ∧ (∀ T fault, S.load files s paths = (T, .error fault) →
        (∀ more, S.load files s (paths ++ more) = (T, .error fault))
          ∧ ∃ path cause, fault = .inInput path cause ∧ cause.IsCause)
      ∧ ∀ before path after inputs, s.format = none →
        StandsFor files none path inputs → paths = before ++ path :: after →
          S.load files s paths
            = S.load files s (before ++ inputs.map Input.path ++ after) := by
  have hiff : ∀ outcome, S.load files s paths = outcome
      ↔ S.LoadsTo files s paths outcome := by
    intro outcome
    constructor
    · intro h
      obtain ⟨outcome', houtcome⟩ := exists_loadsTo files s paths S
      have hsame := load_of_loadsTo houtcome
      rwa [← h, hsame]
    · exact load_of_loadsTo
  refine ⟨hiff, fun T fault h => ?_, ?_⟩
  · have hloads := (hiff _).1 h
    exact ⟨fun more => load_of_loadsTo (hloads.append more),
      hloads.isCause⟩
  · intro before path after inputs hformat hpath hpaths
    rw [hpaths]
    exact load_listed hformat hpath S before after

end FileSet

-- ================================================================ shelf

open BuiltIn

namespace FileSet

/-- An input that decodes. -/
def soundInput : Input :=
  ⟨"cov/a.gcov", .gcov,
    .ok ("file:a.c\nlcount:1,1\n".toUTF8.data.toList : List UInt8)⟩

/-- An input with a record behind the end of its file. -/
def faultyInput : Input :=
  ⟨"cov/b.info", .lcov,
    .ok "SF:b.c\nDA:1,1\nend_of_record\nDA:2,1\n".toUTF8.data.toList⟩

/-- A directory with the two inputs, a subdirectory and another file. -/
def shelf : FileSystem := fun path =>
  if path = "cov" then .directory (.ok ["b.info", "sub", "README", "a.gcov"])
  else if path = "cov/sub" then .directory (.ok ["c.gcov"])
  else if path = "cov/README" then .file (.ok ⟨[], none⟩)
  else if path = "cov/a.gcov" then .file soundInput.contents
  else if path = "cov/b.info" then .file faultyInput.contents
  else .file (.error .notFound)

/-- Loading the directory stops in the faulty input, whatever follows,
and it does so if the two inputs are listed in its place. -/
theorem load_eq_iff_loadsTo_shelf :
    let s : Settings := {}
    let fault : Fault := .inInput "cov/b.info" (.orphan .lineHits)
    StandsFor shelf none "cov" [soundInput, faultyInput]
      ∧ ∃ T, T.names = ["a.c", "b.c"]
        ∧ FileSet.empty.load shelf s ["cov"] = (T, .error fault)
        ∧ FileSet.empty.load shelf s ["cov", "c.gcov"] = (T, .error fault)
        ∧ FileSet.empty.load shelf s ["cov/a.gcov", "cov/b.info"]
          = (T, .error fault) := by
  intro s fault
  have hcov : StandsFor shelf none "cov" [soundInput, faultyInput] := by
    have hperm : ["README", "a.gcov", "b.info", "sub"].Perm
        ["b.info", "sub", "README", "a.gcov"] := by decide
    have hsorted : ["README", "a.gcov", "b.info", "sub"].Pairwise
        (· ≤ ·) := by decide
    refine .directory rfl hperm hsorted ?_
    refine .unknown rfl rfl (.input rfl rfl (.input rfl rfl ?_))
    exact .subdirectory rfl .nil
  have hsound : soundInput.Decodes s FileSet.empty
      (FileSet.empty.record (soundInput.journal s)).1 :=
    ⟨_, rfl, Prod.ext rfl (by decide +kernel)⟩
  have hfaulty : faultyInput.Fails s
      (FileSet.empty.record (soundInput.journal s)).1
      ((FileSet.empty.record (soundInput.journal s)).1.record
        (faultyInput.journal s)).1 (.orphan .lineHits) :=
    .undecodable rfl (Prod.ext rfl (by decide +kernel))
  obtain ⟨hiff, hstop, hlisted⟩ :=
    load_eq_iff_loadsTo FileSet.empty shelf s ["cov"]
  have hload := (hiff _).2 (.fails (List.nil_append _).symm .nil hcov
    (.cons hsound (.nil _)) hfaulty)
  refine ⟨hcov, _, by decide +kernel, hload, (hstop _ _ hload).1 _, ?_⟩
  exact (hlisted [] "cov" [] _ rfl hcov rfl).symm.trans hload

end FileSet

end Coverage
