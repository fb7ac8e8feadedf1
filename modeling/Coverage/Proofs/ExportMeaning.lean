/-
Exports of llvm-cov mean what their segments and functions say. An
export that has been read comes apart into events, in the order of the
document: for each part, each file becomes known, then come the pairs of
neighbouring segments of which the first enters a region and has a
count, and the functions of the part come last (`LlvmExport.events`).

Decoding makes the events up to the first that fails, and reports the
fault of that one; an export of another type, or a stream that is no
export, leaves the set as it is (`Leaves`). Whatever was made shows in
regions and functions alone, and each has gained the exact total of the
events about it, cut off at its limit (`Accounts`).

# How it is proved

The steps of an export are its events, one by one (`steps_eq_map`); the
pairs that the reader walks through are those of an index and the next
(`zip_tail_eq`). An event either asks for an edit or fails, so a walk
through them stops at the first that does (`ofSteps_cases`), and what a
file gains from edits is known (`FileData.gains_addAll`).
-/
import Coverage.LlvmExport
import Coverage.Proofs.Contents

namespace Coverage

/-- Neighbours in a list are the elements at an index and the next. -/
theorem zip_tail_eq {α : Type} (l : List α) :
    l.zip l.tail = (List.range l.length).filterMap fun i =>
      l[i]?.bind fun a => l[i + 1]?.map fun b => (a, b) := by
  induction l with
  | nil => rfl
  | cons a l ih =>
      rw [List.tail_cons, List.length_cons, List.range_succ_eq_map,
        List.filterMap_cons, List.filterMap_map]
      cases l with
      | nil => rfl
      | cons b l => exact congrArg ((a, b) :: ·) ih

namespace LlvmExport

-- =============================================================== events

/-- Where the function starts, if its first region says so. -/
def Function.start? (f : Function) : Option Nat :=
  f.regions[0]?.bind (·[0]?)

/-- The step of a function goes by its first file and its start. -/
theorem Function.step_eq (f : Function) :
    f.step = match f.files[0]?, f.start? with
      | none, _ => .error (.record .function f.name.toList .noFilenames)
      | some _, none => .error (.record .function f.name.toList .noRegions)
      | some file, some start =>
        if start < lineBound then
          .ok (.add file (.function f.name start f.count))
        else .error (.record .function f.name.toList .startLineRange) := by
  obtain ⟨name, count, regions, files⟩ := f
  cases files with
  | nil => rfl
  | cons file others =>
      cases regions with
      | nil => rfl
      | cons region others =>
          cases region with
          | nil => rfl
          | cons start rest => rfl

/-- One thing that an export says. -/
inductive Event
  /-- There is a file of that name. -/
  | file (name : String)
  /-- A region of the file reaches from one segment to the next. -/
  | region (file : String) (s next : Segment)
  /-- There is a function. -/
  | function (f : Function)

/-- What the segment at an index says: nothing if it is the last one,
enters no region or has no count. -/
def File.eventAt (f : File) (i : Nat) : Option Event :=
  f.segments[i]?.bind fun s => f.segments[i + 1]?.bind fun next =>
    if s.isEntry && s.hasCount then some (.region f.name s next) else none

/-- What a file says: that it is there, then what its segments say. -/
def File.events (f : File) : List Event :=
  .file f.name :: (List.range f.segments.length).filterMap f.eventAt

/-- What a part says: all files first, then the functions. -/
def Part.events (p : Part) : List Event :=
  p.files.flatMap File.events ++ p.functions.map Event.function

/-- What an export says, in the order of the document. -/
def events (e : LlvmExport) : List Event := e.parts.flatMap Part.events

namespace Event

/-- The event asks for this edit. -/
inductive Asks : Event → Edit → Prop
  | file (name : String) : Asks (.file name) (.touch name)
  | region {file : String} {s next : Segment}
      (hspan : (s.regionTo next).lineCount ≤ Region.maxLines) :
      Asks (.region file s next)
        (.add file (.region (s.regionTo next) s.count))
  | function {f : Function} {file : String} {start : Nat}
      (hfile : f.files[0]? = some file) (hstart : f.start? = some start)
      (hrange : start < lineBound) :
      Asks (.function f) (.add file (.function f.name start f.count))

/-- The event cannot be made, for this reason. -/
inductive Fails : Event → Fault → Prop
  | regionSpan {file : String} {s next : Segment}
      (hspan : Region.maxLines < (s.regionTo next).lineCount) :
      Fails (.region file s next) (.record .segment file.toList
        (.regionSpan s.line next.line Region.maxLines))
  | noFilenames {f : Function} (hfile : f.files[0]? = none) :
      Fails (.function f) (.record .function f.name.toList .noFilenames)
  | noRegions {f : Function} {file : String}
      (hfile : f.files[0]? = some file) (hstart : f.start? = none) :
      Fails (.function f) (.record .function f.name.toList .noRegions)
  | startLineRange {f : Function} {file : String} {start : Nat}
      (hfile : f.files[0]? = some file) (hstart : f.start? = some start)
      (hrange : lineBound ≤ start) :
      Fails (.function f) (.record .function f.name.toList .startLineRange)

/-- The step that is taken for an event. -/
def step : Event → Except Fault Edit
  | .file name => .ok (.touch name)
  | .region name s next =>
    if (s.regionTo next).lineCount ≤ Region.maxLines then
      .ok (.add name (.region (s.regionTo next) s.count))
    else
      .error (.record .segment name.toList
        (.regionSpan s.line next.line Region.maxLines))
  | .function f => f.step

variable {ev : Event} {e : Edit} {fault : Fault}

/-- What an event asks for is its step. -/
theorem step_of_asks (h : ev.Asks e) : ev.step = .ok e := by
  cases h with
  | file name => rfl
  | region hspan => exact if_pos hspan
  | function hfile hstart hrange =>
      rw [step, Function.step_eq, hfile, hstart]
      exact if_pos hrange

/-- The step of an event that fails is its fault. -/
theorem step_of_fails (h : ev.Fails fault) : ev.step = .error fault := by
  cases h with
  | regionSpan hspan => exact if_neg (Nat.not_le_of_lt hspan)
  | noFilenames hfile => rw [step, Function.step_eq, hfile]
  | noRegions hfile hstart =>
      rw [step, Function.step_eq, hfile, hstart]
  | startLineRange hfile hstart hrange =>
      rw [step, Function.step_eq, hfile, hstart]
      exact if_neg (Nat.not_lt_of_le hrange)

/-- An event asks for something or fails. -/
theorem asks_or_fails (ev : Event) :
    (∃ e, ev.Asks e) ∨ ∃ fault, ev.Fails fault := by
  cases ev with
  | file name => exact Or.inl ⟨_, .file name⟩
  | region file s next =>
      rcases Nat.lt_or_ge Region.maxLines (s.regionTo next).lineCount with
        hspan | hspan
      · exact Or.inr ⟨_, .regionSpan hspan⟩
      · exact Or.inl ⟨_, .region hspan⟩
  | function f =>
      cases hfile : f.files[0]? with
      | none => exact Or.inr ⟨_, .noFilenames hfile⟩
      | some file =>
          cases hstart : f.start? with
          | none => exact Or.inr ⟨_, .noRegions hfile hstart⟩
          | some start =>
              rcases Nat.lt_or_ge start lineBound with hrange | hrange
              · exact Or.inl ⟨_, .function hfile hstart hrange⟩
              · exact Or.inr ⟨_, .startLineRange hfile hstart hrange⟩

/-- It does not do both. -/
theorem Fails.not_asks (h : ev.Fails fault) : ¬ ev.Asks e := by
  intro h'
  have hstep := step_of_fails h
  rw [step_of_asks h'] at hstep
  cases hstep

end Event

-- ========================================================== the walk

/-- The steps of a file are those of its events. -/
theorem File.steps_eq_map (f : File) :
    f.steps = f.events.map Event.step := by
  have hpair : ∀ i, ((f.segments[i]?.bind fun s =>
        f.segments[i + 1]?.map fun next => (s, next)).bind
          fun p => f.segmentStep? p.1 p.2)
      = (f.eventAt i).map Event.step := by
    intro i
    unfold File.eventAt
    cases f.segments[i]? with
    | none => rfl
    | some s =>
        cases f.segments[i + 1]? with
        | none => rfl
        | some next =>
            show f.segmentStep? s next = Option.map Event.step
              (if s.isEntry && s.hasCount then some (.region f.name s next)
                else none)
            unfold File.segmentStep?
            split
            · rw [Option.map_some, Event.step]
              split <;> rfl
            · rfl
  rw [File.steps, zip_tail_eq, List.filterMap_filterMap, File.events,
    List.map_cons, List.map_filterMap]
  simp only [hpair]
  rfl

/-- The steps of an export are those of its events, in order. -/
theorem steps_eq_map (e : LlvmExport) : e.steps = e.events.map Event.step := by
  have hfile : File.steps = fun f => f.events.map Event.step :=
    funext File.steps_eq_map
  have hpart : Part.steps = fun p => p.events.map Event.step := by
    funext p
    rw [Part.steps, Part.events, hfile, List.map_append, List.map_flatMap,
      List.map_map]
    rfl
  rw [steps, events, hpart, List.map_flatMap]

/-- A walk through events makes all of them, or those before the first
that fails. -/
theorem ofSteps_cases (evs : List Event) :
    (∃ edits, List.Forall₂ Event.Asks evs edits
        ∧ Journal.ofSteps (evs.map Event.step) = ⟨edits, none⟩)
      ∨ ∃ before ev after edits fault, evs = before ++ ev :: after
        ∧ List.Forall₂ Event.Asks before edits ∧ ev.Fails fault
        ∧ Journal.ofSteps (evs.map Event.step) = ⟨edits, some fault⟩ := by
  induction evs with
  | nil => exact Or.inl ⟨[], .nil, rfl⟩
  | cons ev evs ih =>
      rw [List.map_cons]
      rcases ev.asks_or_fails with ⟨e, he⟩ | ⟨fault, hfault⟩
      · rw [Event.step_of_asks he, Journal.ofSteps_ok]
        rcases ih with ⟨edits, hasks, hrun⟩ | hstop
        · rw [hrun]
          exact Or.inl ⟨e :: edits, .cons he hasks, rfl⟩
        · obtain ⟨before, ev', after, edits, fault, rfl, hasks, hfails,
            hrun⟩ := hstop
          rw [hrun]
          exact Or.inr ⟨ev :: before, ev', after, e :: edits, fault, rfl,
            .cons he hasks, hfails, rfl⟩
      · rw [Event.step_of_fails hfault, Journal.ofSteps_error]
        exact Or.inr ⟨[], ev, evs, [], fault, rfl, .nil, hfault, rfl⟩

-- ======================================================= what it comes to

namespace Event

/-- The file that the event is about, if it is about one. -/
def file? : Event → Option String
  | .file name => some name
  | .region name _ _ => some name
  | .function f => f.files[0]?

/-- What the event says of the file. -/
def datumFor (name : String) : Event → Option Datum
  | .file _ => none
  | .region n s next =>
    if n = name then some (.region (s.regionTo next) s.count) else none
  | .function f =>
    if f.files[0]? = some name then
      f.start?.map fun start => .function f.name start f.count
    else none

/-- The hits that the event gives the region of the file. -/
def regionHits (name : String) (r : Region) (ev : Event) : Option Count :=
  (ev.datumFor name).bind (Datum.regionHits r)

/-- What the event tells of the function in the file. -/
def functionPart (name g : String) (ev : Event) : Option FunctionData :=
  (ev.datumFor name).bind (Datum.functionPart g)

variable {ev : Event} {e : Edit}

/-- What an event asks for is about the file of the event. -/
theorem Asks.file?_eq (h : ev.Asks e) : ev.file? = some e.file := by
  cases h with
  | file name => rfl
  | region hspan => rfl
  | function hfile hstart hrange => exact hfile

/-- What it asks to add to a file is what the event says of it. -/
theorem Asks.datumFor_eq (h : ev.Asks e) (name : String) :
    e.datumFor name = ev.datumFor name := by
  cases h with
  | file n => rfl
  | region hspan => rfl
  | function hfile hstart hrange =>
      rw [Event.datumFor, hfile, hstart, Option.map_some, Edit.datumFor]
      simp only [Option.some_inj]

/-- Events speak of regions and functions only. -/
theorem filterMap_datumFor_eq_nil {V : Type} {part : Datum → Option V}
    (hregion : ∀ r hits, part (.region r hits) = none)
    (hfunction : ∀ g start hits, part (.function g start hits) = none)
    (evs : List Event) (name : String) :
    (evs.filterMap (datumFor name)).filterMap part = [] := by
  refine List.filterMap_eq_nil_iff.2 fun x hx => ?_
  obtain ⟨ev, -, hev⟩ := List.mem_filterMap.1 hx
  cases ev with
  | file n => cases hev
  | region n s next =>
      rw [datumFor, Option.ite_none_right_eq_some] at hev
      rw [← Option.some_inj.1 hev.2, hregion]
  | function f =>
      rw [datumFor, Option.ite_none_right_eq_some] at hev
      obtain ⟨start, -, rfl⟩ := Option.map_eq_some_iff.1 hev.2
      exact hfunction _ _ _

end Event

/-- What the second set has and the first has not is what the events
account for. Lines and branches do not change. -/
structure Accounts (evs : List Event) (S T : FileSet) : Prop where
  names : ∀ n, n ∈ T.names ↔ n ∈ S.names ∨ ∃ ev ∈ evs, ev.file? = some n
  lines : ∀ n, (T.getOrEmpty n).lines = (S.getOrEmpty n).lines
  branches : ∀ n, (T.getOrEmpty n).branches = (S.getOrEmpty n).branches
  regions : ∀ n r, (T.getOrEmpty n).regions[r]?
    = Option.merge (· + ·) (S.getOrEmpty n).regions[r]?
      (ifAny Count.total (evs.filterMap (Event.regionHits n r)))
  functions : ∀ n g, (T.getOrEmpty n).functions[g]?
    = Option.merge (· + ·) (S.getOrEmpty n).functions[g]?
      (ifAny FunctionData.total (evs.filterMap (Event.functionPart n g)))

/-- A set to which events have added accounts for them. -/
theorem accounts_applyAll {evs : List Event} {edits : List Edit}
    (hasks : List.Forall₂ Event.Asks evs edits) (S : FileSet) :
    Accounts evs S (S.applyAll edits) := by
  -- what is asked for says the same as the events
  have hdata : ∀ n, edits.filterMap (Edit.datumFor n)
      = evs.filterMap (Event.datumFor n) := by
    intro n
    induction hasks with
    | nil => rfl
    | cons he _ ih =>
        rw [List.filterMap_cons, List.filterMap_cons, he.datumFor_eq, ih]
  have hgains : ∀ n, (S.getOrEmpty n).Gains
      (evs.filterMap (Event.datumFor n)) ((S.applyAll edits).getOrEmpty n) := by
    intro n
    rw [FileSet.getOrEmpty_applyAll, hdata]
    exact FileData.gains_addAll _ _
  constructor
  · intro n
    rw [FileSet.mem_names_applyAll_iff]
    refine or_congr_right ?_
    -- the induction must not carry what was said of all names
    clear hdata hgains
    induction hasks with
    | nil => simp
    | cons he _ ih =>
        rw [List.exists_mem_cons_iff, List.exists_mem_cons_iff, ih,
          he.file?_eq, Option.some_inj]
  · intro n
    refine Std.ExtTreeMap.ext_getElem? fun {line} => ?_
    rw [(hgains n).lines, Event.filterMap_datumFor_eq_nil
      (fun _ _ => rfl) (fun _ _ _ => rfl)]
    exact Option.merge_none_right
  · intro n
    refine Std.ExtTreeMap.ext_getElem? fun {line} => ?_
    rw [(hgains n).branches, Event.filterMap_datumFor_eq_nil
      (fun _ _ => rfl) (fun _ _ _ => rfl)]
    exact Option.merge_none_right
  · intro n r
    rw [(hgains n).regions, List.filterMap_filterMap]
    rfl
  · intro n g
    rw [(hgains n).functions, List.filterMap_filterMap]
    rfl

-- ============================================================== outcomes

/-- What decoding leaves of a set, and what it reports, when the stream
was read in this way. -/
inductive Leaves (S : FileSet) :
    Except Fault LlvmExport → FileSet × Option Fault → Prop
  /-- What cannot be read as an export leaves the set as it is. -/
  | unread (fault : Fault) : Leaves S (.error fault) (S, some fault)
  /-- So does an export of another type. -/
  | otherType {e : LlvmExport} (htag : e.tag ≠ expectedTag) :
      Leaves S (.ok e) (S, some (.exportType e.tag.toList))
  /-- No event fails, so all are made. -/
  | made {e : LlvmExport} {edits : List Edit} (htag : e.tag = expectedTag)
      (hasks : List.Forall₂ Event.Asks e.events edits)
      (hgains : Accounts e.events S (S.applyAll edits)) :
      Leaves S (.ok e) (S.applyAll edits, none)
  /-- The events before the first that fails are made. -/
  | stopped {e : LlvmExport} {before after : List Event} {ev : Event}
      {edits : List Edit} {fault : Fault} (htag : e.tag = expectedTag)
      (hevents : e.events = before ++ ev :: after)
      (hasks : List.Forall₂ Event.Asks before edits)
      (hgains : Accounts before S (S.applyAll edits))
      (hfails : ev.Fails fault) :
      Leaves S (.ok e) (S.applyAll edits, some fault)

/-- An export leaves what its events come to. -/
theorem leaves_record_journal (S : FileSet) (e : LlvmExport) :
    Leaves S (.ok e) (S.record e.journal) := by
  by_cases htag : e.tag = expectedTag
  · rw [journal, if_pos htag, steps_eq_map]
    rcases ofSteps_cases e.events with ⟨edits, hasks, hrun⟩ | hstop
    · rw [hrun]
      exact .made htag hasks (accounts_applyAll hasks S)
    · obtain ⟨before, ev, after, edits, fault, hevents, hasks, hfails,
        hrun⟩ := hstop
      rw [hrun]
      exact .stopped htag hevents hasks (accounts_applyAll hasks S) hfails
  · rw [journal, if_neg htag]
    exact .otherType htag

/-- A stream leaves of a set what the export that is read from it comes
to: its events up to the first that fails, and nothing at all if it is of
another type or cannot be read. -/
theorem leaves_record_decode [Libraries] (S : FileSet) (s : ByteStream) :
    Leaves S ((Libraries.document s).read shape.read)
      (S.record (decode s)) := by
  unfold decode
  cases (Libraries.document s).read shape.read with
  | error fault => exact .unread fault
  | ok e => exact leaves_record_journal S e

end LlvmExport

end Coverage
