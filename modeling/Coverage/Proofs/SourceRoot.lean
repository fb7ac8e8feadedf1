/-
The source root may be applied while a tracefile is read or afterwards.
Reading a tracefile of lcov under a root meets the same fault as reading
it without one and making the names relative later, and the two sets
agree, also when the reading stopped half way. Names that were made
relative while reading stay as they are.

# How it is proved

Under a root each line is read as without it, but for the name of the
file (`item_some`), so the two readers stay in step and ask for the same
edits under other names (`run_rename`). One way the edits are renamed and
then made, the other way they are made and the files are renamed; files
that come under one name add up to the same tally
(`tallies_applyAll_rename`).
-/
import Coverage.Proofs.Agreement
import Coverage.Proofs.Regrouping
import Coverage.Tracefile.Lcov

namespace Coverage

-- ========================================================= other names

/-- The edit under another name of its file. -/
def Edit.rename (f : String → String) : Edit → Edit
  | .touch file => .touch (f file)
  | .add file datum => .add (f file) datum

/-- The item under another name of the file, if it names one. -/
def Tracefile.Item.rename (f : String → String) : Item → Item
  | .file name => .file (f name)
  | .endOfFile => .endOfFile
  | .datum kind x => .datum kind x
  | .ignored => .ignored

namespace Tracefile

variable {item item' : List Char → Except Fault Item}
  {f : String → String}

/-- A renamed item is taken as the item is, in other names. -/
theorem step_rename (current : Option String) (i : Item) :
    step (current.map f) (i.rename f)
      = (step current i).map fun p => (p.1.map f, p.2.map (Edit.rename f)) := by
  cases i with
  | file name => rfl
  | endOfFile => rfl
  | ignored => rfl
  | datum kind x =>
      cases current with
      | none => rfl
      | some file => rfl

/-- Readers that read each line alike, in other names, read all lines
alike. -/
theorem run_rename
    (h : ∀ line, item' line = (item line).map (Item.rename f))
    (current : Option String) (lines : List (List Char)) :
    (reader item').run (current.map f) lines
      = ⟨((reader item).run current lines).edits.map (Edit.rename f),
          ((reader item).run current lines).fault⟩ := by
  have hread : ∀ current line, (reader item').read (current.map f) line
      = ((reader item).read current line).map
          fun p => (p.1.map f, p.2.map (Edit.rename f)) := by
    intro current line
    show item' line >>= step (current.map f) = _
    rw [h]
    show _ = (item line >>= step current).map _
    cases item line with
    | error fault => rfl
    | ok i => exact step_rename current i
  induction lines generalizing current with
  | nil => rfl
  | cons line rest ih =>
      rw [LineReader.run_cons, LineReader.run_cons, hread]
      cases (reader item).read current line with
      | error fault => rfl
      | ok p =>
          obtain ⟨next, edits⟩ := p
          show Journal.mk (edits.map (Edit.rename f)
            ++ ((reader item').run (next.map f) rest).edits) _ = _
          rw [ih, List.map_append]

end Tracefile

-- ======================================================= under the root

namespace Lcov

open FileSet (nameBelow relativeName?)

/-- Under a root a file is kept by its name below the root. -/
theorem sourceName_some (root path : List Char) :
    sourceName (some root) path = nameBelow root (sourceName none path) := by
  have hplain : sourceName none path = String.ofList path := rfl
  rw [hplain, nameBelow, relativeName?, String.toList_ofList, sourceName,
    Option.bind_some]
  cases SourcePath.relativeTo? root path with
  | none => rfl
  | some rest => rfl

/-- Under a root a line is read as without it, but for the name. -/
theorem item_some (root line : List Char) :
    item (some root) line
      = (item none line).map (Tracefile.Item.rename (nameBelow root)) := by
  unfold item
  rcases Record.split (Text.trimEnd Text.isBlank line) with ⟨kind, payload⟩
  dsimp only
  split
  · rw [sourceName_some]
    rfl
  · split
    · cases readFunctionStart payload <;> rfl
    · split
      · cases readFunctionHits payload <;> rfl
      · split
        · cases readLineHits payload <;> rfl
        · split
          · cases readBranchHits payload <;> rfl
          · split
            · rfl
            · rfl

/-- Under a root a tracefile asks for the same edits in other names, and
fails alike. -/
theorem decode_some (root : List Char) (bytes : List UInt8) :
    decode (some root) bytes
      = ⟨(decode none bytes).edits.map (Edit.rename (nameBelow root)),
          (decode none bytes).fault⟩ :=
  Tracefile.run_rename (item_some root) none (Text.lines bytes)

end Lcov

namespace FileSet

-- ===================================================== what edits leave

/-- Edits that are renamed leave the tallies that regrouping leaves of
what the edits make. -/
theorem tallies_applyAll_rename (f : String → String) (es : List Edit)
    (m : String) :
    ((FileSet.empty.applyAll (es.map (Edit.rename f))).get? m).map
        FileData.tally
      = ((FileSet.empty.applyAll es).gathered f m).map FileData.tally := by
  have hdata : ∀ e : Edit, (e.rename f).data.name = f e.data.name
      ∧ (e.rename f).data.tally = e.data.tally := by
    intro e
    refine ⟨?_, ?_⟩
    · rw [Edit.name_data, Edit.name_data]
      cases e <;> rfl
    · cases e with
      | touch file => rfl
      | add file x => cases x <;> rfl
  rw [get?_applyAll, get?_empty, Option.merge_none_left,
    applyAll_eq_insertMany_data, map_tally_gathered_insertMany,
    gathered_empty, Option.map_none, Option.merge_none_left]
  refine FileData.tally_mergeAll?_of_map ?_
  induction es with
  | nil => rfl
  | cons e es ih =>
      obtain ⟨hname, htally⟩ := hdata e
      rw [List.map_cons, List.map_cons, List.map_cons]
      by_cases hm : f e.data.name = m
      · rw [List.filter_cons_of_pos (by rw [hname]; simpa using hm),
          List.filter_cons_of_pos (by simpa using hm), List.map_cons,
          List.map_cons, htally, ih]
      · rw [List.filter_cons_of_neg (by rw [hname]; simpa using hm),
          List.filter_cons_of_neg (by simpa using hm), ih]

/-- Renamed edits supply a start under a name if the edits do under some
name that becomes it. -/
theorem supplies_rename (f : String → String) (es : List Edit)
    (m g : String) (u : Nat) :
    Supplies (es.map (Edit.rename f)) m g u
      ↔ ∃ n, f n = m ∧ Supplies es n g u := by
  constructor
  · rintro ⟨hu, hits, he⟩
    obtain ⟨e, he, heq⟩ := List.mem_map.1 he
    cases e with
    | touch file => cases heq
    | add file x =>
        cases heq
        exact ⟨file, rfl, hu, hits, he⟩
  · rintro ⟨n, rfl, hu, hits, he⟩
    exact ⟨hu, hits, List.mem_map.2 ⟨_, he, rfl⟩⟩

-- ============================================================ normalizing

/-- Names that lie under the root nowhere stay as they are. -/
theorem normalize_eq_self {S : FileSet} {root : List Char}
    (h : ∀ n ∈ S.names, relativeName? root n = none) :
    S.normalize root = S := by
  have hnone : S.renamings root = [] := by
    rw [renamings, List.filterMap_eq_nil_iff]
    intro n hn
    rw [h n hn, Option.map_none]
  rw [normalize, hnone]
  rfl

/-- What is kept by its name below the root does not lie under it. -/
theorem relativeName?_nameBelow {root : List Char}
    (hroot : SourcePath.isAbsolute root = true) (n : String) :
    relativeName? root (nameBelow root n) = none := by
  unfold nameBelow
  cases hn : relativeName? root n with
  | none => exact hn
  | some m => exact stable_relativeName? hroot n m hn

/-- Files stand under their names after normalizing. -/
theorem Keyed.normalize {S : FileSet} {root : List Char}
    (hroot : SourcePath.isAbsolute root = true) (hS : S.Keyed) :
    (S.normalize root).Keyed := by
  intro m d hd
  rw [get?_normalize hroot hS] at hd
  exact name_of_gathered hd

/-- The starts that the tracefile gives for a function agree, over all
names of files that become the given one below the root. Only a record
of where a function starts gives one other than zero. -/
def SpellingsAgree (root : List Char) (bytes : List UInt8)
    (m g : String) : Prop :=
  ∀ u v,
    (∃ n, nameBelow root n = m ∧ Supplies (Lcov.decode none bytes).edits n g u) →
    (∃ n, nameBelow root n = m ∧ Supplies (Lcov.decode none bytes).edits n g v) →
    u = v

/-- Reading a tracefile of lcov under an absolute root meets the same
fault as reading it without one, and leaves a set that agrees with what
normalizing makes of the other. Normalizing changes nothing in it. -/
theorem agree_decode_normalize {root : List Char}
    (hroot : SourcePath.isAbsolute root = true) (bytes : List UInt8) :
    let below := FileSet.empty.record (Lcov.decode (some root) bytes)
    let plain := FileSet.empty.record (Lcov.decode none bytes)
    below.2 = plain.2
      ∧ Agree (SpellingsAgree root bytes) below.1 (plain.1.normalize root)
      ∧ below.1.normalize root = below.1 := by
  intro below plain
  -- reading below a root is reading without one, with the names changed
  -- in every edit
  have hbelow : below = (FileSet.empty.applyAll
      ((Lcov.decode none bytes).edits.map (Edit.rename (nameBelow root))),
        (Lcov.decode none bytes).fault) := by
    show FileSet.empty.record _ = _
    rw [Lcov.decode_some]
    rfl
  have hplain : plain.1.Keyed := Keyed.empty.applyAll _
  have hget := get?_normalize hroot hplain
  rw [hbelow]
  refine ⟨rfl, agree_of_tallies (Keyed.empty.applyAll _)
    (hplain.normalize hroot) (tallies_eq_iff.2 fun m => ?_) ?_, ?_⟩
  · rw [hget]
    exact tallies_applyAll_rename _ _ m
  · -- Starts are picked from the edits in one case, and from the files
    -- that are gathered in the other; where spellings agree there is one
    -- pick.
    intro m g hagree
    have hpick := (picks_applyAll ((Lcov.decode none bytes).edits.map
      (Edit.rename (nameBelow root))) m g).congr (supplies_rename _ _ m g)
    have hpick' := picks_gathered (fun n =>
      picks_applyAll (Lcov.decode none bytes).edits n g) (nameBelow root) m
    refine hpick.unique ?_ hagree
    rw [startOf, hget]
    exact hpick'
  · -- names of the first set have no root left to strip
    refine normalize_eq_self fun n hn => ?_
    obtain ⟨e, he, rfl⟩ := (mem_names_applyAll _ n).1 hn
    obtain ⟨e', -, rfl⟩ := List.mem_map.1 he
    have hfile : (e'.rename (nameBelow root)).file
        = nameBelow root e'.file := by
      cases e' <;> rfl
    rw [hfile]
    exact relativeName?_nameBelow hroot _

/-- One file under three spellings, and a record that cannot be read. -/
def spellings : List UInt8 :=
  ("SF:/r/a.c\nFN:3,f\nDA:1,1\nend_of_record\nSF:a.c\nFNDA:2,f\nDA:1,4\n"
    ++ "SF:/r//./a.c\nBRDA:1,0,0,1\nDA:x,1\nDA:9,1\n").toUTF8.data.toList

/-- The three spellings are one file below `/r`, also up to the record
that cannot be read. -/
theorem agree_decode_spellings :
    SourcePath.isAbsolute ['/', 'r'] = true
      ∧ (FileSet.empty.record (Lcov.decode none spellings)).1.names
        = ["/r//./a.c", "/r/a.c", "a.c"]
      ∧ (FileSet.empty.record (Lcov.decode (some ['/', 'r']) spellings)).2
        = (FileSet.empty.record (Lcov.decode none spellings)).2
      ∧ Agree (SpellingsAgree ['/', 'r'] spellings)
          (FileSet.empty.record
            (Lcov.decode (some ['/', 'r']) spellings)).1
          ((FileSet.empty.record
            (Lcov.decode none spellings)).1.normalize ['/', 'r']) := by
  have hroot : SourcePath.isAbsolute ['/', 'r'] = true := by decide
  obtain ⟨hfault, hagree, -⟩ := agree_decode_normalize hroot spellings
  refine ⟨hroot, ?_, hfault, hagree⟩
  decide +kernel

end FileSet

end Coverage
