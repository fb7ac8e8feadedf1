/-
Which sets of files can come about. A set is `Reachable` if it is made
from the empty one by decoding, inserting, merging, renaming, dropping
files and deriving lines, in whatever order, with whatever settings and
success; files that are inserted or merged are `Taken` from such sets.

In such a set each file stands under its own name, and no region touches
too many lines (`Sound`). So at most `Region.maxLines` lines for each
region come out when the lines of a file are derived.

# How it is proved

Each operation keeps sets sound, whatever it is given, which for files
means regions that do not touch too many lines. Two facts do most of the
work: an insertion looks for the place by the name that the file has
itself, and a file that is renamed is taken out, renamed and inserted.
Whether a name is made relative more than once does not matter here, so
nothing is asked of the source root.
-/
import Coverage.BuiltIn
import Coverage.Pipeline
import Coverage.Proofs.RegionSpan

namespace Coverage

namespace FileSet

-- ============================================================ soundness

/-- Each file stands under its own name and has no region that touches
too many lines. -/
structure Sound (S : FileSet) : Prop where
  keyed : S.Keyed
  narrow : ∀ n d, S.get? n = some d → d.Narrow

namespace Sound

variable {S T : FileSet}

/-- There is no file in the empty set. -/
theorem empty : FileSet.empty.Sound where
  keyed := .empty
  narrow n d hd := by
    rw [get?_empty] at hd
    cases hd

/-- Files may be taken out. -/
theorem sub (hS : S.Sound)
    (h : ∀ n d, T.get? n = some d → S.get? n = some d) : T.Sound where
  keyed n d hd := hS.keyed n d (h n d hd)
  narrow n d hd := hS.narrow n d (h n d hd)

/-- Whatever files are left of a sound set make one. -/
theorem filter (hS : S.Sound) (keep : String → FileData → Bool) :
    (S.filter keep).Sound := by
  refine hS.sub fun n d hd => ?_
  rw [get?_filter] at hd
  exact (Option.filter_eq_some_iff.1 hd).1

/-- So it is without one file. -/
theorem erase (hS : S.Sound) (name : String) : (S.erase name).Sound := by
  refine hS.sub fun n d hd => ?_
  rw [get?_erase] at hd
  split at hd
  · cases hd
  · exact hd

/-- A narrow file may be added, under its own name. -/
theorem insert (hS : S.Sound) {d : FileData} (hd : d.Narrow) :
    (S.insert d).Sound where
  keyed := hS.keyed.insert d
  narrow n e he := by
    rw [get?_insert] at he
    split at he
    · cases hold : S.get? n with
      | none =>
          rw [hold, Option.merge_none_left] at he
          cases he
          exact hd
      | some old =>
          rw [hold, Option.merge_some_some] at he
          cases he
          exact (hS.narrow n old hold).merge hd
    · exact hS.narrow n e he

/-- So may any number of narrow files. -/
theorem insertMany (hS : S.Sound) {ds : List FileData}
    (hds : ∀ d ∈ ds, d.Narrow) : (S.insertMany ds).Sound := by
  induction ds generalizing S with
  | nil => exact hS
  | cons d ds ih =>
      obtain ⟨hd, hds⟩ := List.forall_mem_cons.1 hds
      exact ih (hS.insert hd) hds

/-- Edits may be made that bring in no region that touches too many
lines. -/
theorem applyAll (hS : S.Sound) {edits : List Edit}
    (h : ∀ e ∈ edits, e.data.Narrow) : (S.applyAll edits).Sound := by
  rw [applyAll_eq_insertMany_data]
  exact hS.insertMany (List.forall_mem_map.2 h)

/-- A file may be changed if its name stays. -/
theorem update (hS : S.Sound) {f : FileData → FileData}
    (hname : ∀ d, (f d).name = d.name)
    (hnarrow : ∀ d : FileData, d.Narrow → (f d).Narrow) (name : String) :
    (S.update name f).Sound := by
  have hold : (S.getOrEmpty name).name = name
      ∧ (S.getOrEmpty name).Narrow := by
    unfold getOrEmpty
    cases hd : S.get? name with
    | none => exact ⟨rfl, .of_regions_eq_empty rfl⟩
    | some d => exact ⟨hS.keyed name d hd, hS.narrow name d hd⟩
  have hnew : ∀ n d, (S.update name f).get? n = some d →
      d.name = n ∧ d.Narrow := by
    intro n d hd
    rw [get?_update] at hd
    split at hd
    · next hn =>
        cases hd
        rw [hname, hold.1]
        exact ⟨hn, hnarrow _ hold.2⟩
    · exact ⟨hS.keyed n d hd, hS.narrow n d hd⟩
  exact ⟨fun n d hd => (hnew n d hd).1, fun n d hd => (hnew n d hd).2⟩

/-- A narrow file may be merged into any entry, which keeps its name. -/
theorem mergeAt (hS : S.Sound) {d : FileData} (hd : d.Narrow)
    (name : String) : (S.update name (·.merge d)).Sound :=
  hS.update (f := (·.merge d)) (fun _ => rfl) (fun _ hold => hold.merge hd)
    name

/-- Deriving the lines of one file changes neither its name nor its
regions, whether it succeeds or not. -/
theorem tryDeriveLines (hS : S.Sound) (name : String) :
    (S.update name FileData.tryDeriveLines).Sound := by
  refine hS.update (fun d => ?_) (fun d hd => hd.tryDeriveLines) name
  unfold FileData.tryDeriveLines FileData.deriveLines
  split
  · next hok =>
      split at hok
      · cases hok
        rfl
      · cases hok
  · rfl

/-- A file is left as it is or gets the lines of its regions. -/
theorem deriveLines (hS : S.Sound) : S.deriveLines.1.Sound := by
  have hnew : ∀ n e, S.deriveLines.1.get? n = some e →
      ∃ d, S.get? n = some d ∧ (e = d ∨ e = d.withRegionLines) := by
    intro n e he
    rw [get?_fst_deriveLines] at he
    split at he
    · obtain ⟨d, hd, rfl⟩ := Option.map_eq_some_iff.1 he
      exact ⟨d, hd, Or.inr rfl⟩
    · exact ⟨e, he, Or.inl rfl⟩
  constructor
  · intro n e he
    obtain ⟨d, hd, rfl | rfl⟩ := hnew n e he
    · exact hS.keyed n _ hd
    · have hname : d.withRegionLines.name = d.name := by
        unfold FileData.withRegionLines
        split <;> rfl
      rw [hname]
      exact hS.keyed n d hd
  · intro n e he
    obtain ⟨d, hd, rfl | rfl⟩ := hnew n e he
    · exact hS.narrow n _ hd
    · exact (hS.narrow n d hd).withRegionLines

-- ============================================================= pipeline

/-- Renaming a file gives it the name that it is filed under. -/
theorem rename (hS : S.Sound) (old new : String) :
    (S.rename old new).Sound := by
  unfold FileSet.rename
  cases hd : S.get? old with
  | none => exact hS
  | some d => exact (hS.erase old).insert (hS.narrow old d hd)

/-- Names are made relative by renaming files one by one. -/
theorem normalize (hS : S.Sound) (root : List Char) :
    (S.normalize root).Sound := by
  unfold FileSet.normalize
  generalize S.renamings root = pairs
  induction pairs generalizing S with
  | nil => exact hS
  | cons p pairs ih => exact ih (hS.rename p.1 p.2)

/-- Dropping files with absolute names keeps the others as they are. -/
theorem filterExternal (hS : S.Sound) (keep : Bool) :
    (S.filterExternal keep).Sound := by
  unfold FileSet.filterExternal
  split
  · exact hS
  · exact hS.filter _

/-- So does dropping excluded files, whatever a text excludes. -/
theorem filterExcluded [Libraries] (hS : S.Sound) (text : String) :
    (S.filterExcluded text).Sound := by
  unfold FileSet.filterExcluded
  split
  · exact hS.filter _
  · exact hS

/-- Each pass of processing keeps a set sound, and so does a pass that
fails half way. -/
theorem process [Libraries] (hS : S.Sound) (s : Settings) :
    (S.process s).1.Sound := by
  have hnormal : ((s.sourceRoot.map S.normalize).getD S).Sound := by
    cases s.sourceRoot with
    | none => exact hS
    | some root => exact hS.normalize root
  have hexternal := hnormal.filterExternal s.includeExternal
  refine Sound.deriveLines ?_
  cases s.exclude with
  | none => exact hexternal
  | some text => exact hexternal.filterExcluded text

end Sound

end FileSet

-- ========================================================= reachability

section

variable [Libraries]

mutual

/-- The set can be made from the empty one. -/
inductive FileSet.Reachable : FileSet → Prop
  | empty : FileSet.Reachable .empty
  /-- An input is decoded, up to its end or its first fault. -/
  | decode {S : FileSet} (h : FileSet.Reachable S) (format : Format)
      (s : Settings) (stream : ByteStream) (pieceSize : Option Nat) :
      FileSet.Reachable (S.record (format.decode s stream pieceSize)).1
  | insert {S : FileSet} {d : FileData} (h : FileSet.Reachable S)
      (hd : FileData.Taken d) : FileSet.Reachable (S.insert d)
  | ofList {ds : List FileData} (hds : ∀ d ∈ ds, FileData.Taken d) :
      FileSet.Reachable (.ofList ds)
  /-- A file is merged into the one of that name, whatever its own is. -/
  | merge {S : FileSet} {d : FileData} (h : FileSet.Reachable S)
      (name : String) (hd : FileData.Taken d) :
      FileSet.Reachable (S.update name (·.merge d))
  /-- The source root need not be absolute. -/
  | normalize {S : FileSet} (h : FileSet.Reachable S) (root : List Char) :
      FileSet.Reachable (S.normalize root)
  | filterExternal {S : FileSet} (h : FileSet.Reachable S) (keep : Bool) :
      FileSet.Reachable (S.filterExternal keep)
  | filterExcluded {S : FileSet} (h : FileSet.Reachable S)
      (text : String) : FileSet.Reachable (S.filterExcluded text)
  | erase {S : FileSet} (h : FileSet.Reachable S) (name : String) :
      FileSet.Reachable (S.erase name)
  | filter {S : FileSet} (h : FileSet.Reachable S)
      (keep : String → FileData → Bool) :
      FileSet.Reachable (S.filter keep)
  | deriveLinesOf {S : FileSet} (h : FileSet.Reachable S)
      (name : String) :
      FileSet.Reachable (S.update name FileData.tryDeriveLines)
  | deriveLines {S : FileSet} (h : FileSet.Reachable S) :
      FileSet.Reachable S.deriveLines.1
  | process {S : FileSet} (h : FileSet.Reachable S) (s : Settings) :
      FileSet.Reachable (S.process s).1

/-- The file can be made from files in such sets. -/
inductive FileData.Taken : FileData → Prop
  | file {S : FileSet} {name : String} {d : FileData}
      (h : FileSet.Reachable S) (hd : S.get? name = some d) :
      FileData.Taken d
  | merge {d e : FileData} (hd : FileData.Taken d)
      (he : FileData.Taken e) : FileData.Taken (d.merge e)
  | deriveLines {d : FileData} (hd : FileData.Taken d) :
      FileData.Taken d.tryDeriveLines

end

mutual

/-- Each step keeps sets sound. -/
theorem FileSet.Reachable.sound {S : FileSet} : S.Reachable → S.Sound
  | .empty => .empty
  | .decode h format s stream pieceSize =>
      h.sound.applyAll (format.narrow_decode s stream pieceSize)
  | .insert h hd => h.sound.insert hd.narrow
  | .ofList hds =>
      FileSet.Sound.empty.insertMany fun d hd => (hds d hd).narrow
  | .merge h name hd => h.sound.mergeAt hd.narrow name
  | .normalize h root => h.sound.normalize root
  | .filterExternal h keep => h.sound.filterExternal keep
  | .filterExcluded h text => h.sound.filterExcluded text
  | .erase h name => h.sound.erase name
  | .filter h keep => h.sound.filter keep
  | .deriveLinesOf h name => h.sound.tryDeriveLines name
  | .deriveLines h => h.sound.deriveLines
  | .process h s => h.sound.process s

/-- So the files that are taken from them are narrow. -/
theorem FileData.Taken.narrow {d : FileData} : d.Taken → d.Narrow
  | .file h hd => h.sound.narrow _ _ hd
  | .merge hd he => hd.narrow.merge he.narrow
  | .deriveLines hd => hd.narrow.tryDeriveLines

end

namespace FileSet

/-- In every set that can come about each file stands under its own name
and has no region that touches too many lines. If it has no lines, they
can be derived, and are not too many. -/
theorem invariant_of_reachable {S : FileSet} (h : S.Reachable) :
    S.Keyed ∧ ∀ n d, S.get? n = some d → d.Narrow
      ∧ (d.lines = ∅ → ∃ e, d.deriveLines = .ok e
        ∧ e.lines.size ≤ Region.maxLines * d.regions.size) := by
  refine ⟨h.sound.keyed, fun n d hd => ?_⟩
  have hnarrow := h.sound.narrow n d hd
  exact ⟨hnarrow, hnarrow.exists_deriveLines⟩

end FileSet

end

namespace FileSet

open BuiltIn

/-- A file under two names, of which one is below `/r`. -/
def twoNames : List UInt8 :=
  ("mode: set\n/r/a.go:1.1,3.2 2 1\na.go:2.1,2.9 1 0\n").toUTF8.data.toList

/-- The two are merged when names are made relative, and the file that
comes about stands under the one name that is left. -/
theorem invariant_of_reachable_twoNames :
    let S := (FileSet.empty.record (GoProfile.decode twoNames)).1.normalize
      ['/', 'r']
    S.names = ["a.go"] ∧ S.Keyed
      ∧ ∀ n d, S.get? n = some d → d.Narrow
        ∧ (d.lines = ∅ → ∃ e, d.deriveLines = .ok e
          ∧ e.lines.size ≤ Region.maxLines * d.regions.size) := by
  intro S
  refine ⟨?_, invariant_of_reachable (.normalize
    (.decode .empty .goProfile {} twoNames none) ['/', 'r'])⟩
  decide +kernel

end FileSet

end Coverage
