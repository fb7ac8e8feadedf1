/-
What a path stands for. A directory stands for the inputs in it, in the
order of their names, and a file for itself. The format of a file is the
one that is asked for, or else the one of its extension; in a directory
only extensions count. Beside this there are paths that are of no use: a
directory that cannot be listed, and a file of unknown extension.

This is said by relations (`Input.StandsFor`, `Input.Unusable`), of which
`Input.ofPath` is the decision (`ofPath_of_standsFor`,
`ofPath_of_unusable`, `standsFor_or_unusable`).
-/
import Coverage.Loading

namespace Coverage

namespace Input

/-- These are the inputs under the names in a directory, in order. A
subdirectory is none, and neither is a file of unknown extension. -/
inductive TakenFrom (files : FileSystem) (directory : String) :
    List String → List Input → Prop
  | nil : TakenFrom files directory [] []
  | input {name : String} {rest : List String} {format : Format}
      {contents : Except InputFault ByteStream} {inputs : List Input}
      (hfile : files (entryPath directory name) = .file contents)
      (hformat :
        Format.ofPath (entryPath directory name).toList = .ok format)
      (hrest : TakenFrom files directory rest inputs) :
      TakenFrom files directory (name :: rest)
        (⟨entryPath directory name, format, contents⟩ :: inputs)
  | subdirectory {name : String} {rest : List String}
      {listing : Except InputFault (List String)} {inputs : List Input}
      (hdir : files (entryPath directory name) = .directory listing)
      (hrest : TakenFrom files directory rest inputs) :
      TakenFrom files directory (name :: rest) inputs
  | unknown {name : String} {rest : List String} {fault : Fault}
      {contents : Except InputFault ByteStream} {inputs : List Input}
      (hfile : files (entryPath directory name) = .file contents)
      (hformat :
        Format.ofPath (entryPath directory name).toList = .error fault)
      (hrest : TakenFrom files directory rest inputs) :
      TakenFrom files directory (name :: rest) inputs

/-- The path stands for these inputs if that format is asked for, or none.
A file stands for itself, a directory for the inputs in it. -/
inductive StandsFor (files : FileSystem) (asked : Option Format)
    (path : String) : List Input → Prop
  | asked {format : Format} {contents : Except InputFault ByteStream}
      (hfile : files path = .file contents) (hasked : asked = some format) :
      StandsFor files asked path [⟨path, format, contents⟩]
  | recognised {format : Format}
      {contents : Except InputFault ByteStream}
      (hfile : files path = .file contents) (hasked : asked = none)
      (hformat : Format.ofPath path.toList = .ok format) :
      StandsFor files asked path [⟨path, format, contents⟩]
  | directory {names ordered : List String} {inputs : List Input}
      (hdir : files path = .directory (.ok names))
      (hperm : ordered.Perm names) (hsorted : ordered.Pairwise (· ≤ ·))
      (htaken : TakenFrom files path ordered inputs) :
      StandsFor files asked path inputs

/-- The path stands for no inputs at all, for this reason. -/
inductive Unusable (files : FileSystem) (asked : Option Format)
    (path : String) : Fault → Prop
  | unlisted {cause : InputFault}
      (hdir : files path = .directory (.error cause)) :
      Unusable files asked path (.input cause)
  | unknown {contents : Except InputFault ByteStream} {cause : Fault}
      (hfile : files path = .file contents) (hasked : asked = none)
      (hformat : Format.ofPath path.toList = .error cause) :
      Unusable files asked path cause

variable {files : FileSystem} {asked : Option Format} {path : String}
  {directory : String} {names : List String} {inputs : List Input}

section Entries

variable {contents : Except InputFault ByteStream}

/-- A file of known extension is an input. -/
theorem ofEntry?_of_recognised {format : Format}
    (hfile : files path = .file contents)
    (hformat : Format.ofPath path.toList = .ok format) :
    ofEntry? files path = some ⟨path, format, contents⟩ := by
  unfold ofEntry?
  simp [hfile, hformat]

/-- A subdirectory is no input. -/
theorem ofEntry?_of_directory {listing : Except InputFault (List String)}
    (hdir : files path = .directory listing) :
    ofEntry? files path = none := by
  unfold ofEntry?
  simp [hdir]

/-- A file of unknown extension in a directory is no input. -/
theorem ofEntry?_of_unknown {fault : Fault}
    (hfile : files path = .file contents)
    (hformat : Format.ofPath path.toList = .error fault) :
    ofEntry? files path = none := by
  unfold ofEntry?
  simp [hfile, hformat]

end Entries

/-- The inputs in a directory are taken name by name. -/
theorem takenFrom_filterMap (files : FileSystem) (directory : String)
    (names : List String) :
    TakenFrom files directory names (names.filterMap fun name =>
      ofEntry? files (entryPath directory name)) := by
  induction names with
  | nil => exact .nil
  | cons name rest ih =>
      cases hentry : files (entryPath directory name) with
      | directory listing =>
          simp only [List.filterMap_cons, ofEntry?_of_directory hentry]
          exact .subdirectory hentry ih
      | file contents =>
          cases hformat : Format.ofPath
            (entryPath directory name).toList with
          | ok format =>
              simp only [List.filterMap_cons,
                ofEntry?_of_recognised hentry hformat]
              exact .input hentry hformat ih
          | error fault =>
              simp only [List.filterMap_cons,
                ofEntry?_of_unknown hentry hformat]
              exact .unknown hentry hformat ih

/-- There is one list of inputs only that can be taken from the names. -/
theorem TakenFrom.filterMap_eq
    (h : TakenFrom files directory names inputs) :
    names.filterMap (fun name =>
      ofEntry? files (entryPath directory name)) = inputs := by
  induction h with
  | nil => rfl
  | input hfile hformat _ ih =>
      simp only [List.filterMap_cons, ofEntry?_of_recognised hfile hformat,
        ih]
  | subdirectory hdir _ ih =>
      simp only [List.filterMap_cons, ofEntry?_of_directory hdir, ih]
  | unknown hfile hformat _ ih =>
      simp only [List.filterMap_cons, ofEntry?_of_unknown hfile hformat, ih]

/-- Each input that is taken stands where its path says, and its format
is the one of its extension. -/
theorem TakenFrom.of_mem (h : TakenFrom files directory names inputs)
    {i : Input} (hi : i ∈ inputs) :
    files i.path = .file i.contents
      ∧ Format.ofPath i.path.toList = .ok i.format := by
  induction h with
  | nil => cases hi
  | input hfile hformat _ ih =>
      rcases List.mem_cons.1 hi with heq | hi
      · subst heq
        exact ⟨hfile, hformat⟩
      · exact ih hi
  | subdirectory _ _ ih => exact ih hi
  | unknown _ _ _ ih => exact ih hi

/-- Sorting puts names in order. -/
theorem pairwise_mergeSort (names : List String) :
    names.mergeSort.Pairwise (· ≤ ·) := by
  have htrans : ∀ a b c : String, decide (a ≤ b) = true →
      decide (b ≤ c) = true → decide (a ≤ c) = true := by
    simpa using fun a b c => String.le_trans
  have htotal : ∀ a b : String,
      (decide (a ≤ b) || decide (b ≤ a)) = true := by
    simpa using String.le_total
  simpa using List.pairwise_mergeSort htrans htotal names

/-- There is one order only in which names are sorted. -/
theorem mergeSort_eq_of_perm {ordered : List String}
    (hperm : ordered.Perm names) (hsorted : ordered.Pairwise (· ≤ ·)) :
    names.mergeSort = ordered := by
  refine List.Perm.eq_of_pairwise (fun a b _ _ => String.le_antisymm)
    (pairwise_mergeSort names) hsorted ?_
  exact (List.mergeSort_perm names _).trans hperm.symm

/-- The inputs that a path stands for are found. -/
theorem ofPath_of_standsFor (h : StandsFor files asked path inputs) :
    ofPath files asked path = .ok inputs := by
  cases h with
  | asked hfile hasked => simp [ofPath, hfile, hasked]
  | recognised hfile hasked hformat =>
      simp [ofPath, hfile, hasked, hformat]
  | directory hdir hperm hsorted htaken =>
      rw [ofPath, hdir]
      show Except.ok (ofDirectory files path _) = _
      rw [ofDirectory, mergeSort_eq_of_perm hperm hsorted,
        htaken.filterMap_eq]

/-- A path that is of no use is refused with its reason, which names
it. -/
theorem ofPath_of_unusable {cause : Fault}
    (h : Unusable files asked path cause) :
    ofPath files asked path = .error (.inInput path cause) := by
  cases h with
  | unlisted hdir => simp [ofPath, hdir]
  | unknown hfile hasked hformat =>
      simp [ofPath, hfile, hasked, hformat]

/-- A path either stands for inputs or is of no use. -/
theorem standsFor_or_unusable (files : FileSystem) (asked : Option Format)
    (path : String) :
    (∃ inputs, StandsFor files asked path inputs)
      ∨ ∃ cause, Unusable files asked path cause := by
  cases hentry : files path with
  | directory listing =>
      cases listing with
      | error cause => exact Or.inr ⟨_, .unlisted hentry⟩
      | ok names =>
          exact Or.inl ⟨_, .directory hentry (List.mergeSort_perm names _)
            (pairwise_mergeSort names) (takenFrom_filterMap files path _)⟩
  | file contents =>
      cases hasked : asked with
      | some format => exact Or.inl ⟨_, .asked hentry rfl⟩
      | none =>
          cases hformat : Format.ofPath path.toList with
          | ok format => exact Or.inl ⟨_, .recognised hentry rfl hformat⟩
          | error cause => exact Or.inr ⟨_, .unknown hentry rfl hformat⟩

/-- Where no format is asked for, an input that a path stands for is what
its own path stands for. -/
theorem StandsFor.itself (h : StandsFor files none path inputs) {i : Input}
    (hi : i ∈ inputs) : StandsFor files none i.path [i] := by
  cases h with
  | asked hfile hasked => cases hasked
  | recognised hfile hasked hformat =>
      rcases List.mem_singleton.1 hi with rfl
      exact .recognised hfile rfl hformat
  | directory hdir hperm hsorted htaken =>
      obtain ⟨hfile, hformat⟩ := htaken.of_mem hi
      exact .recognised hfile rfl hformat

end Input

end Coverage
