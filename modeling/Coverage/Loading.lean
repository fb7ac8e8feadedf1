/-
Loading the inputs that paths name. A path of a directory stands for the
files in it whose extension is known, in the order of their names; what
is below its subdirectories does not count. Any other path stands for
itself. Its format is the one that is asked for, or else the one of its
extension; in a directory only extensions count.

Inputs are decoded from left to right into one set, up to the first
failure. What the failing input asked for before it failed stays in the
set.
-/
import Coverage.Decoding
import Coverage.FileSystem

namespace Coverage

/-- A file to decode. -/
structure Input where
  path : String
  format : Format
  /-- Its bytes, if it can be opened. -/
  contents : Except InputFault ByteStream

namespace Input

/-- The path of a name in a directory. -/
def entryPath (directory name : String) : String :=
  String.ofList (SourcePath.entry directory.toList name.toList)

/-- The input at a path in a directory: none for subdirectories and for
unknown extensions. -/
def ofEntry? (files : FileSystem) (path : String) : Option Input :=
  match files path with
  | .directory _ => none
  | .file contents =>
    match Format.ofPath path.toList with
    | .ok format => some ⟨path, format, contents⟩
    | .error _ => none

/-- The inputs in a directory that holds these names. -/
def ofDirectory (files : FileSystem) (directory : String)
    (names : List String) : List Input :=
  names.mergeSort.filterMap fun name =>
    ofEntry? files (entryPath directory name)

/-- The inputs that a path stands for. -/
def ofPath (files : FileSystem) (override : Option Format)
    (path : String) : Except Fault (List Input) :=
  match files path with
  | .directory (.ok names) => .ok (ofDirectory files path names)
  | .directory (.error fault) => .error (.inInput path (.input fault))
  | .file contents =>
    match override with
    | some format => .ok [⟨path, format, contents⟩]
    | none =>
      match Format.ofPath path.toList with
      | .ok format => .ok [⟨path, format, contents⟩]
      | .error fault => .error (.inInput path fault)

/-- Files are read in pieces of this size. -/
def pieceSize : Nat := 8192

/-- What an input asks for. Its fault names its path. -/
def journal [Libraries] (s : Settings) (i : Input) : Journal :=
  let j :=
    match i.contents with
    | .ok stream => i.format.decode s stream (some pieceSize)
    | .error fault => .failed (.input fault)
  ⟨j.edits, j.fault.map (.inInput i.path)⟩

end Input

namespace FileSet

variable [Libraries]

/-- Decodes inputs in order, up to the first that fails. Returns how
many were decoded, counting on from `count`. -/
def loadInputs (s : Settings) (S : FileSet) (count : Nat) :
    List Input → FileSet × Except Fault Nat
  | [] => (S, .ok count)
  | i :: rest =>
    match S.record (i.journal s) with
    | (S, some fault) => (S, .error fault)
    | (S, none) => loadInputs s S (count + 1) rest

/-- Loads paths in order, counting on from `count`. -/
def loadFrom (files : FileSystem) (s : Settings) (S : FileSet)
    (count : Nat) : List String → FileSet × Except Fault Nat
  | [] => (S, .ok count)
  | path :: rest =>
    match Input.ofPath files s.format path with
    | .error fault => (S, .error fault)
    | .ok inputs =>
      match S.loadInputs s count inputs with
      | (S, .error fault) => (S, .error fault)
      | (S, .ok count) => loadFrom files s S count rest

/-- Loads paths in order, up to the first failure. Returns how many
files were decoded. -/
def load (S : FileSet) (files : FileSystem) (s : Settings)
    (paths : List String) : FileSet × Except Fault Nat :=
  S.loadFrom files s 0 paths

end FileSet

end Coverage
