/-
Files kept in memory: a tree of directories below a root. Looking up a
path walks from the root, or from a current directory, one piece at a
time. Only a directory has anything below it, and the parent of the
root is the root.
-/
import Coverage.FileSystem
import Coverage.SourcePath

namespace Coverage

/-- A file, or a directory with all that is in it. -/
inductive FileTree
  | file (contents : List UInt8)
  | directory (entries : List (String × FileTree))

namespace FileTree

/-- A directory with nothing in it. -/
def empty : FileTree := .directory []

-- ============================================================ looking

/-- Walks on from a place along the pieces of a path; `above` are the
directories that lead to the place, the nearest first. -/
def walk (above : List FileTree) (here : FileTree) :
    List (List Char) → Except InputFault FileTree
  | [] => .ok here
  | piece :: rest =>
    match here with
    | .file _ => .error .notADirectory
    | .directory entries =>
      if piece = [] ∨ piece = ['.'] then walk above here rest
      else if piece = ['.', '.'] then
        match above with
        | [] => walk [] here rest
        | parent :: above => walk above parent rest
      else
        match entries.lookup (String.ofList piece) with
        | some next => walk (here :: above) next rest
        | none => .error .notFound

/-- What stands at a path. A path that is not absolute starts in the
current directory. -/
def find (root : FileTree) (current path : List Char) :
    Except InputFault FileTree :=
  if path = [] then .error .notFound
  else if path.contains '\x00' then .error .zeroInPath
  else
    let whole :=
      if SourcePath.isAbsolute path then path
      else SourcePath.entry current path
    walk [] root (whole.splitOn '/')

/-- The tree as seen from its current directory. -/
def fileSystem (root : FileTree) (current : List Char) : FileSystem :=
  fun path =>
    match root.find current path.toList with
    | .ok (.file contents) => .file (.ok contents)
    | .ok (.directory entries) => .directory (.ok (entries.map (·.1)))
    | .error fault => .file (.error fault)

-- =========================================================== building

/-- The tree that stands under a name. A file has nothing below it. -/
def child? (tree : FileTree) (name : String) : Option FileTree :=
  match tree with
  | .file _ => none
  | .directory entries => entries.lookup name

/-- Puts a tree under a name, in the place of what stood there. A file
gives way to a directory. -/
def setChild (tree : FileTree) (name : String) (new : FileTree) :
    FileTree :=
  match tree with
  | .file _ => .directory [(name, new)]
  | .directory entries =>
    .directory (entries.filter (·.1 != name) ++ [(name, new)])

/-- Puts a tree at a path, where directories on the way come into being
as they are needed. -/
def put (tree : FileTree) (path : List String) (new : FileTree) :
    FileTree :=
  match path with
  | [] => new
  | name :: rest =>
    tree.setChild name (((tree.child? name).getD empty).put rest new)

/-- Makes a directory, unless there is one. -/
def makeDirectory (tree : FileTree) (path : List String) : FileTree :=
  match path, tree with
  | [], .directory entries => .directory entries
  | [], .file _ => empty
  | name :: rest, tree =>
    tree.setChild name (((tree.child? name).getD empty).makeDirectory rest)

end FileTree

end Coverage
