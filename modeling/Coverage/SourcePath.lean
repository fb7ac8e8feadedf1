/-
Paths, as text with slashes. A path is cut at its slashes into pieces.
Empty pieces and pieces that are a single point do not count, except a
single point in first place, which says that the path is relative; two
points do count, and are not resolved. What counts are the components
of the path. They decide whether one path lies under another, and which
name a path ends in.

Cutting a path loses nothing, so what remains below a root can keep its
text verbatim: it is the remaining pieces put together again, without
those at either end that do not count.
-/
import Coverage.Fault
import Coverage.Text.Split

namespace Coverage.SourcePath

-- ========================================================= components

/-- A component of a path. -/
inductive Component
  /-- The root of the file system. -/
  | root
  /-- The directory that a relative path starts in, when it is written. -/
  | here
  /-- The parent directory. -/
  | parent
  /-- An entry of a directory. -/
  | named (name : List Char)
deriving DecidableEq, Repr

/-- The piece stands for a component. -/
def counts (piece : List Char) : Bool := piece != [] && piece != ['.']

/-- The component that a piece stands for. -/
def Component.ofPiece (piece : List Char) : Component :=
  if piece = ['.', '.'] then .parent else .named piece

/-- A path in pieces: what it starts with, if that is a component of its
own, and the pieces behind it. -/
structure Layout where
  /-- The root, or the written starting directory. -/
  lead : Option Component
  /-- The pieces behind the lead, those that do not count included. -/
  body : List (List Char)

/-- Cuts a path into its pieces. -/
def layout (path : List Char) : Layout :=
  match path.splitOn '/' with
  | [] :: piece :: rest => ⟨some .root, piece :: rest⟩
  | ['.'] :: rest => ⟨some .here, rest⟩
  | pieces => ⟨none, pieces⟩

/-- The components of a path. -/
def components (path : List Char) : List Component :=
  let parts := layout path
  parts.lead.toList ++ (parts.body.filter counts).map .ofPiece

/-- The path starts at the root. -/
def isAbsolute (path : List Char) : Bool := path.head? == some '/'

-- ========================================================= below a root

/-- Pieces as text. -/
def joined (pieces : List (List Char)) : List Char :=
  ['/'].intercalate pieces

/-- The pieces without those at the end that do not count. -/
def trimPiecesEnd (pieces : List (List Char)) : List (List Char) :=
  (pieces.reverse.dropWhile (! counts ·)).reverse

/-- The pieces without those at either end that do not count. -/
def trimPieces (pieces : List (List Char)) : List (List Char) :=
  trimPiecesEnd (pieces.dropWhile (! counts ·))

/-- The pieces behind the given components, if they start with them. -/
def dropComponents :
    List Component → List (List Char) → Option (List (List Char))
  | [], pieces => some pieces
  | c :: cs, pieces =>
    match pieces.dropWhile (! counts ·) with
    | [] => none
    | piece :: rest =>
      if Component.ofPiece piece = c then dropComponents cs rest else none

/-- The path as it is, without pieces at its end that do not count. -/
def trimmed (path : List Char) : List Char :=
  let parts := layout path
  let rest := trimPiecesEnd parts.body
  match parts.lead with
  | some .root => '/' :: joined rest
  | some _ => joined (['.'] :: rest)
  | none => joined rest

/-- What of the path lies behind the root, if its components start with
those of the root. Behind a root without components the path keeps how
it starts. -/
def behind? (path root : List Char) : Option (List Char) :=
  let parts := layout path
  match components root, parts.lead with
  | [], _ => some (trimmed path)
  | c :: cs, some lead =>
    if lead = c then
      (dropComponents cs parts.body).map (joined <| trimPieces ·)
    else none
  | cs, none =>
    (dropComponents cs parts.body).map (joined <| trimPieces ·)

/-- The path relative to the root. None if it does not lie under the
root, or is the root. -/
def relativeTo? (root path : List Char) : Option (List Char) :=
  (behind? path root).filter (· != [])

-- =============================================================== names

/-- The name that the path ends in. -/
def fileName? (path : List Char) : Option (List Char) :=
  match (components path).getLast? with
  | some (.named name) => some name
  | _ => none

/-- What follows the last point of the name that the path ends in. A
point in first place does not count. -/
def extension? (path : List Char) : Option (List Char) := do
  let name ← fileName? path
  let (after, before) ← Text.splitFirst? '.' name.reverse
  if before = [] then none else some after.reverse

/-- The path of an entry of a directory. -/
def entry (directory name : List Char) : List Char :=
  if directory.getLast? = some '/' then directory ++ name
  else directory ++ '/' :: name

-- ====================================================== absolute paths

/-- The text of a component. -/
def Component.text : Component → List Char
  | .root => ['/']
  | .here => ['.']
  | .parent => ['.', '.']
  | .named name => name

/-- What an absolute form starts with: exactly two slashes in front stay
two, any other number of them becomes one, and a relative path starts in
the current directory. -/
def base (current path : List Char) : List Char :=
  match path with
  | '/' :: '/' :: '/' :: _ => ['/']
  | '/' :: '/' :: _ => ['/', '/']
  | '/' :: _ => ['/']
  | _ => current

/-- The absolute form of a path: its components behind what it starts
with. Parent directories stay, and so does a slash at the end. An empty
path has no absolute form. -/
def absolute (current path : List Char) : Except InputFault (List Char) :=
  if path = [] then .error .emptyPath
  else
    let names := ((components path).filter
      fun c => c != .root && c != .here).map Component.text
    let whole := names.foldl entry (base current path)
    if path.getLast? = some '/' && whole.getLast? != some '/' then
      .ok (whole ++ ['/'])
    else .ok whole

end Coverage.SourcePath
