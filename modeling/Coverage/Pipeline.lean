/-
What happens to a set of files once everything is loaded: names under
the source root become relative, files outside it and excluded files are
dropped, and lines are derived from regions.

Renaming goes in the order of the names that were there at first. A file
whose new name is taken is merged into the file that has it, so nothing
is lost.
-/
import Coverage.FileSet
import Coverage.Libraries
import Coverage.Settings

namespace Coverage

namespace FileSet

/-- The name relative to the root, if it lies under it. -/
def relativeName? (root : List Char) (name : String) : Option String :=
  (SourcePath.relativeTo? root name.toList).map String.ofList

/-- Gives the file of the first name the second one, merging it into a
file that has that name already. -/
def rename (S : FileSet) (old new : String) : FileSet :=
  match S.get? old with
  | none => S
  | some d => (S.erase old).insert { d with name := new }

/-- The renamings that make names relative to the root, by old name. -/
def renamings (S : FileSet) (root : List Char) : List (String × String) :=
  S.names.filterMap fun name => (relativeName? root name).map (name, ·)

/-- Makes the names under the root relative to it. -/
def normalize (S : FileSet) (root : List Char) : FileSet :=
  (S.renamings root).foldl (fun S (old, new) => S.rename old new) S

/-- Drops files with absolute names, unless they are to be kept. -/
def filterExternal (S : FileSet) (includeExternal : Bool) : FileSet :=
  if includeExternal then S
  else S.filter fun name _ => ! SourcePath.isAbsolute name.toList

section

variable [Libraries]

/-- The names that a text excludes: none if it is empty, else those in
which it occurs as a pattern. A text that is no pattern cannot be
used. -/
def exclusions? (text : String) : Option (String → Bool) :=
  if text.isEmpty then some fun _ => false else Libraries.search? text

/-- Drops files whose names the text excludes. A text that cannot be used
drops nothing. -/
def filterExcluded (S : FileSet) (text : String) : FileSet :=
  match exclusions? text with
  | some excluded => S.filter fun name _ => ! excluded name
  | none => S

/-- Normalizes the names, drops files, and derives lines. -/
def process (S : FileSet) (s : Settings) : FileSet × Option Fault :=
  let S := (s.sourceRoot.map S.normalize).getD S
  let S := S.filterExternal s.includeExternal
  let S := (s.exclude.map S.filterExcluded).getD S
  S.deriveLines

end

end FileSet

end Coverage
