/-
What can be seen of a file system: what stands at each path. Nothing
changes while it is looked at. A path at which nothing stands is treated
like a file; that there is none shows when it is opened. A file that
was opened may still fail while it is read.
-/
import Coverage.ByteStream

namespace Coverage

/-- What stands at a path. -/
inductive Entry
  /-- A directory, with the names in it if they can be listed. -/
  | directory (names : Except InputFault (List String))
  /-- Anything else, with its contents if it can be opened. -/
  | file (contents : Except InputFault ByteStream)

/-- What stands at each path. -/
abbrev FileSystem := String → Entry

end Coverage
