/-
What a caller can set. The settings are made once and handed down; the
source root is made absolute when it is set, so everything later can
compare it with absolute names.
-/
import Coverage.Format

namespace Coverage

/-- Settings of a run. -/
structure Settings where
  /-- The absolute source root. Names under it become relative to it. -/
  sourceRoot : Option (List Char) := none
  /-- Files with absolute names are kept. -/
  includeExternal : Bool := false
  /-- Files in whose names this pattern occurs are dropped. -/
  exclude : Option String := none
  /-- Inputs that are named one by one have this format, whatever their
  extension. -/
  format : Option Format := none

/-- Sets the source root. A relative one starts in the current
directory. -/
def Settings.withSourceRoot (s : Settings) (current root : List Char) :
    Except InputFault Settings := do
  let root ← SourcePath.absolute current root
  return { s with sourceRoot := some root }

end Coverage
