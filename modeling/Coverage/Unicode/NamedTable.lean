/-
Sets of characters that are looked up by name.
-/
import Coverage.CharSet

namespace Coverage.Unicode

/-- A set of characters as a table, and the names it goes by. The names
are canonical: in lower case, without blanks, hyphens and
underscores. -/
structure NamedTable where
  names : List String
  rows : List String

/-- The set of that name. -/
def NamedTable.find? (tables : List NamedTable) (name : String) :
    Option CharSet :=
  (tables.find? (·.names.contains name)).map (.ofTable ·.rows)

end Coverage.Unicode
