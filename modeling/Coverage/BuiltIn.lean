/-
The libraries that the command brings along: patterns, documents and
gzip files as they are read here. They are at hand where this namespace
is open; anything said elsewhere is said of any libraries.
-/
import Coverage.Gzip
import Coverage.Json.Document
import Coverage.Libraries
import Coverage.Pattern

namespace Coverage.BuiltIn

/-- The libraries that are part of the command. -/
scoped instance libraries : Libraries where
  search? text := (Pattern.ofString? text).map Pattern.occursIn
  document := Json.Document.ofStream
  decompress := Gzip.decompress

end Coverage.BuiltIn
