/-
What is done by others: making a search out of a pattern, going through
a JSON document, and decompressing a file. Which patterns there are,
which texts are JSON and which data is sound is not said here. What
loads and processes coverage data takes any such libraries, and so what
is proved of it holds whatever they do.
-/
import Coverage.Json

namespace Coverage

/-- The libraries at hand. -/
class Libraries where
  /-- The search for a pattern: whether it occurs in a name. Some texts
  are no patterns. -/
  search? : String → Option (String → Bool)
  /-- The document in a stream, as one who goes through it comes to know
  it. -/
  document : ByteStream → Json.Document
  /-- What a compressed stream holds, when it is handed over in pieces of
  that size, or else at once. -/
  decompress : ByteStream → Option Nat → ByteStream

end Coverage
