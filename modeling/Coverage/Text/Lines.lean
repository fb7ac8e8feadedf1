/-
Lines of a byte stream. Bytes are cut at each line feed before they are
read as text, so a character that a line feed cuts short is ill-formed
in its own line and harms no other. Carriage returns at the end of a
line belong to its terminator. A line feed at the very end begins no
further line.
-/
import Coverage.Text.Split
import Coverage.Text.Utf8

namespace Coverage.Text

/-- The byte that ends a line. -/
def lineFeed : UInt8 := 10

/-- The raw lines of a byte stream, without their line feeds. -/
def rawLines (bytes : List UInt8) : List (List UInt8) :=
  let pieces := bytes.splitOn lineFeed
  if pieces.getLast? = some [] then pieces.dropLast else pieces

/-- A raw line as text, without carriage returns at its end. -/
def readLine (raw : List UInt8) : List Char :=
  trimEnd (· == '\r') (Utf8.decode raw)

/-- The lines of a byte stream as text. -/
def lines (bytes : List UInt8) : List (List Char) :=
  (rawLines bytes).map readLine

/-- The lines that end with a line feed, as text. -/
def wholeLines (bytes : List UInt8) : List (List Char) :=
  (bytes.splitOn lineFeed).dropLast.map readLine

end Coverage.Text
