/-
Flags of a pattern. Flags hold from where they are set to the end of the
group around them, later alternatives included. Three of them change
which characters a set has, two how lines are told apart, and one lets a
pattern be laid out with blanks and comments.
-/
import Coverage.Pattern.NamedClass
import Coverage.Pattern.Node
import Coverage.Unicode.CaseFold

namespace Coverage.Pattern

/-- The flags that hold at a place of a pattern. -/
structure Flags where
  /-- `i`: case makes no difference. -/
  ignoreCase : Bool := false
  /-- `m`: line anchors match at every line. -/
  multiLine : Bool := false
  /-- `s`: a point matches line terminators too. -/
  pointMatchesAll : Bool := false
  /-- `x`: blanks and comments in the pattern do not count. -/
  extended : Bool := false
  /-- `u`: properties are those of all of Unicode. -/
  unicode : Bool := true
  /-- `R`: a carriage return terminates lines as well. -/
  anyTerminator : Bool := false

namespace Flags

/-- The flags with one of them set or cleared, if there is a flag of that
letter. The preference for short matches changes which match is found,
not whether there is one. -/
def set? (flags : Flags) (letter : Char) (value : Bool) : Option Flags :=
  match letter with
  | 'i' => some { flags with ignoreCase := value }
  | 'm' => some { flags with multiLine := value }
  | 's' => some { flags with pointMatchesAll := value }
  | 'x' => some { flags with extended := value }
  | 'u' => some { flags with unicode := value }
  | 'R' => some { flags with anyTerminator := value }
  | 'U' => some flags
  | _ => none

/-- Closes a set under differences in case, if they make none. Outside
Unicode only ASCII letters have a case. -/
def fold (flags : Flags) (set : CharSet) : CharSet :=
  if flags.ignoreCase then
    if flags.unicode then set.foldCase else set.foldAsciiCase
  else set

/-- Decimal digits. -/
def digit (flags : Flags) : CharSet :=
  if flags.unicode then Unicode.digits else .asciiDigit

/-- White space. -/
def space (flags : Flags) : CharSet :=
  if flags.unicode then Unicode.whiteSpace else .asciiSpace

/-- Word characters. -/
def word (flags : Flags) : CharSet :=
  if flags.unicode then Unicode.wordCharacters else .asciiWord

/-- What a point matches. -/
def point (flags : Flags) : CharSet :=
  if flags.pointMatchesAll then .all
  else if flags.anyTerminator then .complement (.ofChars "\r\n")
  else .complement (.single '\n')

/-- The condition that a circumflex stands for. -/
def lineStart (flags : Flags) : Assertion :=
  if flags.multiLine then
    if flags.anyTerminator then .anyLineStart else .lineStart
  else .textStart

/-- The condition that a dollar sign stands for. -/
def lineEnd (flags : Flags) : Assertion :=
  if flags.multiLine then
    if flags.anyTerminator then .anyLineEnd else .lineEnd
  else .textEnd

end Flags

end Coverage.Pattern
