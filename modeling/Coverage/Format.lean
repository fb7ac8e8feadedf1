/-
The formats that coverage data comes in. A format has a name, by which it
can be asked for, and a file extension, by which a file is recognised;
nothing in a file itself is looked at to tell its format. Neither name
nor extension distinguishes upper from lower case.
-/
import Coverage.SourcePath

namespace Coverage

/-- The formats that can be read. -/
inductive Format
  /-- The intermediate text of gcov. -/
  | gcov
  /-- Tracefiles of lcov. -/
  | lcov
  /-- The compressed JSON of gcov. -/
  | gcovJson
  /-- Exports of llvm-cov. -/
  | llvm
  /-- Profiles of the Go tools. -/
  | goProfile
deriving DecidableEq, Repr

namespace Format

/-- All formats. -/
def all : List Format := [.gcov, .lcov, .gcovJson, .llvm, .goProfile]

/-- The name of a format. -/
def name : Format → String
  | .gcov => "gcov"
  | .lcov => "lcov"
  | .gcovJson => "gcov-json"
  | .llvm => "llvm"
  | .goProfile => "go"

/-- The file extension of a format, without its point. -/
def extension : Format → String
  | .gcov => "gcov"
  | .lcov => "info"
  | .gcovJson => "gz"
  | .llvm => "json"
  | .goProfile => "out"

/-- Two texts are equal up to the case of ASCII letters. For comparison
with an extension this is as good as full lower-casing: the one character
beyond ASCII whose lower case is an ASCII letter is the Kelvin sign, and
no extension has a `k`. -/
def equalsIgnoringCase (a b : List Char) : Bool :=
  a.map Char.toLower == b.map Char.toLower

/-- The format of an extension. -/
def ofExtension? (ext : List Char) : Option Format :=
  all.find? fun format => equalsIgnoringCase format.extension.toList ext

/-- The format of that name. -/
def ofName (name : String) : Except Fault Format :=
  match all.find? (equalsIgnoringCase ·.name.toList name.toList) with
  | some format => .ok format
  | none => .error (.unknownFormat name)

/-- The format of a file, by its extension. -/
def ofPath (path : List Char) : Except Fault Format :=
  let ext := (SourcePath.extension? path).getD []
  match ofExtension? ext with
  | some format => .ok format
  | none => .error (.unknownExtension ext)

end Format

end Coverage
