/-
A run of the command: settings, loading, the pipeline, the report. What
goes wrong ends the run; the message then says what was being done, and
lists the causes below.
-/
import Coverage.BuiltIn
import Coverage.CommandLine.Options
import Coverage.Loading
import Coverage.Pipeline
import Coverage.Report.Text

namespace Coverage.CommandLine

/-- What a run leaves behind. -/
structure Outcome where
  exitCode : Nat := 0
  stdout : String := ""
  stderr : String := ""

-- =========================================================== failures

/-- Why a run fails. -/
inductive Failure
  /-- The source root has no absolute form. -/
  | sourceRoot (root : String) (cause : InputFault)
  /-- The inputs could not be loaded. -/
  | load (cause : Fault)
  /-- The pipeline could not be completed. -/
  | process (cause : Fault)
  /-- Nothing is left to report. -/
  | nothingLeft
deriving DecidableEq, Repr

namespace Failure

/-- What was being done. -/
def summary : Failure → String
  | .sourceRoot root _ => "Failed to resolve source directory " ++ root
  | .load _ => "Failed to load coverage data"
  | .process _ => "Failed to process coverage data"
  | .nothingLeft => "no file data present"

/-- Why it failed, the nearest cause first. -/
def causes : Failure → List String
  | .sourceRoot _ cause => [cause.message]
  | .load cause | .process cause => cause.chain
  | .nothingLeft => []

/-- A cause with its lines indented, and with `head` in front of the
first. -/
def indented (head margin cause : String) : String :=
  head ++ ("\n" ++ margin).intercalate (cause.splitOn "\n")

/-- The causes of a failure, numbered if there are several. -/
def causeLines : List String → List String
  | [cause] => [indented "    " "    " cause]
  | causes => causes.zipIdx.map fun (cause, n) =>
    indented ("    " ++ n.repr ++ ": ") "       " cause

/-- The message of a failure. -/
def text (f : Failure) : String :=
  let head := "Error: " ++ f.summary
  if f.causes.isEmpty then head ++ "\n"
  else
    head ++ "\n\nCaused by:\n"
      ++ "\n".intercalate (causeLines f.causes) ++ "\n"

end Failure

-- =============================================================== runs

namespace Options

/-- The settings of a run that starts in the current directory. -/
def settings (o : Options) (current : List Char) :
    Except Failure Settings :=
  let root := o.sourceRoot.getD "."
  let s : Settings :=
    { includeExternal := o.switches.contains .external
      exclude := o.exclude
      format := o.format }
  match s.withSourceRoot current root.toList with
  | .ok s => .ok s
  | .error cause => .error (.sourceRoot root cause)

/-- The report without data. -/
def blankReport (o : Options) : Report where
  title := o.title.getD Report.defaultTitle
  testId := o.testId
  sourceId := o.sourceId

/-- The files that a report is about. -/
def collect [Libraries] (o : Options) (files : FileSystem) (current : List Char) :
    Except Failure FileSet := do
  let s ← o.settings current
  match FileSet.empty.load files s o.inputs with
  | (_, .error fault) => .error (.load fault)
  | (S, .ok _) =>
    match S.process s with
    | (_, some fault) => .error (.process fault)
    | (S, none) => if S.isEmpty then .error .nothingLeft else .ok S

/-- The parts of a report that are wanted, as one text. -/
def print (o : Options) (r : Report) : String :=
  let part (s : Switch) (text : String) : String :=
    if o.switches.contains s then "\n" ++ text else ""
  r.summaryText ++ part .files r.filesText ++ part .functions r.functionsText

/-- Runs the command. -/
def run [Libraries] (o : Options) (files : FileSystem) (current : List Char) :
    Outcome :=
  match o.collect files current with
  | .ok S => { stdout := o.print (o.blankReport.withStatistics S) }
  | .error failure => { exitCode := 1, stderr := failure.text }

end Options

-- ======================================================== the command

-- from here on the libraries are those of the command
attribute [instance] BuiltIn.libraries

/-- The name of the command. -/
def commandName : String := Report.defaultTitle

/-- The name and version of the command. -/
def versionText : String := commandName ++ " 0.1.0\n"

/-- How the command is used. -/
def usageText : String :=
  "Usage: " ++ commandName ++ " [OPTIONS] INPUT...\n\n"
    ++ "Options:\n"
    ++ "      --srcdir DIR     names under this directory become relative\n"
    ++ "      --external       keep files with absolute names\n"
    ++ "      --exclude REGEX  drop files in whose names this occurs\n"
    ++ "      --format FORMAT  format of inputs that are files\n"
    ++ "      --title TITLE    title of the report\n"
    ++ "      --testid ID      identifier of the test run\n"
    ++ "      --srcid ID       identifier of the source revision\n"
    ++ "      --files          list files\n"
    ++ "      --functions      list functions\n"
    ++ "  -v, --verbose        say more about what is done\n"
    ++ "  -h, --help           print this text\n"
    ++ "  -V, --version        print the version\n"

/-- Runs a command line in the current directory, with the libraries that
it brings along. A command line that cannot be used has an exit code of
its own. -/
def run (files : FileSystem) (current : List Char)
    (arguments : List String) : Outcome :=
  match read arguments with
  | .ok .help => { stdout := usageText }
  | .ok .version => { stdout := versionText }
  | .ok (.run o) => o.run files current
  | .error fault =>
    { exitCode := 2
      stderr := "error: " ++ fault.message ++ "\n\n" ++ usageText }

end Coverage.CommandLine
