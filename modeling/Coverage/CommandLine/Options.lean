/-
The command line. Arguments are taken from left to right. Flags and
inputs may be mixed; two dashes alone end the flags. A flag that takes
a value has it behind an equals sign or as the next argument, which then
must not look like a flag. No flag but the one for verbosity may be
given twice; verbosity is accepted, and changes nothing about the report.
-/
import Coverage.Format
import Coverage.Report

namespace Coverage.CommandLine

-- ============================================================= options

/-- A flag that takes a value. -/
inductive Setting
  | sourceRoot
  | exclude
  | format
  | title
  | testId
  | sourceId
deriving DecidableEq, Repr

/-- A flag that takes none. -/
inductive Switch
  | external
  | files
  | functions
deriving DecidableEq, Repr

/-- A flag. -/
inductive Flag
  | setting (s : Setting)
  | switch (s : Switch)
  | verbose
  | help
  | version
deriving DecidableEq, Repr

/-- The flags by their names. -/
def flags : List (String × Flag) :=
  [("srcdir", .setting .sourceRoot), ("exclude", .setting .exclude),
    ("format", .setting .format), ("title", .setting .title),
    ("testid", .setting .testId), ("srcid", .setting .sourceId),
    ("external", .switch .external), ("files", .switch .files),
    ("functions", .switch .functions), ("verbose", .verbose),
    ("help", .help), ("version", .version)]

/-- The flags that have a short name. -/
def shortFlags : List (Char × Flag) :=
  [('v', .verbose), ('h', .help), ('V', .version)]

/-- What was given on a command line. -/
structure Options where
  /-- Files and directories to load, in order. -/
  inputs : List String := []
  sourceRoot : Option String := none
  exclude : Option String := none
  format : Option Format := none
  title : Option String := none
  testId : Option String := none
  sourceId : Option String := none
  /-- The switches that are on. -/
  switches : List Switch := []

/-- What a command line asks for. -/
inductive Request
  | help
  | version
  | run (options : Options)

-- ============================================================= faults

/-- Why a command line cannot be used. -/
inductive UsageFault
  | unknownFlag (argument : String)
  | missingValue (name : String)
  | surplusValue (name : String)
  | repeated (name : String)
  | emptyPath
  | badFormat (fault : Fault)
  | noInputs
deriving DecidableEq, Repr

/-- The wording of a fault of usage. -/
def UsageFault.message : UsageFault → String
  | .unknownFlag argument => "unknown argument '" ++ argument ++ "'"
  | .missingValue name => "'--" ++ name ++ "' needs a value"
  | .surplusValue name => "'--" ++ name ++ "' takes no value"
  | .repeated name => "'--" ++ name ++ "' is given more than once"
  | .emptyPath => "a path is empty"
  | .badFormat fault => fault.message
  | .noInputs => "no inputs are given"

-- ============================================================ reading

namespace Options

/-- Sets what is not set yet. -/
def setOnce {α : Type} (name : String) (old : Option α) (new : α) :
    Except UsageFault (Option α) :=
  match old with
  | some _ => .error (.repeated name)
  | none => .ok (some new)

/-- A path that is not empty. -/
def checkPath (path : String) : Except UsageFault String :=
  if path.isEmpty then .error .emptyPath else .ok path

/-- The format of that name. -/
def checkFormat (name : String) : Except UsageFault Format :=
  match Format.ofName name with
  | .ok format => .ok format
  | .error fault => .error (.badFormat fault)

/-- Takes the value of a flag. -/
def set (o : Options) (name value : String) :
    Setting → Except UsageFault Options
  | .sourceRoot => do
    return { o with
      sourceRoot := ← setOnce name o.sourceRoot (← checkPath value) }
  | .exclude => return { o with exclude := ← setOnce name o.exclude value }
  | .format => do
    return { o with format := ← setOnce name o.format (← checkFormat value) }
  | .title => return { o with title := ← setOnce name o.title value }
  | .testId => return { o with testId := ← setOnce name o.testId value }
  | .sourceId =>
    return { o with sourceId := ← setOnce name o.sourceId value }

/-- Turns a switch on. -/
def turnOn (o : Options) (name : String) (s : Switch) :
    Except UsageFault Options :=
  if o.switches.contains s then .error (.repeated name)
  else .ok { o with switches := s :: o.switches }

/-- Takes an input. -/
def addInput (o : Options) (path : String) : Except UsageFault Options := do
  return { o with inputs := o.inputs ++ [← checkPath path] }

/-- Ends a command line. There must be an input. -/
def finish (o : Options) : Except UsageFault Request :=
  if o.inputs.isEmpty then .error .noInputs else .ok (.run o)

end Options

/-- What an argument is to the arguments behind it. -/
inductive Effect
  /-- Reading goes on. -/
  | continue (o : Options)
  /-- The next argument is the value of a flag. -/
  | await (o : Options) (name : String) (s : Setting)
  /-- All further arguments are inputs. -/
  | inputsOnly (o : Options)
  /-- No further argument matters. -/
  | stop (r : Request)

/-- An argument that starts like a flag. A single dash does not. -/
def looksLikeFlag (argument : String) : Bool :=
  argument.startsWith "-" && argument != "-"

/-- Splits a long flag, without its dashes, at its first equals sign. -/
def splitValue (text : List Char) : String × Option String :=
  match Text.splitFirst? '=' text with
  | some (name, value) => (String.ofList name, some (String.ofList value))
  | none => (String.ofList text, none)

/-- Takes a long flag, without its dashes. -/
def onLong (o : Options) (text : List Char) : Except UsageFault Effect :=
  let (name, value) := splitValue text
  match flags.lookup name, value with
  | none, _ => .error (.unknownFlag ("--" ++ name))
  | some (.setting s), some value => .continue <$> o.set name value s
  | some (.setting s), none => .ok (.await o name s)
  | some _, some _ => .error (.surplusValue name)
  | some (.switch s), none => .continue <$> o.turnOn name s
  | some .verbose, none => .ok (.continue o)
  | some .help, none => .ok (.stop .help)
  | some .version, none => .ok (.stop .version)

/-- Takes short flags, without their dash. -/
def onShort (o : Options) : List Char → Except UsageFault Effect
  | [] => .ok (.continue o)
  | c :: rest =>
    match shortFlags.lookup c with
    | some .help => .ok (.stop .help)
    | some .version => .ok (.stop .version)
    | some _ => onShort o rest
    | none => .error (.unknownFlag ("-" ++ String.ofList [c]))

/-- Takes an argument. -/
def onArgument (o : Options) (argument : String) :
    Except UsageFault Effect :=
  if argument = "--" then .ok (.inputsOnly o)
  else if looksLikeFlag argument then
    match argument.toList with
    | _ :: '-' :: text => onLong o text
    | _ :: text => onShort o text
    | [] => .ok (.continue o)
  else .continue <$> o.addInput argument

/-- Reads the arguments behind an effect. -/
def readFrom : Effect → List String → Except UsageFault Request
  | .stop r, _ => .ok r
  | .continue o, [] | .inputsOnly o, [] => o.finish
  | .await _ name _, [] => .error (.missingValue name)
  | .continue o, argument :: rest => do
    readFrom (← onArgument o argument) rest
  | .inputsOnly o, argument :: rest => do
    readFrom (.inputsOnly (← o.addInput argument)) rest
  | .await o name s, value :: rest => do
    if looksLikeFlag value then .error (.missingValue name)
    readFrom (.continue (← o.set name value s)) rest

/-- Reads the arguments of a command line. -/
def read (arguments : List String) : Except UsageFault Request :=
  readFrom (.continue {}) arguments

end Coverage.CommandLine
