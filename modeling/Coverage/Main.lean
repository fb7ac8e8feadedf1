/-
The program: it takes a picture of the files that the command line
names, runs the command on the picture, and prints what comes out.
-/
import Coverage.CommandLine

namespace Coverage.Program

/-- The fault behind a failure of the system. -/
def inputFault : IO.Error → InputFault
  | .noFileOrDirectory .. | .noSuchThing .. => .notFound
  | .inappropriateType .. => .notADirectory
  | e => .other (toString e)

/-- What an action gives, or the fault behind its failure. -/
def attempt {α : Type} (action : IO α) : IO (Except InputFault α) := do
  try return .ok (← action)
  catch e => return .error (inputFault e)

/-- Reads an open file to its end. A failure leaves what was read before
it. -/
def readAll (file : IO.FS.Handle) : IO ByteStream := do
  let mut found := ByteArray.empty
  repeat
    match ← attempt (file.read Input.pieceSize.toUSize) with
    | .error fault => return ⟨found.toList, some fault⟩
    | .ok piece =>
      if piece.isEmpty then break
      found := found ++ piece
  return ⟨found.toList, none⟩

/-- Looks at a path. -/
def look (path : String) : IO Entry := do
  if path.isEmpty then return .file (.error .notFound)
  let place := (← IO.currentDir) / path
  if ← place.isDir then
    let names ← attempt do
      return (← place.readDir).toList.map (·.fileName)
    return .directory names
  else
    match ← attempt (IO.FS.Handle.mk place .read) with
    | .error fault => return .file (.error fault)
    | .ok file => return .file (.ok (← readAll file))

/-- Looks at a path, and at what is in it if it is a directory. -/
def lookInto (path : String) : IO (List (String × Entry)) := do
  let here ← look path
  let inside ←
    match here with
    | .directory (.ok names) =>
      names.mapM fun name => do
        let path := Input.entryPath path name
        return (path, ← look path)
    | _ => pure []
  return (path, here) :: inside

/-- What a picture shows. -/
def picture (seen : List (String × Entry)) : FileSystem := fun path =>
  (seen.lookup path).getD (.file (.error .notFound))

end Coverage.Program

open Coverage Program

/-- Runs the command. -/
def main (arguments : List String) : IO UInt32 := do
  let inputs :=
    match CommandLine.read arguments with
    | .ok (.run o) => o.inputs
    | _ => []
  let seen ← inputs.mapM lookInto
  let current := toString (← IO.currentDir)
  let outcome :=
    CommandLine.run (picture seen.flatten) current.toList arguments
  IO.print outcome.stdout
  IO.eprint outcome.stderr
  return outcome.exitCode.toUInt32
