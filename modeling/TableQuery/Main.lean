import TableQuery.Command.Run

set_option autoImplicit false

namespace TableQuery.Main

/-- Why the system refuses a file. -/
def fileError : IO.Error → FileError
  | .noFileOrDirectory _ _ _ => .notFound
  | .noSuchThing _ _ _ => .notFound
  | .inappropriateType _ code reason => .other reason code.toNat
  | .permissionDenied _ code reason => .other reason code.toNat
  | .invalidArgument _ code reason => .other reason code.toNat
  | .resourceExhausted _ code reason => .other reason code.toNat
  | .otherError code reason => .other reason code.toNat
  | e => .other (toString e) 0

def readFile (path : String) : IO (Except FileError String) := do
  try
    return decodeText (← IO.FS.readBinFile path)
  catch e => return .error (fileError e)

def readInput : IO (Except FileError String) := do
  return decodeText (← (← IO.getStdin).readBinToEnd)

/-- The texts at paths, once they are read. -/
def reader (texts : List (String × Except FileError String)) : FileReader := fun path =>
  (texts.lookup path).getD (.error .notFound)

def finish (outcome : Outcome) : IO UInt32 := do
  IO.print outcome.output
  IO.eprint outcome.errors
  return outcome.exitCode.toUInt32

/-- Runs a command; the input is read only once the files are. -/
def runCommand (verbose : Bool) (command : Command) : IO UInt32 := do
  let paths := command.config.toList ++ [command.data]
  let texts ← paths.mapM fun path => return (path, ← readFile path)
  let (loaded, log) := (command.load (reader texts)).run.run (Outcome.initialLog verbose)
  match loaded with
  | .error e => finish (.ofResult (.error e) log)
  | .ok (config, collection) =>
    let (result, log) := (command.answer config collection (← readInput)).run.run log
    finish (.ofResult result log)

end TableQuery.Main

open TableQuery in
/-- The program with its arguments. -/
def main (arguments : List String) : IO UInt32 :=
  match Invocation.ofArguments arguments with
  | .run verbose command => Main.runCommand verbose command
  | invocation => Main.finish (.of invocation (fun _ => .error .notFound) (.ok ""))
