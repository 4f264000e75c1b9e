import HexPattern.Session.Outcome

/-!
The command line program. The files that it may need are read beforehand and handed over as they are.
-/

namespace HexPattern

/-- The error of the system as an error of a file. -/
def FileError.ofSystem : IO.Error → FileError
  | .noFileOrDirectory .. => .notFound
  | .inappropriateType _ code _ => if code = 21 then .isDirectory else .notDirectory
  | .invalidArgument _ code details =>
    if code = 36 then .nameTooLong else .other details
  | .permissionDenied .. => .other "Permission denied (os error 13)"
  | error => .other (toString error)

/-- Reads one file. -/
def readFile (path : String) : IO (Except FileError ByteArray) := do
  try
    return .ok (← IO.FS.readBinFile path)
  catch error => return .error (.ofSystem error)

/-- Reads the files that a command line names. -/
def readFiles (invocation : CommandLine.Invocation) : IO Files := do
  let buffer := match invocation.command with
    | .test _ (.file path) _ => [path]
    | _ => []
  let paths := invocation.options.config?.toList ++ buffer
  let contents ← paths.mapM fun path => return (path, ← readFile path)
  return fun path => (contents.lookup path).getD (.error .notFound)

/-- Reads what the surroundings of the program say. Where they set a filter for records, another logger
has them: it prints those that the filter lets through, in a form of its own and with the time. That
logger is left out here, and any filter, whatever it says, counts as one that lets nothing through. -/
def readEnvironment : IO Session.Environment := do
  let force ← IO.getEnv "CLICOLOR_FORCE"
  let filter ← IO.getEnv "RUST_LOG"
  return { forceColour := force.any (· ≠ "0"), silenceRecords := filter.isSome }

/-- Runs the program on its arguments. -/
def runMain (arguments : List String) : IO UInt32 := do
  let environment ← readEnvironment
  let files ← match CommandLine.read arguments with
    | .ok invocation => readFiles invocation
    | .error _ => pure fun _ => .error .notFound
  let outcome := Session.runProgram environment files arguments
  IO.print outcome.stdout
  IO.eprint outcome.stderr
  return outcome.code.toUInt32

end HexPattern

/-- The entry point. -/
def main (arguments : List String) : IO UInt32 := HexPattern.runMain arguments
