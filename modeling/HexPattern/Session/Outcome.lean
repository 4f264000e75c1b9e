import HexPattern.CommandLine.Reader
import HexPattern.Session.Command

/-!
What a whole run of the program leaves behind: an exit code and two texts. Standard output holds the
lines of the command, and standard error the records that the threshold lets through and then, after a
failure, one report of it. A program that breaks off has a code of its own.
-/

namespace HexPattern.Session

open Terminal (Line Style)

/-- What the surroundings of the program say. -/
structure Environment where
  /-- Whether colour is wanted although the output is no terminal. -/
  forceColour : Bool
  /-- Whether the surroundings have silenced all records, with a filter that lets none through. -/
  silenceRecords : Bool
deriving DecidableEq, Repr

/-- An exit code and what was written. -/
structure Outcome where
  code : Nat
  stdout : String
  stderr : String
deriving DecidableEq, Repr

/-- The style of each level. -/
def levelStyle : Log.Level → Style
  | .warn => .bold 33
  | .info => .bold 32
  | .debug => .bold 34
  | .trace => .bold 35

/-- A record as a line. -/
def recordLine (record : Log.Record) : Line :=
  [.styled (levelStyle record.level) record.level.label, .plain " ",
    .styled .dimmed ("[" ++ record.source.name ++ "]"), .plain (" " ++ record.message)]

/-- The report of a failure as a line. -/
def failureLine (message : String) : Line := [.styled .bad "[!]", .plain (" " ++ message)]

/-- The records that are shown. -/
def shownRecords (environment : Environment) (threshold : Log.Level) (records : List Log.Record) :
    List Log.Record :=
  if environment.silenceRecords then [] else Log.kept threshold records

/-- The exit code that a result stands for. -/
def exitCode : Except Failure Bool → Nat
  | .ok true => 0
  | .ok false => 1
  | .error failure => if failure.isAbrupt then 101 else 2

/-- The lines that report a result, if it is a failure. -/
def failureLines : Except Failure Bool → List Line
  | .ok _ => []
  | .error failure =>
    if failure.isAbrupt then [[.plain failure.message]] else [failureLine failure.message]

/-- The outcome of a command under given settings. -/
def conclude (environment : Environment) (settings : Settings) (run : Run Bool) : Outcome :=
  let colour := environment.forceColour && settings.useColor
  let records := shownRecords environment settings.threshold run.records
  { code := exitCode run.result
    stdout := Terminal.render colour run.lines
    stderr := Terminal.render colour (records.map recordLine ++ failureLines run.result) }

/-- Runs an accepted command line. Without settings there is no saying that colour is unwanted. -/
def execute (environment : Environment) (files : Files) (invocation : CommandLine.Invocation) :
    Outcome :=
  match invocation.settings files with
  | .error error =>
    { code := 2
      stdout := ""
      stderr := Terminal.render environment.forceColour [failureLine error.message] }
  | .ok settings =>
    conclude environment settings (runCommand settings.letters files invocation.command)

/-- The text that explains how the program is called. -/
def helpText : String :=
  "Inspect and test hex byte patterns with nibble wildcards\n\n" ++
  "Usage: byte-pattern [OPTIONS] inspect <PATTERN>\n" ++
  "       byte-pattern [OPTIONS] test <PATTERN> <--hex <HEX>|--file <FILE>> [--offset <OFFSET>]\n\n" ++
  "Options:\n" ++
  "  -v, --verbose...       More diagnostics, each time it is given\n" ++
  "      --no-color         No colour\n" ++
  "      --lowercase        Hex digits in lower case\n" ++
  "  -c, --config <CONFIG>  Read settings from a file\n" ++
  "  -h, --help             Print help\n" ++
  "  -V, --version          Print version\n"

/-- What is answered to a command line that asks for no command to be run. -/
def decline : CommandLine.Refusal → Outcome
  | .usage error => ⟨2, "", "error: " ++ error.message ++ "\n\nFor more information, try '--help'.\n"⟩
  | .help true => ⟨0, helpText, ""⟩
  | .help false => ⟨2, "", helpText⟩
  | .version => ⟨0, "byte-pattern 1.0.0\n", ""⟩

/-- Runs the program. -/
def runProgram (environment : Environment) (files : Files) (arguments : List String) : Outcome :=
  match CommandLine.read arguments with
  | .error refusal => decline refusal
  | .ok invocation => execute environment files invocation

end HexPattern.Session
