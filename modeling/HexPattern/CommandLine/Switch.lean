import HexPattern.Offset
import HexPattern.Terminal.Plain

/-!
The switches of the command line, where each may stand, and the ways in which arguments go wrong.
-/

namespace HexPattern.CommandLine

/-- Everything that is given with dashes. -/
inductive Switch where
  | verbose
  | noColor
  | lowercase
  | config
  | hex
  | file
  | offset
  | help
  | version
deriving DecidableEq, Repr

/-- The parts of a command line: what stands before the command, and what follows each command. -/
inductive Scope where
  | program
  | inspect
  | test
deriving DecidableEq, Repr

namespace Switch

/-- The name after two dashes. -/
def longName : Switch → String
  | verbose => "verbose"
  | noColor => "no-color"
  | lowercase => "lowercase"
  | config => "config"
  | hex => "hex"
  | file => "file"
  | offset => "offset"
  | help => "help"
  | version => "version"

/-- The letter after one dash, for those that have one. -/
def letter? : Switch → Option Char
  | verbose => some 'v'
  | config => some 'c'
  | offset => some 'o'
  | help => some 'h'
  | version => some 'V'
  | _ => none

/-- Whether a value belongs to the switch. -/
def takesValue : Switch → Bool
  | config | hex | file | offset => true
  | _ => false

/-- The switch as it is named in messages. -/
def shown : Switch → String
  | verbose => "--verbose..."
  | config => "--config <CONFIG>"
  | hex => "--hex <HEX>"
  | file => "--file <FILE>"
  | offset => "--offset <OFFSET>"
  | switch => "--" ++ switch.longName

end Switch

namespace Scope

/-- The switches that may stand in each part. -/
def switches : Scope → List Switch
  | program => [.verbose, .noColor, .lowercase, .config, .help, .version]
  | inspect => [.verbose, .noColor, .lowercase, .config, .help]
  | test => [.verbose, .noColor, .lowercase, .config, .hex, .file, .offset, .help]

/-- The switch with the given long name. -/
def byName? (scope : Scope) (name : List Char) : Option Switch :=
  scope.switches.find? fun switch => switch.longName.toList = name

/-- The switch with the given letter. -/
def byLetter? (scope : Scope) (letter : Char) : Option Switch :=
  scope.switches.find? fun switch => switch.letter? = some letter

end Scope

/-- What is wrong with a command line. -/
inductive UsageError where
  /-- A pattern or a buffer is missing. -/
  | missingArguments
  /-- A switch without its value. -/
  | missingValue (switch : Switch)
  /-- Two switches of which only one may be given. -/
  | conflict (first second : Switch)
  /-- A switch that is given twice. -/
  | repeated (switch : Switch)
  /-- A word in the place of the command that names none. -/
  | unknownCommand (word : String)
  /-- An argument that has no place. -/
  | unexpectedArgument (argument : String)
  /-- A value for a switch that takes none. -/
  | unexpectedValue (value : String) (switch : Switch)
  /-- No command. -/
  | missingCommand
  /-- An offset that is no number. -/
  | badOffset (text : String) (fault : Offset.Fault)
deriving DecidableEq, Repr

/-- The error in words. What was given is shown without control sequences. -/
def UsageError.message : UsageError → String
  | missingArguments => "the following required arguments were not provided:"
  | missingValue switch => "a value is required for '" ++ switch.shown ++ "' but none was supplied"
  | conflict first second =>
    "the argument '" ++ first.shown ++ "' cannot be used with '" ++ second.shown ++ "'"
  | repeated switch => "the argument '" ++ switch.shown ++ "' cannot be used multiple times"
  | unknownCommand word => "unrecognized subcommand '" ++ Terminal.plain word ++ "'"
  | unexpectedArgument argument => "unexpected argument '" ++ Terminal.plain argument ++ "' found"
  | unexpectedValue value switch =>
    "unexpected value '" ++ Terminal.plain value ++ "' for '" ++ switch.shown
      ++ "' found; no more were expected"
  | missingCommand => "'byte-pattern' requires a subcommand but one was not provided"
  | badOffset text fault =>
    "invalid value '" ++ Terminal.plain text ++ "' for '" ++ Switch.offset.shown ++ "': "
      ++ Offset.refusal text fault

/-- Why a command line asks for no command to be run. -/
inductive Refusal where
  | usage (error : UsageError)
  /-- Help is wanted, or nothing at all was given. -/
  | help (asked : Bool)
  | version
deriving DecidableEq, Repr

end HexPattern.CommandLine
