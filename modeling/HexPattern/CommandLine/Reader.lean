import HexPattern.CommandLine.Argument
import HexPattern.CommandLine.Invocation
import HexPattern.CommandLine.Switch

/-!
Reading a command line, one argument after the other. A switch that takes a value keeps waiting for it,
and the value is looked at only when something else is given or the arguments end, so of two mistakes the
one that is noticed first is reported. What follows the command is judged before what stands in front.
-/

namespace HexPattern.CommandLine

/-- What has been given on one side of the command. -/
structure Given where
  verbose : Nat := 0
  /-- The switches given, other than those that are counted, in their order. -/
  switches : List Switch := []
  config? : Option String := none
  hex? : Option String := none
  file? : Option String := none
  offset? : Option Nat := none
  operand? : Option String := none
deriving DecidableEq, Repr

/-- A switch whose value has not been looked at. -/
inductive Pending where
  | waiting (switch : Switch)
  | holding (switch : Switch) (value : String)
deriving DecidableEq, Repr

/-- Where the reader stands. -/
structure State where
  given : Given := {}
  pending? : Option Pending := none
  /-- Whether the separator has been met, after which there are no switches. -/
  onlyWords : Bool := false
deriving DecidableEq, Repr

/-- Refuses the command line. -/
def refuse {α : Type} (error : UsageError) : Except Refusal α := .error (.usage error)

namespace Given

/-- Records a switch, which must not have been given before. -/
def record (given : Given) (switch : Switch) : Except Refusal Given :=
  if switch ∈ given.switches then refuse (.repeated switch)
  else .ok { given with switches := given.switches ++ [switch] }

/-- Takes a switch that has no value. -/
def takeFlag (given : Given) (switch : Switch) : Except Refusal Given :=
  match switch with
  | .verbose => .ok { given with verbose := given.verbose + 1 }
  | .help => .error (.help true)
  | .version => .error .version
  | _ => given.record switch

/-- Takes the value of a switch. A path must not be empty, and an offset must be a number. -/
def takeValue (given : Given) (switch : Switch) (value : String) : Except Refusal Given := do
  let given ← given.record switch
  match switch with
  | .config =>
    if value.isEmpty then refuse (.missingValue switch) else return { given with config? := some value }
  | .file =>
    if value.isEmpty then refuse (.missingValue switch) else return { given with file? := some value }
  | .hex => return { given with hex? := some value }
  | .offset =>
    match Offset.read value.toList with
    | .error fault => refuse (.badOffset value fault)
    | .ok offset => return { given with offset? := some offset }
  | _ => return given

/-- The options among what has been given. -/
def options (given : Given) : Options :=
  { verbose := given.verbose
    noColor := given.switches.contains .noColor
    lowercase := given.switches.contains .lowercase
    config? := given.config? }

/-- The command that has been given after its name. -/
def inspect (given : Given) : Except Refusal Command :=
  match given.operand? with
  | none => refuse .missingArguments
  | some pattern => .ok (.inspect pattern)

/-- The command that has been given after its name. There must be one source of bytes, no less and no
more. -/
def test (given : Given) : Except Refusal Command :=
  match given.hex?, given.file?, given.operand? with
  | some _, some _, _ =>
    match given.switches.filter fun switch => switch = .hex || switch = .file with
    | .file :: _ => refuse (.conflict .file .hex)
    | _ => refuse (.conflict .hex .file)
  | some text, none, some pattern => .ok (.test pattern (.hex text) (given.offset?.getD 0))
  | none, some path, some pattern => .ok (.test pattern (.file path) (given.offset?.getD 0))
  | _, _, _ => refuse .missingArguments

end Given

namespace State

/-- Looks at the value of the switch that is pending. -/
def settle (state : State) : Except Refusal State :=
  match state.pending? with
  | none => .ok state
  | some (.waiting switch) => refuse (.missingValue switch)
  | some (.holding switch value) => do
    return { state with given := ← state.given.takeValue switch value, pending? := none }

/-- Takes a switch that has no value. -/
def flag (state : State) (switch : Switch) : Except Refusal State := do
  let state ← state.settle
  return { state with given := ← state.given.takeFlag switch }

/-- Takes a switch whose value is attached to it. -/
def attached (state : State) (switch : Switch) (value : String) : Except Refusal State := do
  let state ← state.settle
  return { state with given := ← state.given.takeValue switch value }

/-- Takes a switch whose value is due. -/
def wait (state : State) (switch : Switch) : Except Refusal State := do
  let state ← state.settle
  return { state with pending? := some (.waiting switch) }

/-- Takes a long name and the value attached to it. -/
def long (scope : Scope) (state : State) (name : List Char) (value? : Option String) :
    Except Refusal State :=
  match scope.byName? name, value? with
  | none, _ => refuse (.unexpectedArgument (String.ofList ('-' :: '-' :: name)))
  | some switch, some value =>
    if switch.takesValue then state.attached switch value
    else refuse (.unexpectedValue value switch)
  | some switch, none => if switch.takesValue then state.wait switch else state.flag switch

/-- Takes a cluster of letters. The first letter that takes a value takes the rest of the cluster, less an
equals sign in front. -/
def cluster (scope : Scope) (state : State) : List Char → Except Refusal State
  | [] => .ok state
  | letter :: rest =>
    match scope.byLetter? letter with
    | none => refuse (.unexpectedArgument (String.ofList ['-', letter]))
    | some switch =>
      if switch.takesValue then
        match rest with
        | [] => state.wait switch
        | '=' :: value => state.attached switch (String.ofList value)
        | value => state.attached switch (String.ofList value)
      else do cluster scope (← state.flag switch) rest

/-- Takes a word that is the value of no switch. Before the command there is no place for it. -/
def word (scope : Scope) (state : State) (text : String) : Except Refusal State :=
  match scope with
  | .program =>
    if state.onlyWords && ["inspect", "test", "help"].contains text then
      refuse (.unexpectedArgument text)
    else refuse (.unknownCommand text)
  | _ =>
    if state.given.operand?.isSome then refuse (.unexpectedArgument text)
    else do
      let state ← state.settle
      return { state with given := { state.given with operand? := some text } }

/-- Takes one argument. -/
def step (scope : Scope) (state : State) (argument : String) : Except Refusal State :=
  if state.onlyWords then state.word scope argument
  else match Argument.ofChars argument.toList with
    | .separator => .ok { state with onlyWords := true }
    | .long name value? => state.long scope name value?
    | .cluster letters => state.cluster scope letters
    | .word =>
      match state.pending? with
      | some (.waiting switch) => .ok { state with pending? := some (.holding switch argument) }
      | _ => state.word scope argument

/-- Whether a word would be the value of a switch. -/
def isWaiting (state : State) : Bool :=
  match state.pending? with
  | some (.waiting _) => true
  | _ => false

end State

/-- Reads the arguments after the name of a command. -/
def readOperands (scope : Scope) (arguments : List String) : Except Refusal Given := do
  let state ← arguments.foldlM (State.step scope) {}
  return (← state.settle).given

/-- Reads what follows the command that asks for help: at most one name of a command. -/
def readHelp (names : List String) : Refusal :=
  match names with
  | [] => .help true
  | name :: more =>
    if ["inspect", "test", "help"].contains name then
      match more with
      | [] => .help true
      | word :: _ => .usage (.unknownCommand word)
    else .usage (.unknownCommand name)

/-- Reads a command after its name, if the word is the name of a command. -/
def readCommand? (name : String) (rest : List String) : Option (Except Refusal (Options × Command)) :=
  match name with
  | "inspect" => some do
    let given ← readOperands .inspect rest
    return (given.options, ← given.inspect)
  | "test" => some do
    let given ← readOperands .test rest
    return (given.options, ← given.test)
  | "help" => some (.error (readHelp rest))
  | _ => none

/-- Reads arguments up to the command, and the command. -/
def readFrom (state : State) : List String → Except Refusal Invocation
  | [] => do
    let state ← state.settle
    if state.given = {} then .error (.help false) else refuse .missingCommand
  | argument :: rest =>
    match if state.onlyWords || state.isWaiting then none else readCommand? argument rest with
    | some command => do
      let (after, command) ← command
      let state ← state.settle
      return { before := state.given.options, after, command }
    | none => do readFrom (← state.step .program argument) rest

/-- Reads a command line. -/
def read (arguments : List String) : Except Refusal Invocation := readFrom {} arguments

end HexPattern.CommandLine
