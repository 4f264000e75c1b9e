import HexPattern.CommandLine.Reader
import Mathlib.Tactic.Common

/-! Command lines put together from options and operands. The options of an
accepted command line can be spelled out again, switch by switch, and read back
as they were, on either side of the command; operands that begin with no dash
are read as they stand. What cannot be spelled, an empty path for the settings,
is accepted nowhere. -/
namespace HexPattern.SpelledOptions
open CommandLine

/-- Options as arguments on one side of the command. -/
def spelled (options : Options) : List String :=
  List.replicate options.verbose "-v" ++
    ((if options.noColor then ["--no-color"] else []) ++
      ((if options.lowercase then ["--lowercase"] else []) ++
        (options.config?.map ("--config=" ++ ·)).toList))

/-- What these arguments give. -/
def givenBy (options : Options) : Given :=
  { verbose := options.verbose
    switches := (if options.noColor then [.noColor] else []) ++
      (if options.lowercase then [.lowercase] else []) ++
      (options.config?.map fun _ => .config).toList
    config? := options.config? }

variable {scope : Scope} {given : Given} {options before after : Options}

theorem options_givenBy (options : Options) : (givenBy options).options = options := by
  obtain ⟨verbose, noColor, lowercase, config?⟩ := options
  cases noColor <;> cases lowercase <;> cases config? <;> rfl

theorem step_verbose (given : Given) :
    State.step scope { given } "-v" = .ok { given := { given with verbose := given.verbose + 1 } } := by
  cases scope <;> rfl

theorem step_noColor (once : Switch.noColor ∉ given.switches) :
    State.step scope { given } "--no-color" =
      .ok { given := { given with switches := given.switches ++ [.noColor] } } := by
  have taken : State.step scope { given } "--no-color" =
      (given.record .noColor).map fun given => { given } := by
    cases scope <;> rfl
  rw [taken, Given.record, if_neg once]
  rfl

theorem step_lowercase (once : Switch.lowercase ∉ given.switches) :
    State.step scope { given } "--lowercase" =
      .ok { given := { given with switches := given.switches ++ [.lowercase] } } := by
  have taken : State.step scope { given } "--lowercase" =
      (given.record .lowercase).map fun given => { given } := by
    cases scope <;> rfl
  rw [taken, Given.record, if_neg once]
  rfl

theorem ofChars_config (path : String) :
    Argument.ofChars ("--config=" ++ path).toList = .long "config".toList (some path) := by
  have divided : splitValue ("config=".toList ++ path.toList) = ("config".toList, some path) := by
    show ("config".toList, some (String.ofList path.toList)) = _
    rw [String.ofList_toList]
  rw [String.toList_append]
  show Argument.long (splitValue ("config=".toList ++ path.toList)).1
    (splitValue ("config=".toList ++ path.toList)).2 = _
  rw [divided]

theorem step_config {path : String} (once : Switch.config ∉ given.switches) (named : path ≠ "") :
    State.step scope { given } ("--config=" ++ path) =
      .ok { given := { given with switches := given.switches ++ [.config], config? := some path } } := by
  have taken : State.step scope { given } ("--config=" ++ path) =
      (given.takeValue .config path).map fun given => { given } := by
    rw [State.step, ofChars_config]
    cases scope <;> rfl
  have value : path.isEmpty = false := by simpa using named
  have recorded : given.record .config =
      .ok { given with switches := given.switches ++ [.config] } := if_neg once
  rw [taken, Given.takeValue, recorded]
  show Except.map _ (if path.isEmpty then _ else _) = _
  rw [value]
  rfl

/-- Arguments that are read one after the other. -/
def Reads (scope : Scope) (state : State) (arguments : List String) (last : State) : Prop :=
  arguments.foldlM (State.step scope) state = .ok last

theorem reads_append {state middle last : State} {front back : List String}
    (inFront : Reads scope state front middle) (behind : Reads scope middle back last) :
    Reads scope state (front ++ back) last := by
  rw [Reads, List.foldlM_append, inFront]
  exact behind

theorem reads_single {state last : State} {argument : String}
    (stepped : state.step scope argument = .ok last) : Reads scope state [argument] last := by
  rw [Reads, List.foldlM_cons, stepped]
  rfl

theorem reads_verbose (given : Given) (count : Nat) :
    Reads scope { given } (List.replicate count "-v")
      { given := { given with verbose := given.verbose + count } } := by
  induction count generalizing given with
  | zero => rfl
  | succ count ih =>
    have rest := ih { given with verbose := given.verbose + 1 }
    rw [Nat.add_assoc, Nat.add_comm 1] at rest
    exact reads_append (reads_single (step_verbose given)) rest

theorem reads_spelled (named : options.config? ≠ some "") :
    Reads scope {} (spelled options) { given := givenBy options } := by
  obtain ⟨verbose, noColor, lowercase, config?⟩ := options
  have counted : Reads scope {} (List.replicate verbose "-v") { given := { verbose := 0 + verbose } } :=
    reads_verbose {} verbose
  rw [Nat.zero_add] at counted
  have coloured : Reads scope { given := { verbose } } (if noColor then ["--no-color"] else [])
      { given := { verbose, switches := if noColor then [.noColor] else [] } } := by
    cases noColor with
    | false => rfl
    | true => exact reads_single (step_noColor (by simp))
  have cased : Reads scope { given := { verbose, switches := if noColor then [.noColor] else [] } }
      (if lowercase then ["--lowercase"] else [])
      { given := { verbose, switches := (if noColor then [.noColor] else []) ++
          if lowercase then [.lowercase] else [] } } := by
    cases lowercase with
    | false => simp [Reads]; rfl
    | true => exact reads_single (step_lowercase (by cases noColor <;> simp))
  refine reads_append counted (reads_append coloured (reads_append cased ?_))
  cases config? with
  | none => simp [Reads, givenBy]; rfl
  | some path =>
    have once : Switch.config ∉ (if noColor then [Switch.noColor] else []) ++
        if lowercase then [Switch.lowercase] else [] := by
      cases noColor <;> cases lowercase <;> simp
    exact reads_single (step_config once (by simpa using named))

theorem ofChars_word {text : String} (word : text.toList.head? ≠ some '-') :
    Argument.ofChars text.toList = .word := by
  unfold Argument.ofChars
  split <;> simp_all

/-- A word that begins with no dash has the place of an operand. -/
theorem step_operand {text : String} (word : text.toList.head? ≠ some '-') (free : given.operand? = none)
    (command : scope ≠ .program) :
    State.step scope { given } text = .ok { given := { given with operand? := some text } } := by
  rw [State.step, ofChars_word word]
  cases scope with
  | program => exact absurd rfl command
  | inspect =>
    simp [State.word, free]
    rfl
  | test =>
    simp [State.word, free]
    rfl

/-- The name of a command begins with no dash. -/
theorem readCommand_dashed {argument : String} (dashed : argument.toList.head? = some '-')
    (rest : List String) : readCommand? argument rest = none := by
  unfold readCommand?
  split
  · exact absurd dashed (by decide)
  · exact absurd dashed (by decide)
  · exact absurd dashed (by decide)
  · rfl

theorem dashed_spelled (options : Options) :
    ∀ argument ∈ spelled options, argument.toList.head? = some '-' := by
  obtain ⟨verbose, noColor, lowercase, config?⟩ := options
  simp only [spelled, List.forall_mem_append]
  refine ⟨?_, ?_, ?_, ?_⟩
  · intro argument member
    rw [List.eq_of_mem_replicate member]
    rfl
  · cases noColor <;> simp
  · cases lowercase <;> simp
  · cases config? with
    | none => simp
    | some path => simp

/-- Switches in front of the command are read before it. -/
theorem readFrom_switches {state last : State} {arguments : List String} (rest : List String)
    (dashed : ∀ argument ∈ arguments, argument.toList.head? = some '-')
    (reads : Reads .program state arguments last) :
    readFrom state (arguments ++ rest) = readFrom last rest := by
  induction arguments generalizing state with
  | nil =>
    cases reads
    rfl
  | cons argument others ih =>
    obtain ⟨here, later⟩ := List.forall_mem_cons.mp dashed
    rw [Reads, List.foldlM_cons] at reads
    rw [List.cons_append, readFrom, readCommand_dashed here, ite_self]
    cases stepped : state.step .program argument with
    | error refusal =>
      rw [stepped] at reads
      cases reads
    | ok next =>
      rw [stepped] at reads
      exact ih later reads

/-- The command is the first word that no switch waits for. -/
theorem readFrom_command {name : String} {rest : List String} {command : Command}
    (read : readCommand? name rest = some (.ok (after, command))) :
    readFrom { given } (name :: rest) = .ok ⟨given.options, after, command⟩ := by
  have free : ¬ ((({ given } : State).onlyWords || State.isWaiting { given }) = true) :=
    Bool.false_ne_true
  rw [readFrom, if_neg free, read]
  rfl

/-- The arguments that ask for a pattern to be described. -/
def inspectArguments (before after : Options) (text : String) : List String :=
  spelled before ++ "inspect" :: (spelled after ++ [text])

/-- The arguments that ask for a pattern to be compared with the front of a
buffer in hex. -/
def testArguments (before after : Options) (text hex : String) : List String :=
  spelled before ++ "test" :: (spelled after ++ [text, "--hex", hex])

theorem read_spelled {name : String} {operands : List String} {command : Command}
    (named : before.config? ≠ some "")
    (reads : readCommand? name operands = some (.ok (after, command))) :
    CommandLine.read (spelled before ++ name :: operands) = .ok ⟨before, after, command⟩ := by
  rw [CommandLine.read, readFrom_switches _ (dashed_spelled before) (reads_spelled named),
    readFrom_command reads, options_givenBy]

theorem read_inspectArguments {text : String} (beforeNamed : before.config? ≠ some "")
    (afterNamed : after.config? ≠ some "") (word : text.toList.head? ≠ some '-') :
    CommandLine.read (inspectArguments before after text) = .ok ⟨before, after, .inspect text⟩ := by
  refine read_spelled beforeNamed ?_
  have reads : Reads .inspect {} (spelled after ++ [text])
      { given := { givenBy after with operand? := some text } } :=
    reads_append (reads_spelled afterNamed) (reads_single (step_operand word rfl (by decide)))
  have operands : readOperands .inspect (spelled after ++ [text]) =
      .ok { givenBy after with operand? := some text } := by
    rw [readOperands, reads]
    rfl
  show some _ = _
  rw [operands]
  show some (Except.ok ((givenBy after).options, _)) = _
  rw [options_givenBy]

/-- What is given for a comparison with a buffer in hex. -/
def givenHex (options : Options) (text hex : String) : Given :=
  { givenBy options with
    operand? := some text, hex? := some hex, switches := (givenBy options).switches ++ [.hex] }

theorem options_givenHex (options : Options) (text hex : String) :
    (givenHex options text hex).options = options := by
  obtain ⟨verbose, noColor, lowercase, config?⟩ := options
  cases noColor <;> cases lowercase <;> cases config? <;> rfl

/-- The buffer is looked at when the arguments end or another switch comes. -/
theorem settle_hex (options : Options) (text hex : String) :
    State.settle { given := { givenBy options with operand? := some text },
                   pending? := some (.holding .hex hex) } =
      .ok { given := givenHex options text hex } := by
  have once : Switch.hex ∉ (givenBy options).switches := by
    obtain ⟨verbose, noColor, lowercase, config?⟩ := options
    cases noColor <;> cases lowercase <;> cases config? <;> simp [givenBy]
  have recorded : ({ givenBy options with operand? := some text } : Given).record .hex =
      .ok { givenBy options with
            operand? := some text, switches := (givenBy options).switches ++ [.hex] } :=
    if_neg once
  rw [State.settle]
  dsimp only
  rw [Given.takeValue, recorded]
  rfl

theorem reads_hex {text hex : String} (named : options.config? ≠ some "")
    (word : text.toList.head? ≠ some '-') (value : hex.toList.head? ≠ some '-') :
    Reads .test {} (spelled options ++ [text, "--hex", hex])
      { given := { givenBy options with operand? := some text },
        pending? := some (.holding .hex hex) } := by
  have operand : Reads .test { given := givenBy options } [text]
      { given := { givenBy options with operand? := some text } } :=
    reads_single (step_operand word rfl (by decide))
  have waits : Reads .test { given := { givenBy options with operand? := some text } } ["--hex"]
      { given := { givenBy options with operand? := some text },
        pending? := some (.waiting .hex) } :=
    reads_single rfl
  refine reads_append (reads_spelled named) (reads_append operand (reads_append waits ?_))
  refine reads_single ?_
  rw [State.step, ofChars_word value]
  rfl

theorem read_testArguments {text hex : String} (beforeNamed : before.config? ≠ some "")
    (afterNamed : after.config? ≠ some "") (word : text.toList.head? ≠ some '-')
    (value : hex.toList.head? ≠ some '-') :
    CommandLine.read (testArguments before after text hex) =
      .ok ⟨before, after, .test text (.hex hex) 0⟩ := by
  refine read_spelled beforeNamed ?_
  have operands : readOperands .test (spelled after ++ [text, "--hex", hex]) =
      .ok (givenHex after text hex) := by
    rw [readOperands, reads_hex afterNamed word value]
    show (do return State.given (← State.settle _)) = _
    rw [settle_hex]
    rfl
  show some _ = _
  rw [operands]
  show some (Except.ok ((givenHex after text hex).options, _)) = _
  rw [options_givenHex]
  rfl

/-- What is given for a comparison with a buffer in hex at some offset. -/
def givenOffset (options : Options) (text hex : String) (offset : Nat) : Given :=
  { givenHex options text hex with
    offset? := some offset, switches := (givenHex options text hex).switches ++ [.offset] }

theorem options_givenOffset (options : Options) (text hex : String) (offset : Nat) :
    (givenOffset options text hex offset).options = options := by
  obtain ⟨verbose, noColor, lowercase, config?⟩ := options
  cases noColor <;> cases lowercase <;> cases config? <;> rfl

theorem settle_offset (options : Options) (text hex : String) {place : String} {offset : Nat}
    (read : Offset.read place.toList = .ok offset) :
    State.settle { given := givenHex options text hex, pending? := some (.holding .offset place) } =
      .ok { given := givenOffset options text hex offset } := by
  have once : Switch.offset ∉ (givenHex options text hex).switches := by
    obtain ⟨verbose, noColor, lowercase, config?⟩ := options
    cases noColor <;> cases lowercase <;> cases config? <;> simp [givenHex, givenBy]
  have recorded : (givenHex options text hex).record .offset =
      .ok { givenHex options text hex with
            switches := (givenHex options text hex).switches ++ [.offset] } :=
    if_neg once
  have taken : (givenHex options text hex).takeValue .offset place =
      .ok (givenOffset options text hex offset) := by
    rw [Given.takeValue, recorded]
    dsimp only [bind, Except.bind]
    rw [read]
    rfl
  rw [State.settle]
  dsimp only
  rw [taken]
  rfl

/-- An offset that can be read may follow the buffer. -/
theorem read_offsetArguments {text hex place : String} {offset : Nat}
    (beforeNamed : before.config? ≠ some "") (afterNamed : after.config? ≠ some "")
    (word : text.toList.head? ≠ some '-') (value : hex.toList.head? ≠ some '-')
    (number : place.toList.head? ≠ some '-') (read : Offset.read place.toList = .ok offset) :
    CommandLine.read (testArguments before after text hex ++ ["--offset", place]) =
      .ok ⟨before, after, .test text (.hex hex) offset⟩ := by
  rw [testArguments, List.append_assoc, List.cons_append]
  refine read_spelled beforeNamed ?_
  have waits : Reads .test
      { given := { givenBy after with operand? := some text },
        pending? := some (.holding .hex hex) } ["--offset"]
      { given := givenHex after text hex, pending? := some (.waiting .offset) } := by
    refine reads_single ?_
    show (do return { (← State.settle _) with pending? := some (.waiting .offset) }) = _
    rw [settle_hex]
    rfl
  have holds : Reads .test { given := givenHex after text hex, pending? := some (.waiting .offset) }
      [place] { given := givenHex after text hex, pending? := some (.holding .offset place) } := by
    refine reads_single ?_
    rw [State.step, ofChars_word number]
    rfl
  have reads : Reads .test {} ((spelled after ++ [text, "--hex", hex]) ++ ["--offset", place])
      { given := givenHex after text hex, pending? := some (.holding .offset place) } :=
    reads_append (reads_hex afterNamed word value) (reads_append waits holds)
  have operands : readOperands .test
      ((spelled after ++ [text, "--hex", hex]) ++ ["--offset", place]) =
      .ok (givenOffset after text hex offset) := by
    rw [readOperands, reads]
    show (do return State.given (← State.settle _)) = _
    rw [settle_offset after text hex read]
    rfl
  show some _ = _
  rw [operands]
  show some (Except.ok ((givenOffset after text hex offset).options, _)) = _
  rw [options_givenOffset]
  rfl

/-- Whatever is read has the property. -/
def Yields {α : Type} (property : α → Prop) (read : Except Refusal α) : Prop :=
  ∀ value, read = .ok value → property value

section

variable {α β : Type} {property : α → Prop} {other : β → Prop}

theorem yields_ok {value : α} (holds : property value) : Yields property (.ok value) := by
  rintro _ ⟨⟩
  exact holds

theorem yields_error {refusal : Refusal} : Yields property (.error refusal) := by
  rintro _ ⟨⟩

theorem yields_bind {read : Except Refusal α} {next : α → Except Refusal β}
    (first : Yields property read) (later : ∀ value, property value → Yields other (next value)) :
    Yields other (read >>= next) := by
  cases found : read with
  | error refusal => exact yields_error
  | ok value => exact later value (first value found)

theorem yields_after {read : Except Refusal α} {next : α → Except Refusal β}
    (later : ∀ value, Yields other (next value)) : Yields other (read >>= next) := by
  have anything : Yields (fun _ => True) read := fun _ _ => trivial
  exact yields_bind anything fun value _ => later value

end

/-- No empty path has been given for the settings. -/
def Named (given : Given) : Prop := given.config? ≠ some ""

theorem named_record (named : Named given) (switch : Switch) :
    Yields Named (given.record switch) := by
  unfold Given.record
  split
  · exact yields_error
  · exact yields_ok named

theorem named_takeFlag (named : Named given) (switch : Switch) :
    Yields Named (given.takeFlag switch) := by
  cases switch with
  | verbose => exact yields_ok named
  | help => exact yields_error
  | version => exact yields_error
  | _ => exact named_record named _

theorem named_takeValue (named : Named given) (switch : Switch) (value : String) :
    Yields Named (given.takeValue switch value) := by
  refine yields_bind (named_record named switch) fun recorded named => ?_
  cases switch with
  | config =>
    dsimp only
    split
    · exact yields_error
    · rename_i some
      exact yields_ok (by simpa [Named] using some)
  | file =>
    dsimp only
    split
    · exact yields_error
    · exact yields_ok named
  | offset =>
    dsimp only
    split
    · exact yields_error
    · exact yields_ok named
  | _ => exact yields_ok named

section

variable {state : State}

theorem named_settle (named : Named state.given) :
    Yields (fun next => Named next.given) state.settle := by
  unfold State.settle
  split
  · exact yields_ok named
  · exact yields_error
  · exact yields_bind (named_takeValue named _ _) fun given named => yields_ok named

theorem named_flag (named : Named state.given) (switch : Switch) :
    Yields (fun next => Named next.given) (state.flag switch) :=
  yields_bind (named_settle named) fun _ named =>
    yields_bind (named_takeFlag named switch) fun _ named => yields_ok named

theorem named_attached (named : Named state.given) (switch : Switch) (value : String) :
    Yields (fun next => Named next.given) (state.attached switch value) :=
  yields_bind (named_settle named) fun _ named =>
    yields_bind (named_takeValue named switch value) fun _ named => yields_ok named

theorem named_wait (named : Named state.given) (switch : Switch) :
    Yields (fun next => Named next.given) (state.wait switch) :=
  yields_bind (named_settle named) fun _ named => yields_ok named

theorem named_long (named : Named state.given) (name : List Char) (value? : Option String) :
    Yields (fun next => Named next.given) (state.long scope name value?) := by
  unfold State.long
  split
  · exact yields_error
  · split
    · exact named_attached named _ _
    · exact yields_error
  · split
    · exact named_wait named _
    · exact named_flag named _

theorem named_cluster (named : Named state.given) (letters : List Char) :
    Yields (fun next => Named next.given) (state.cluster scope letters) := by
  induction letters generalizing state with
  | nil => exact yields_ok named
  | cons letter rest ih =>
    unfold State.cluster
    split
    · exact yields_error
    · split
      · split
        · exact named_wait named _
        · exact named_attached named _ _
        · exact named_attached named _ _
      · exact yields_bind (named_flag named _) fun _ named => ih named

theorem named_word (named : Named state.given) (text : String) :
    Yields (fun next => Named next.given) (state.word scope text) := by
  unfold State.word
  split
  · split
    · exact yields_error
    · exact yields_error
  · split
    · exact yields_error
    · exact yields_bind (named_settle named) fun _ named => yields_ok named

/-- No argument gives an empty path. -/
theorem named_step (named : Named state.given) (argument : String) :
    Yields (fun next => Named next.given) (state.step scope argument) := by
  unfold State.step
  split
  · exact named_word named argument
  · split
    · exact yields_ok named
    · exact named_long named _ _
    · exact named_cluster named _
    · split
      · exact yields_ok named
      · exact named_word named argument

theorem named_reads (named : Named state.given) (arguments : List String) :
    Yields (fun next => Named next.given) (arguments.foldlM (State.step scope) state) := by
  induction arguments generalizing state with
  | nil => exact yields_ok named
  | cons argument rest ih =>
    rw [List.foldlM_cons]
    exact yields_bind (named_step named argument) fun _ named => ih named

theorem named_operands (scope : Scope) (arguments : List String) :
    Yields Named (readOperands scope arguments) :=
  yields_bind (named_reads (by simp [Named]) arguments) fun _ named =>
    yields_bind (named_settle named) fun _ named => yields_ok named

theorem named_command {name : String} {rest : List String}
    {command : Except Refusal (Options × Command)} (read : readCommand? name rest = some command) :
    Yields (fun found => found.1.config? ≠ some "") command := by
  unfold readCommand? at read
  split at read
  · cases read
    exact yields_bind (named_operands _ _) fun _ named => yields_after fun _ => yields_ok named
  · cases read
    exact yields_bind (named_operands _ _) fun _ named => yields_after fun _ => yields_ok named
  · cases read
    exact yields_error
  · cases read

theorem named_readFrom (named : Named state.given) (arguments : List String) :
    Yields (fun found => found.before.config? ≠ some "" ∧ found.after.config? ≠ some "")
      (readFrom state arguments) := by
  induction arguments generalizing state with
  | nil =>
    rw [readFrom]
    refine yields_after fun _ => ?_
    split
    · exact yields_error
    · exact yields_error
  | cons argument rest ih =>
    rw [readFrom]
    split
    · rename_i command read
      split at read
      · cases read
      · refine yields_bind (named_command read) fun found afterNamed => ?_
        exact yields_bind (named_settle named) fun _ named => yields_ok ⟨named, afterNamed⟩
    · exact yields_bind (named_step named argument) fun _ named => ih named

end

/-- An accepted command line names a file wherever it asks for settings. -/
theorem named_of_read {arguments : List String} {invocation : Invocation}
    (accepted : CommandLine.read arguments = .ok invocation) :
    invocation.before.config? ≠ some "" ∧ invocation.after.config? ≠ some "" :=
  named_readFrom (by simp [Named]) arguments invocation accepted

end HexPattern.SpelledOptions
