import HexPattern.Proofs.SpelledOptions

/-! A switch added in front. A switch without a value that an accepted command
line does not have in front of the command may be put before all its arguments:
they are read as before, and only the switch is new. Every step of the reader
goes the same way with the switch recorded ahead of the others, since switches
are only ever looked up to see whether one is given twice. -/
namespace HexPattern.AddedSwitches
open CommandLine SpelledOptions

/-- Options with one switch turned on. -/
def turnOn (options : Options) : Switch → Options
  | .noColor => { options with noColor := true }
  | .lowercase => { options with lowercase := true }
  | _ => options

/-- Whether a switch without a value may still be turned on. -/
def isOff (options : Options) : Switch → Bool
  | .noColor => !options.noColor
  | .lowercase => !options.lowercase
  | _ => false

/-- The same has been given, and a switch ahead of it. -/
def ahead (switch : Switch) (given : Given) : Given :=
  { given with switches := switch :: given.switches }

/-- The same state of the reader, and a switch ahead of what has been given. -/
def stateAhead (switch : Switch) (state : State) : State :=
  { state with given := ahead switch state.given }

/-- Where one reading comes to something that still lacks the switch, it began
without the switch, and the other reading comes to the same with the switch
ahead. -/
def Carries {α : Type} (put : α → α) (lacks : α → Prop) (lacked : Prop)
    (read other : Except Refusal α) : Prop :=
  ∀ value, read = .ok value → lacks value → lacked ∧ other = .ok (put value)

section

variable {α β : Type} {put : α → α} {putNext : β → β} {lacks : α → Prop} {lacksNext : β → Prop}
  {lacked : Prop}

theorem carries_ok {value other : α} (before : lacks value → lacked) (same : other = put value) :
    Carries put lacks lacked (.ok value) (.ok other) := by
  rintro _ ⟨⟩ free
  exact ⟨before free, by rw [same]⟩

theorem carries_error {refusal : Refusal} {other : Except Refusal α} :
    Carries put lacks lacked (.error refusal) other := by
  rintro _ ⟨⟩

theorem carries_bind {read other : Except Refusal α} {next nextOther : α → Except Refusal β}
    (first : Carries put lacks lacked read other)
    (later : ∀ value, Carries putNext lacksNext (lacks value) (next value) (nextOther (put value))) :
    Carries putNext lacksNext lacked (read >>= next) (other >>= nextOther) := by
  intro value found free
  cases reached : read with
  | error refusal =>
    rw [reached] at found
    cases found
  | ok middle =>
    rw [reached] at found
    obtain ⟨between, after⟩ := later middle value found free
    obtain ⟨before, along⟩ := first middle reached between
    refine ⟨before, ?_⟩
    rw [along]
    exact after

theorem carries_after {read : Except Refusal α} {next nextOther : α → Except Refusal β}
    (later : ∀ value, Carries putNext lacksNext lacked (next value) (nextOther value)) :
    Carries putNext lacksNext lacked (read >>= next) (read >>= nextOther) := by
  cases read with
  | error refusal => exact carries_error
  | ok value => exact later value

end

section

variable {added : Switch} {scope : Scope} {given : Given} {state : State}

/-- Readings of what is given, and readings of where the reader stands. -/
abbrev CarriesGiven (added : Switch) (given : Given) (read other : Except Refusal Given) : Prop :=
  Carries (ahead added) (fun next => added ∉ next.switches) (added ∉ given.switches) read other

abbrev CarriesState (added : Switch) (state : State) (read other : Except Refusal State) : Prop :=
  Carries (stateAhead added) (fun next => added ∉ next.given.switches)
    (added ∉ state.given.switches) read other

theorem carries_record (given : Given) (switch : Switch) :
    CarriesGiven added given (given.record switch) ((ahead added given).record switch) := by
  intro next found free
  unfold Given.record at found
  split at found
  · cases found
  · rename_i fresh
    cases found
    simp only [List.mem_append, List.mem_singleton, not_or] at free
    obtain ⟨before, other⟩ := free
    have freshToo : switch ∉ (ahead added given).switches := by
      simp only [ahead, List.mem_cons, not_or]
      exact ⟨Ne.symm other, fresh⟩
    exact ⟨before, if_neg freshToo⟩

theorem carries_takeFlag (given : Given) (switch : Switch) :
    CarriesGiven added given (given.takeFlag switch) ((ahead added given).takeFlag switch) := by
  cases switch with
  | verbose => exact carries_ok id rfl
  | help => exact carries_error
  | version => exact carries_error
  | _ => exact carries_record given _

theorem carries_takeValue (given : Given) (switch : Switch) (value : String) :
    CarriesGiven added given (given.takeValue switch value)
      ((ahead added given).takeValue switch value) := by
  refine carries_bind (carries_record given switch) fun recorded => ?_
  cases switch with
  | config =>
    dsimp only
    split
    · exact carries_error
    · exact carries_ok id rfl
  | file =>
    dsimp only
    split
    · exact carries_error
    · exact carries_ok id rfl
  | offset =>
    dsimp only
    split
    · exact carries_error
    · exact carries_ok id rfl
  | _ => exact carries_ok id rfl

theorem carries_settle (state : State) :
    CarriesState added state state.settle (stateAhead added state).settle := by
  obtain ⟨given, pending?, onlyWords⟩ := state
  match pending? with
  | none => exact carries_ok id rfl
  | some (.waiting switch) => exact carries_error
  | some (.holding switch value) =>
    exact carries_bind (carries_takeValue given switch value) fun _ => carries_ok id rfl

theorem carries_flag (state : State) (switch : Switch) :
    CarriesState added state (state.flag switch) ((stateAhead added state).flag switch) :=
  carries_bind (carries_settle state) fun settled =>
    carries_bind (carries_takeFlag settled.given switch) fun _ => carries_ok id rfl

theorem carries_attached (state : State) (switch : Switch) (value : String) :
    CarriesState added state (state.attached switch value)
      ((stateAhead added state).attached switch value) :=
  carries_bind (carries_settle state) fun settled =>
    carries_bind (carries_takeValue settled.given switch value) fun _ => carries_ok id rfl

theorem carries_wait (state : State) (switch : Switch) :
    CarriesState added state (state.wait switch) ((stateAhead added state).wait switch) :=
  carries_bind (carries_settle state) fun _ => carries_ok id rfl

theorem carries_long (state : State) (name : List Char) (value? : Option String) :
    CarriesState added state (state.long scope name value?)
      ((stateAhead added state).long scope name value?) := by
  unfold State.long
  split
  · exact carries_error
  · split
    · exact carries_attached state _ _
    · exact carries_error
  · split
    · exact carries_wait state _
    · exact carries_flag state _

theorem carries_cluster (state : State) (letters : List Char) :
    CarriesState added state (state.cluster scope letters)
      ((stateAhead added state).cluster scope letters) := by
  induction letters generalizing state with
  | nil => exact carries_ok id rfl
  | cons letter rest ih =>
    unfold State.cluster
    split
    · exact carries_error
    · split
      · split
        · exact carries_wait state _
        · exact carries_attached state _ _
        · exact carries_attached state _ _
      · exact carries_bind (carries_flag state _) ih

theorem carries_word (state : State) (text : String) :
    CarriesState added state (state.word scope text) ((stateAhead added state).word scope text) := by
  unfold State.word
  split
  · split
    · exact carries_error
    · exact carries_error
  · show Carries _ _ _ _ (if state.given.operand?.isSome then _ else _)
    split
    · exact carries_error
    · exact carries_bind (carries_settle state) fun _ => carries_ok id rfl

/-- No step asks for switches but to see whether one is given twice. -/
theorem carries_step (state : State) (argument : String) :
    CarriesState added state (state.step scope argument)
      ((stateAhead added state).step scope argument) := by
  unfold State.step
  show Carries _ _ _ _ (if state.onlyWords then _ else _)
  split
  · exact carries_word state argument
  · split
    · exact carries_ok id rfl
    · exact carries_long state _ _
    · exact carries_cluster state _
    · obtain ⟨given, pending?, onlyWords⟩ := state
      match pending? with
      | none => exact carries_word _ argument
      | some (.waiting switch) => exact carries_ok id rfl
      | some (.holding switch value) => exact carries_word _ argument

/-- What is off has not been given, and is all that its switch turns on. -/
theorem options_ahead (off : isOff given.options added = true) :
    added ∉ given.switches ∧ (ahead added given).options = turnOn given.options added := by
  obtain ⟨verbose, switches, config?, hex?, file?, offset?, operand?⟩ := given
  cases added with
  | noColor =>
    have absent : Switch.noColor ∉ switches := by simpa [isOff, Given.options] using off
    exact ⟨absent, by simp [ahead, Given.options, turnOn]⟩
  | lowercase =>
    have absent : Switch.lowercase ∉ switches := by simpa [isOff, Given.options] using off
    exact ⟨absent, by simp [ahead, Given.options, turnOn]⟩
  | _ => cases off

/-- An invocation with one switch turned on in front of the command. -/
def turnOnBefore (invocation : Invocation) (switch : Switch) : Invocation :=
  { invocation with before := turnOn invocation.before switch }

theorem carries_readFrom (state : State) (arguments : List String) :
    Carries (turnOnBefore · added) (fun invocation => isOff invocation.before added = true)
      (added ∉ state.given.switches) (readFrom state arguments)
      (readFrom (stateAhead added state) arguments) := by
  induction arguments generalizing state with
  | nil =>
    rw [readFrom, readFrom]
    refine carries_bind (carries_settle state) fun settled => ?_
    split
    · exact carries_error
    · exact carries_error
  | cons argument rest ih =>
    -- Both readers find the command in the same place: they wait for the same
    -- values, and have met the separator together or not at all.
    have sameWord : (if (stateAhead added state).onlyWords || (stateAhead added state).isWaiting
        then none else readCommand? argument rest) =
        if state.onlyWords || state.isWaiting then none else readCommand? argument rest := rfl
    rw [readFrom, readFrom, sameWord]
    cases if state.onlyWords || state.isWaiting then none else readCommand? argument rest with
    | none =>
      have stepped : CarriesState added state (state.step .program argument) _ :=
        carries_step state argument
      exact carries_bind stepped ih
    | some command =>
      refine carries_after fun found => carries_bind (carries_settle state) fun settled => ?_
      rintro _ ⟨⟩ off
      obtain ⟨absent, options⟩ := options_ahead off
      refine ⟨absent, ?_⟩
      show Except.ok (Invocation.mk (ahead added settled.given).options _ _) = _
      rw [options]
      rfl

end

/-- The switch may be written in front of everything. -/
theorem read_switch_first {arguments : List String} {invocation : Invocation} (added : Switch)
    (accepted : CommandLine.read arguments = .ok invocation)
    (off : isOff invocation.before added = true) :
    CommandLine.read (("--" ++ added.longName) :: arguments) =
      .ok (turnOnBefore invocation added) := by
  obtain ⟨-, carried⟩ := carries_readFrom {} arguments invocation accepted off
  have dashed : ("--" ++ added.longName).toList.head? = some '-' := by cases added <;> rfl
  have stepped : State.step .program {} ("--" ++ added.longName) = .ok (stateAhead added {}) := by
    cases added with
    | noColor => exact step_noColor (by simp)
    | lowercase => exact step_lowercase (by simp)
    | _ => cases off
  rw [CommandLine.read, readFrom, readCommand_dashed dashed, ite_self, stepped]
  exact carried

theorem options_turnOnBefore (invocation : Invocation) (switch : Switch) :
    (turnOnBefore invocation switch).options = turnOn invocation.options switch := by
  cases switch <;> rfl

/-- Options that change what they are applied to change the settings, if there are any. -/
theorem settings_changed {invocation other : Invocation} {change : Settings → Settings}
    (files : Files) (sameFile : other.options.config? = invocation.options.config?)
    (changed : ∀ base, other.options.apply base = change (invocation.options.apply base)) :
    other.settings files = (invocation.settings files).map change := by
  rw [Invocation.settings, Invocation.settings, sameFile]
  cases invocation.options.config? with
  | none => exact congrArg Except.ok (changed .standard)
  | some path =>
    show Except.map _ (Settings.load files path) = (Except.map _ (Settings.load files path)).map _
    cases Settings.load files path with
    | error error => rfl
    | ok base => exact congrArg Except.ok (changed base)

end HexPattern.AddedSwitches
