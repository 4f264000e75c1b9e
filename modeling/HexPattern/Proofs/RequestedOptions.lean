import HexPattern.Proofs.SpelledOptions

/-! What the arguments of a command line ask for, said without a reader. Each argument
in front of a separator asks for something by itself, except that the path of the
settings may stand in the next one. On an accepted command line the options found on
either side of the command are those that the arguments there ask for: whatever the
reader keeps waiting, each step of it adds what one argument says. -/
namespace HexPattern.RequestedOptions
open CommandLine SpelledOptions

/-- How an argument names the file of settings. -/
inductive PathMention where
  | attached (path : String)
  /-- The path is the next argument. -/
  | awaited
deriving DecidableEq

/-- What an argument says about the options. -/
structure Mention where
  /-- How often more detail is asked for. -/
  verbose : Nat := 0
  noColor : Bool := false
  lowercase : Bool := false
  path? : Option PathMention := none

/-- How often an argument asks for more detail: once in full, and once for each letter
right behind a single dash. -/
def detailIn (argument : String) : Nat :=
  if argument = "--verbose" then 1
  else match argument.toList with
    | '-' :: letters => (letters.takeWhile (· = 'v')).length
    | _ => 0

/-- The path behind its letter, which an equals sign may divide from it. -/
def pathBehind : List Char → PathMention
  | [] => .awaited
  | '=' :: path => .attached (String.ofList path)
  | path => .attached (String.ofList path)

/-- Whether letters behind a single dash name the file of settings, and how. The letter
for it may stand behind those that ask for more detail. -/
def pathInLetters (letters : List Char) : Option PathMention :=
  match letters.dropWhile (· = 'v') with
  | 'c' :: path => some (pathBehind path)
  | _ => none

/-- Whether an argument names the file of settings, and how. -/
def pathIn : List Char → Option PathMention
  | '-' :: '-' :: name =>
    if name = "config".toList then some .awaited
    else if name.take 7 = "config=".toList then some (.attached (String.ofList (name.drop 7)))
    else none
  | '-' :: letters => pathInLetters letters
  | _ => none

/-- What one argument says. -/
def mentioned (argument : String) : Mention :=
  { verbose := detailIn argument
    noColor := argument = "--no-color"
    lowercase := argument = "--lowercase"
    path? := pathIn argument.toList }

/-- What is asked for, the next argument being known. -/
def Mention.options (mention : Mention) (next? : Option String) : Options :=
  { verbose := mention.verbose
    noColor := mention.noColor
    lowercase := mention.lowercase
    config? := match mention.path? with
      | none => none
      | some (.attached path) => some path
      | some .awaited => next? }

/-- What both options ask for. Of two paths the later one is taken. -/
def plus (options more : Options) : Options :=
  { verbose := options.verbose + more.verbose
    noColor := options.noColor || more.noColor
    lowercase := options.lowercase || more.lowercase
    config? := more.config?.or options.config? }

/-- What the arguments on one side of the command ask for. Behind a separator there are
only words. -/
def requested : List String → Options
  | [] => {}
  | argument :: rest =>
    if argument = "--" then {} else plus ((mentioned argument).options rest.head?) (requested rest)

/-- Whether the next argument is the path of the settings. -/
def awaitsPath (mention : Mention) : Bool := mention.path? = some .awaited

/-- The arguments in front of the command and those behind it. The command is the first
argument that begins with no dash and is not the path of the settings. -/
def besideCommand (pathDue : Bool) : List String → List String × List String
  | [] => ([], [])
  | argument :: rest =>
    if pathDue || argument.toList.head? = some '-' then
      let (front, back) := besideCommand (awaitsPath (mentioned argument)) rest
      (argument :: front, back)
    else ([], rest)

variable {scope : Scope} {given : Given} {state : State} {switch : Switch} {mention : Mention}
  {argument : String} {next? later? : Option String}

theorem plus_assoc (first second third : Options) :
    plus (plus first second) third = plus first (plus second third) := by
  simp [plus, Nat.add_assoc, Bool.or_assoc, Option.or_assoc]

@[simp] theorem plus_nothing (options : Options) : plus options {} = options := by
  simp [plus]

@[simp] theorem nothing_plus (options : Options) : plus {} options = options := by
  simp [plus]

/-- What has been given once a switch with its value is taken, if the value is known. -/
def taking (given : Given) (switch : Switch) (value? : Option String) : Given :=
  { given with
    switches := given.switches ++ [switch]
    config? := (if switch = .config then value? else none).or given.config? }

/-- The options that a state comes to once its pending value is looked at. A switch that
waits is taken to get the next argument. -/
def foreseen (next? : Option String) (state : State) : Options :=
  match state.pending? with
  | none => state.given.options
  | some (.waiting switch) => (taking state.given switch next?).options
  | some (.holding switch value) => (taking state.given switch (some value)).options

/-- What is said by a switch without a value. -/
def flagged (switch : Switch) : Mention :=
  { verbose := if switch = .verbose then 1 else 0
    noColor := switch = .noColor
    lowercase := switch = .lowercase }

/-- What is said by a switch with a value. -/
def valued (switch : Switch) (value : PathMention) : Mention :=
  { path? := if switch = .config then some value else none }

theorem options_attached (takes : switch.takesValue = true) (value : String) :
    (taking given switch (some value)).options =
      plus given.options ((valued switch (.attached value)).options next?) := by
  cases switch with
  | config | hex | file | offset => simp [taking, Given.options, plus, Mention.options, valued]
  | _ => cases takes

theorem options_awaited (takes : switch.takesValue = true) :
    (taking given switch next?).options =
      plus given.options ((valued switch .awaited).options next?) := by
  cases switch with
  | config | hex | file | offset => simp [taking, Given.options, plus, Mention.options, valued]
  | _ => cases takes

theorem takeValue_asks (given : Given) (switch : Switch) (value : String) :
    Yields (fun next => next.options = (taking given switch (some value)).options)
      (given.takeValue switch value) := by
  have recorded : Yields (fun next => next = { given with switches := given.switches ++ [switch] })
      (given.record switch) := by
    unfold Given.record
    split
    · exact yields_error
    · exact yields_ok rfl
  refine yields_bind recorded ?_
  rintro _ rfl
  cases switch with
  | config =>
    dsimp only
    split
    · exact yields_error
    · exact yields_ok rfl
  | file =>
    dsimp only
    split
    · exact yields_error
    · exact yields_ok rfl
  | offset =>
    dsimp only
    split
    · exact yields_error
    · exact yields_ok rfl
  | _ => exact yields_ok rfl

theorem takeFlag_asks (next? : Option String) (plain : switch.takesValue = false) (given : Given) :
    Yields (fun next => next.options = plus given.options ((flagged switch).options next?))
      (given.takeFlag switch) := by
  have recorded : ∀ {switch : Switch} {options : Options},
      ({ given with switches := given.switches ++ [switch] } : Given).options = options →
        Yields (fun next => next.options = options) (given.record switch) := by
    intro switch options same
    unfold Given.record
    split
    · exact yields_error
    · exact yields_ok same
  cases switch with
  | verbose => exact yields_ok (by simp [Given.options, plus, Mention.options, flagged])
  | noColor => exact recorded (by simp [Given.options, plus, Mention.options, flagged])
  | lowercase => exact recorded (by simp [Given.options, plus, Mention.options, flagged])
  | help => exact yields_error
  | version => exact yields_error
  | _ => cases plain

/-- A step of the reader adds what is said, whatever was still pending. -/
structure Adds (scope : Scope) (state : State) (next? later? : Option String) (mention : Mention)
    (next : State) : Prop where
  words : next.onlyWords = state.onlyWords
  options : foreseen later? next = plus (foreseen next? state) (mention.options later?)
  /-- In front of the command nothing but the path of the settings is waited for. -/
  waits : scope = .program → next.isWaiting = awaitsPath mention

/-- What is pending is looked at, and nothing is pending any more. -/
theorem settle_asks (next? : Option String) (state : State) :
    Yields (fun settled => settled.pending? = none ∧ settled.onlyWords = state.onlyWords ∧
      settled.given.options = foreseen next? state) state.settle := by
  obtain ⟨given, pending?, onlyWords⟩ := state
  match pending? with
  | none => exact yields_ok ⟨rfl, rfl, rfl⟩
  | some (.waiting switch) => exact yields_error
  | some (.holding switch value) =>
    exact yields_bind (takeValue_asks given switch value) fun _ same => yields_ok ⟨rfl, rfl, same⟩

/-- Where nothing is pending there is nothing to wait for. -/
theorem adds_of_settled {next : State} (nothing : next.pending? = none)
    (words : next.onlyWords = state.onlyWords) (noPath : awaitsPath mention = false)
    (options : next.given.options = plus (foreseen next? state) (mention.options later?)) :
    Adds scope state next? later? mention next := by
  refine ⟨words, ?_, ?_⟩
  · rw [← options, foreseen, nothing]
  · intro _
    rw [noPath, State.isWaiting, nothing]

theorem flag_adds (scope : Scope) (next? later? : Option String) (plain : switch.takesValue = false) :
    Yields (Adds scope state next? later? (flagged switch)) (state.flag switch) := by
  refine yields_bind (settle_asks next? state) ?_
  rintro settled ⟨nothing, words, same⟩
  refine yields_bind (takeFlag_asks later? plain settled.given) fun given asked => yields_ok ?_
  exact adds_of_settled nothing words rfl (by rw [asked, same])

theorem attached_adds (takes : switch.takesValue = true) (value : String) :
    Yields (Adds scope state next? later? (valued switch (.attached value)))
      (state.attached switch value) := by
  refine yields_bind (settle_asks next? state) ?_
  rintro settled ⟨nothing, words, same⟩
  refine yields_bind (takeValue_asks settled.given switch value) fun given asked => yields_ok ?_
  have noPath : awaitsPath (valued switch (.attached value)) = false := by
    by_cases config : switch = .config
    · simp [awaitsPath, valued, config]
    · simp [awaitsPath, valued, config]
  exact adds_of_settled nothing words noPath (by rw [asked, options_attached takes, same])

theorem wait_adds (known : switch ∈ scope.switches) (takes : switch.takesValue = true) :
    Yields (Adds scope state next? later? (valued switch .awaited)) (state.wait switch) := by
  refine yields_bind (settle_asks next? state) ?_
  rintro settled ⟨-, words, same⟩
  refine yields_ok ⟨words, ?_, ?_⟩
  · rw [← same]
    exact options_awaited takes
  · rintro rfl
    have config : switch = .config := by
      cases switch with
      | config => rfl
      | hex | file | offset => simp [Scope.switches] at known
      | _ => cases takes
    rw [config]
    rfl

theorem word_adds (next? later? : Option String) (text : String) :
    Yields (Adds scope state next? later? {}) (state.word scope text) := by
  unfold State.word
  split
  · split
    · exact yields_error
    · exact yields_error
  · split
    · exact yields_error
    · refine yields_bind (settle_asks next? state) ?_
      rintro settled ⟨nothing, words, same⟩
      exact yields_ok (adds_of_settled nothing words rfl (by rw [← same]; exact (plus_nothing _).symm))

/-- The switch with a long name is the one that is called so. -/
theorem longName_of_byName {name : List Char} (found : scope.byName? name = some switch) :
    switch ∈ scope.switches ∧ switch.longName.toList = name :=
  ⟨List.mem_of_find?_eq_some found, by simpa using List.find?_some found⟩

theorem letter_of_byLetter {letter : Char} (found : scope.byLetter? letter = some switch) :
    switch ∈ scope.switches ∧ switch.letter? = some letter :=
  ⟨List.mem_of_find?_eq_some found, by simpa using List.find?_some found⟩

/-- What an attached value adds to the name of its switch. -/
def attachment : Option String → List Char
  | none => []
  | some value => '=' :: value.toList

theorem splitValue_joins (text : List Char) :
    (splitValue text).1 ++ attachment (splitValue text).2 = text := by
  have joined : text.takeWhile (· ≠ '=') ++ text.dropWhile (· ≠ '=') = text :=
    List.takeWhile_append_dropWhile
  unfold splitValue
  cases behind : text.dropWhile (· ≠ '=') with
  | nil => simp [attachment]
  | cons mark value =>
    have equals : mark = '=' := by
      have stopped := List.head?_dropWhile_not (· ≠ '=') text
      rw [behind] at stopped
      simpa using stopped
    rw [behind, equals] at joined
    simpa [attachment] using joined

/-- The shapes of arguments as they are written. -/
theorem ofChars_cases (text : List Char) :
    (Argument.ofChars text = .separator ∧ text = ['-', '-']) ∨
    (∃ name value?, Argument.ofChars text = .long name value? ∧
      text = '-' :: '-' :: (name ++ attachment value?)) ∨
    (∃ letter rest, Argument.ofChars text = .cluster (letter :: rest) ∧ letter ≠ '-' ∧
      text = '-' :: letter :: rest) ∨
    (Argument.ofChars text = .word ∧ (text.head? = some '-' → text = ['-'])) := by
  unfold Argument.ofChars
  split
  · exact .inl ⟨rfl, rfl⟩
  · rename_i rest _
    exact .inr (.inl ⟨_, _, rfl, congrArg ('-' :: '-' :: ·) (splitValue_joins rest).symm⟩)
  · rename_i letter rest _ noLong
    exact .inr (.inr (.inl ⟨letter, rest, rfl, noLong, rfl⟩))
  · rename_i noSeparator noLong noCluster
    refine .inr (.inr (.inr ⟨rfl, ?_⟩))
    intro dash
    match text with
    | [] => cases dash
    | [c] =>
      cases dash
      rfl
    | c :: letter :: rest =>
      cases dash
      exact absurd rfl (noCluster letter rest)

theorem mentioned_name (named : argument.toList = '-' :: '-' :: switch.longName.toList) :
    mentioned argument = if switch.takesValue then valued switch .awaited else flagged switch := by
  have written : argument = "--" ++ switch.longName := by
    apply String.toList_injective
    rw [named, String.toList_append]
    rfl
  subst written
  cases switch <;> rfl

theorem mentioned_value (takes : switch.takesValue = true) {value : String}
    (named : argument.toList = '-' :: '-' :: (switch.longName.toList ++ '=' :: value.toList)) :
    mentioned argument = valued switch (.attached value) := by
  have apart : ∀ known : String, '=' ∉ known.toList → argument ≠ known := by
    rintro known absent rfl
    exact absent (by simp [named])
  have color : argument ≠ "--no-color" := apart _ (by decide)
  have lower : argument ≠ "--lowercase" := apart _ (by decide)
  have verbose : argument ≠ "--verbose" := apart _ (by decide)
  have detail : detailIn argument = 0 := by
    rw [detailIn, if_neg verbose, named]
    rfl
  have path : pathIn argument.toList = if switch = .config then some (.attached value) else none := by
    rw [named]
    cases switch with
    | config =>
      show some (PathMention.attached (String.ofList value.toList)) = _
      rw [String.ofList_toList]
      rfl
    | hex | file | offset => rfl
    | _ => cases takes
  simp [mentioned, valued, color, lower, detail, path]

theorem long_adds {name : List Char} {value? : Option String}
    (written : argument.toList = '-' :: '-' :: (name ++ attachment value?)) :
    Yields (Adds scope state next? later? (mentioned argument)) (state.long scope name value?) := by
  unfold State.long
  split
  · exact yields_error
  · rename_i switch value found
    obtain ⟨-, named⟩ := longName_of_byName found
    by_cases takes : switch.takesValue = true
    · rw [← named] at written
      rw [if_pos takes, mentioned_value takes written]
      exact attached_adds takes value
    · rw [if_neg takes]
      exact yields_error
  · rename_i switch found
    obtain ⟨known, named⟩ := longName_of_byName found
    rw [← named, attachment, List.append_nil] at written
    rw [mentioned_name written]
    by_cases takes : switch.takesValue = true
    · rw [if_pos takes, if_pos takes]
      exact wait_adds known takes
    · rw [if_neg takes, if_neg takes]
      exact flag_adds scope next? later? (Bool.eq_false_iff.mpr takes)

/-- What letters behind a single dash say. -/
def mentionedLetters (letters : List Char) : Mention :=
  { verbose := (letters.takeWhile (· = 'v')).length
    path? := pathInLetters letters }

theorem mentioned_cluster {letter : Char} {rest : List Char} (single : letter ≠ '-')
    (written : argument.toList = '-' :: letter :: rest) :
    mentioned argument = mentionedLetters (letter :: rest) := by
  have apart : ∀ known : String, known.toList.take 2 = ['-', '-'] → argument ≠ known := by
    rintro known double rfl
    rw [written] at double
    simp [single] at double
  have color : argument ≠ "--no-color" := apart _ rfl
  have lower : argument ≠ "--lowercase" := apart _ rfl
  have verbose : argument ≠ "--verbose" := apart _ rfl
  have detail : detailIn argument = ((letter :: rest).takeWhile (· = 'v')).length := by
    rw [detailIn, if_neg verbose, written]
    rfl
  have path : pathIn argument.toList = pathInLetters (letter :: rest) := by
    rw [written]
    unfold pathIn
    split
    · rename_i double
      cases double
      exact absurd rfl single
    · rename_i same
      cases same
      rfl
    · rename_i noLetters
      exact absurd rfl (noLetters _)
  simp [mentioned, mentionedLetters, color, lower, detail, path]

/-- The first letter that takes a value ends those that ask for detail. -/
theorem letters_valued {letter : Char} (known : switch.letter? = some letter)
    (takes : switch.takesValue = true) (rest : List Char) :
    mentionedLetters (letter :: rest) = valued switch (pathBehind rest) := by
  cases switch with
  | config | offset =>
    cases known
    rfl
  | hex | file => cases known
  | _ => cases takes

/-- Of the letters without a value only one stands on an accepted command line. -/
theorem flag_letter {letter : Char} (known : switch.letter? = some letter)
    (plain : switch.takesValue = false) : letter = 'v' ∧ switch = .verbose ∨
      Yields (fun _ => False) (state.flag switch) := by
  cases switch with
  | verbose =>
    cases known
    exact .inl ⟨rfl, rfl⟩
  | help => exact .inr (yields_after fun _ => yields_error)
  | version => exact .inr (yields_after fun _ => yields_error)
  | noColor | lowercase => cases known
  | _ => cases plain

/-- One more letter that asks for detail. -/
theorem adds_verbose {middle last : State} {between? : Option String} {letters : List Char}
    (once : Adds scope state next? between? (flagged .verbose) middle)
    (again : Adds scope middle between? later? (mentionedLetters letters) last) :
    Adds scope state next? later? (mentionedLetters ('v' :: letters)) last := by
  have path : pathInLetters ('v' :: letters) = pathInLetters letters := by
    simp [pathInLetters]
  refine ⟨again.words.trans once.words, ?_, fun program => ?_⟩
  · rw [again.options, once.options, plus_assoc]
    congr 1
    simp [plus, Mention.options, mentionedLetters, flagged, path, Nat.add_comm]
  · rw [again.waits program, awaitsPath, awaitsPath, mentionedLetters, mentionedLetters, path]

/-- What is behind the letter of a switch with a value is the value, if anything is. -/
theorem value_adds (known : switch ∈ scope.switches) (takes : switch.takesValue = true)
    (rest : List Char) : Yields (Adds scope state next? later? (valued switch (pathBehind rest)))
      (match rest with
        | [] => state.wait switch
        | '=' :: value => state.attached switch (String.ofList value)
        | value => state.attached switch (String.ofList value)) := by
  split
  · exact wait_adds known takes
  · exact attached_adds takes _
  · rename_i noValue noMark
    have behind : pathBehind rest = .attached (String.ofList rest) := by
      unfold pathBehind
      split
      · exact absurd rfl noValue
      · exact absurd rfl (noMark _)
      · rfl
    rw [behind]
    exact attached_adds takes _

theorem cluster_adds {letters : List Char} (some : letters ≠ []) :
    Yields (Adds scope state next? later? (mentionedLetters letters))
      (state.cluster scope letters) := by
  induction letters generalizing state next? with
  | nil => exact absurd rfl some
  | cons letter rest ih =>
    unfold State.cluster
    split
    · exact yields_error
    · rename_i switch found
      obtain ⟨known, called⟩ := letter_of_byLetter found
      by_cases takes : switch.takesValue = true
      · rw [if_pos takes, letters_valued called takes]
        exact value_adds known takes rest
      · have plain := Bool.eq_false_iff.mpr takes
        rw [if_neg takes]
        rcases flag_letter called plain with ⟨rfl, rfl⟩ | never
        · by_cases last : rest = []
          · subst last
            exact yields_bind (flag_adds scope next? later? plain) fun _ once => yields_ok once
          · refine yields_bind (flag_adds scope next? none plain) fun _ once => ?_
            intro final ran
            exact adds_verbose once (ih last final ran)
        · exact yields_bind never fun _ impossible => impossible.elim

theorem mentioned_word (word : argument.toList.head? = some '-' → argument.toList = ['-']) :
    mentioned argument = {} := by
  by_cases dash : argument.toList.head? = some '-'
  · have written : argument = "-" := String.toList_injective (word dash)
    subst written
    rfl
  · have apart : ∀ known : String, known.toList.head? = some '-' → argument ≠ known := by
      rintro known dashed rfl
      exact dash dashed
    have color : argument ≠ "--no-color" := apart _ rfl
    have lower : argument ≠ "--lowercase" := apart _ rfl
    have verbose : argument ≠ "--verbose" := apart _ rfl
    have detail : detailIn argument = 0 := by
      rw [detailIn, if_neg verbose]
      split
      · rename_i dashed
        exact absurd (congrArg List.head? dashed) dash
      · rfl
    have path : pathIn argument.toList = none := by
      unfold pathIn
      split
      · rename_i dashed
        exact absurd (congrArg List.head? dashed) dash
      · rename_i dashed
        exact absurd (congrArg List.head? dashed) dash
      · rfl
    simp [mentioned, color, lower, detail, path]

/-- Each argument in front of the separator adds what it says. Where a switch waits, the
argument is its value or the command line is refused. -/
theorem step_adds (later? : Option String) (searching : state.onlyWords = false)
    (notSeparator : argument ≠ "--") :
    Yields (Adds scope state (some argument) later? (mentioned argument))
      (state.step scope argument) := by
  unfold State.step
  rw [searching]
  obtain ⟨shape, separator⟩ | ⟨name, value?, shape, written⟩ | ⟨letter, rest, shape, single, written⟩ |
    ⟨shape, word⟩ := ofChars_cases argument.toList
  · exact absurd (String.toList_injective separator) notSeparator
  · rw [shape]
    exact long_adds written
  · rw [shape, mentioned_cluster single written]
    exact cluster_adds (List.cons_ne_nil _ _)
  · rw [shape, mentioned_word word]
    obtain ⟨given, pending?, onlyWords⟩ := state
    match pending? with
    | none => exact word_adds _ _ argument
    | some (.holding switch value) => exact word_adds _ _ argument
    | some (.waiting switch) => exact yields_ok ⟨searching.symm, (plus_nothing _).symm, fun _ => rfl⟩

/-- Behind the separator nothing more is asked for. -/
theorem words_ask (words : state.onlyWords = true) (arguments : List String) :
    Yields (fun given => given.options = foreseen next? state) (do
      let last ← arguments.foldlM (State.step scope) state
      return (← last.settle).given) := by
  induction arguments generalizing state next? with
  | nil =>
    rw [List.foldlM_nil, pure_bind]
    exact yields_bind (settle_asks next? state) fun settled looked => yields_ok looked.2.2
  | cons argument rest ih =>
    rw [List.foldlM_cons, bind_assoc]
    have stepped : state.step scope argument = state.word scope argument := by
      rw [State.step, if_pos words]
    rw [stepped]
    refine yields_bind (word_adds next? none argument) fun next added => ?_
    intro given ran
    have options : foreseen none next = foreseen next? state := by
      rw [added.options]
      exact plus_nothing _
    rw [← options]
    exact ih (added.words.trans words) given ran

/-- What is read on one side of the command is what the arguments there ask for, on top
of what the reader has been told. -/
theorem reads_ask (searching : state.onlyWords = false) (arguments : List String) :
    Yields (fun given => given.options = plus (foreseen arguments.head? state) (requested arguments))
      (do
        let last ← arguments.foldlM (State.step scope) state
        return (← last.settle).given) := by
  induction arguments generalizing state with
  | nil =>
    rw [List.foldlM_nil, pure_bind]
    refine yields_bind (settle_asks none state) fun settled looked => yields_ok ?_
    rw [looked.2.2]
    exact (plus_nothing _).symm
  | cons argument rest ih =>
    rw [List.foldlM_cons, bind_assoc]
    by_cases separator : argument = "--"
    · subst separator
      have marked : state.step scope "--" = .ok { state with onlyWords := true } := by
        rw [State.step, searching]
        rfl
      rw [marked, requested, if_pos rfl, plus_nothing]
      exact words_ask rfl rest
    · rw [requested, if_neg separator]
      refine yields_bind (step_adds rest.head? searching separator) fun next added => ?_
      intro given ran
      rw [ih (added.words.trans searching) given ran, added.options, plus_assoc]
      rfl

theorem operands_ask (scope : Scope) (arguments : List String) :
    Yields (fun given => given.options = requested arguments) (readOperands scope arguments) := by
  intro given read
  rw [reads_ask rfl arguments given read]
  exact nothing_plus _

/-- The options behind the command are those asked for there. -/
theorem command_asks {name : String} {rest : List String}
    {command : Except Refusal (Options × Command)} (read : readCommand? name rest = some command) :
    Yields (fun found => found.1 = requested rest) command := by
  unfold readCommand? at read
  split at read
  · cases read
    exact yields_bind (operands_ask _ _) fun _ asked => yields_after fun _ => yields_ok asked
  · cases read
    exact yields_bind (operands_ask _ _) fun _ asked => yields_after fun _ => yields_ok asked
  · cases read
    exact yields_error
  · cases read

/-- In front of the command there is no place for a word that is no path. -/
theorem word_refused (words : state.onlyWords = true) (arguments : List String) :
    Yields (fun _ => False) (readFrom state arguments) := by
  cases arguments with
  | nil =>
    rw [readFrom]
    refine yields_after fun _ => ?_
    split
    · exact yields_error
    · exact yields_error
  | cons argument rest =>
    have refused : Yields (fun _ => False) (state.step .program argument) := by
      rw [State.step, if_pos words, State.word]
      split
      · exact yields_error
      · exact yields_error
    rw [readFrom, words, Bool.true_or, if_pos rfl]
    exact yields_bind refused fun _ impossible => impossible.elim

theorem unknownCommand_refused (searching : state.onlyWords = false) (free : state.isWaiting = false)
    (word : argument.toList.head? ≠ some '-') :
    Yields (fun _ => False) (state.step .program argument) := by
  rw [State.step, if_neg (by simp [searching]), ofChars_word word]
  dsimp only
  split
  · rename_i waiting
    rw [State.isWaiting, waiting] at free
    cases free
  · rw [State.word, if_neg (by simp [searching])]
    exact yields_error

/-- An argument in front of the command is not taken for it. -/
theorem noCommand_inFront (searching : state.onlyWords = false)
    (inFront : (state.isWaiting || argument.toList.head? = some '-') = true) (rest : List String) :
    (if (state.onlyWords || state.isWaiting) = true then none else readCommand? argument rest) =
      none := by
  by_cases waits : state.isWaiting = true
  · rw [waits, Bool.or_true, if_pos rfl]
  · have free : state.isWaiting = false := Bool.eq_false_iff.mpr waits
    have dashed : argument.toList.head? = some '-' := by simpa [free] using inFront
    rw [searching, free, readCommand_dashed dashed rest]
    rfl

/-- The options of an accepted command line are what the arguments ask for on either
side of the command, on top of what the reader has been told. -/
theorem readFrom_asks (searching : state.onlyWords = false) (arguments : List String) :
    Yields (fun invocation =>
      invocation.before =
        plus (foreseen (besideCommand state.isWaiting arguments).1.head? state)
          (requested (besideCommand state.isWaiting arguments).1) ∧
      invocation.after = requested (besideCommand state.isWaiting arguments).2)
      (readFrom state arguments) := by
  induction arguments generalizing state with
  | nil =>
    rw [readFrom]
    refine yields_after fun _ => ?_
    split
    · exact yields_error
    · exact yields_error
  | cons argument rest ih =>
    by_cases inFront : (state.isWaiting || argument.toList.head? = some '-') = true
    · rw [readFrom, noCommand_inFront searching inFront rest]
      by_cases separator : argument = "--"
      · have marked : state.step .program argument = .ok { state with onlyWords := true } := by
          rw [separator, State.step, searching]
          rfl
        rw [marked]
        exact fun _ ran => (word_refused rfl rest _ ran).elim
      · rw [besideCommand, if_pos inFront]
        dsimp only
        let sides := besideCommand (awaitsPath (mentioned argument)) rest
        refine yields_bind (step_adds sides.1.head? searching separator) fun next added => ?_
        intro invocation ran
        have later := ih (added.words.trans searching) invocation ran
        rw [added.waits rfl, added.options, plus_assoc] at later
        rw [requested, if_neg separator]
        exact later
    · obtain ⟨free, word⟩ : state.isWaiting = false ∧ argument.toList.head? ≠ some '-' := by
        simpa using inFront
      rw [besideCommand, if_neg inFront, readFrom, searching, free, Bool.false_or, if_neg Bool.false_ne_true]
      split
      · rename_i command read
        refine yields_bind (command_asks read) fun found asked => ?_
        refine yields_bind (settle_asks none state) fun settled looked => yields_ok ?_
        exact ⟨looked.2.2.trans (plus_nothing _).symm, asked⟩
      · exact yields_bind (unknownCommand_refused searching free word) fun _ impossible => impossible.elim

/-- An accepted command line has the options that its arguments ask for. -/
theorem options_of_read {arguments : List String} {invocation : Invocation}
    (accepted : CommandLine.read arguments = .ok invocation) :
    invocation.before = requested (besideCommand false arguments).1 ∧
    invocation.after = requested (besideCommand false arguments).2 := by
  have asked := readFrom_asks rfl arguments invocation accepted
  exact ⟨asked.1.trans (nothing_plus _), asked.2⟩

end HexPattern.RequestedOptions
