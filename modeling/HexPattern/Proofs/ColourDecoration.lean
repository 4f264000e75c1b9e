import HexPattern.Proofs.AddedSwitches
import HexPattern.Proofs.LoadedSettings
import HexPattern.Proofs.PrintedLines
import HexPattern.Proofs.VisibleFailures

/-! Colour is decoration only. What colour adds to a text are style sequences,
and what the text shows holds no escape character that could be taken for the
beginning of one, or hide one: texts of patterns and buffers are quoted, and the
paths of files and the words of the system are asked to be free of it. So taking
the sequences out gives the text without colour, and where colour is turned off
nothing is left to take out. Colour is turned off by the settings, so a failure
to read them may still be reported in colour. -/
namespace HexPattern.ColourDecoration
open AddedSwitches CommandRuns PrintedLines ReportLines Session Terminal VisibleText
open CommandLine (Command Invocation Options)

/-- What follows a style sequence that the text begins with: the escape
character, a bracket, parameters, and the letter that ends it. -/
def afterSequence? : List Char → Option (List Char)
  | '\x1b' :: '[' :: rest =>
    match rest.dropWhile isParameter with
    | 'm' :: after => some after
    | _ => none
  | _ => none

theorem afterSequence?_shorter {text after : List Char} (found : afterSequence? text = some after) :
    after.length < text.length := by
  unfold afterSequence? at found
  split at found
  · rename_i rest
    split at found
    · rename_i letters
      cases found
      have shorter := (List.dropWhile_sublist isParameter (l := rest)).length_le
      rw [letters, List.length_cons] at shorter
      simp only [List.length_cons]
      omega
    · cases found
  · cases found

/-- Characters without the style sequences among them. -/
def unstyledChars (text : List Char) : List Char :=
  match text with
  | [] => []
  | c :: rest =>
    match found : afterSequence? (c :: rest) with
    | some after =>
      have : after.length < (c :: rest).length := afterSequence?_shorter found
      unstyledChars after
    | none => c :: unstyledChars rest
termination_by text.length
decreasing_by
  · exact this
  · exact Nat.lt_succ_self rest.length

/-- A text without the style sequences in it. -/
def unstyled (text : String) : String := String.ofList (unstyledChars text.toList)

/-- No style sequence begins in the text, nor any other. -/
def Unescaped (text : String) : Prop := '\x1b' ∉ text.toList

theorem unstyledChars_plain {front : List Char} (unescaped : '\x1b' ∉ front) (rest : List Char) :
    unstyledChars (front ++ rest) = front ++ unstyledChars rest := by
  induction front with
  | nil => rfl
  | cons c front ih =>
    obtain ⟨here, later⟩ := not_or.mp (mt List.mem_cons.mpr unescaped)
    have nothing : afterSequence? (c :: (front ++ rest)) = none := by
      unfold afterSequence?
      split
      · rename_i begins
        exact absurd (List.cons.inj begins).1.symm here
      · rfl
    rw [List.cons_append, unstyledChars]
    split
    · rename_i found
      cases nothing.symm.trans found
    · rw [ih later]
      rfl

theorem unstyledChars_sequence (style : Style) (rest : List Char) :
    unstyledChars (style.sequence.toList ++ rest) = unstyledChars rest := by
  obtain ⟨parameters, all, shape⟩ := sequence_shape style
  have letter : isParameter 'm' = false := by decide
  have found : afterSequence? ('\x1b' :: ('[' :: (parameters ++ ['m']) ++ rest)) = some rest := by
    show (match (parameters ++ ['m'] ++ rest).dropWhile isParameter with
      | 'm' :: after => some after
      | _ => none) = _
    rw [List.append_assoc, List.dropWhile_append_of_pos all, List.singleton_append,
      List.dropWhile_cons_of_neg (by rw [letter]; decide)]
    rfl
  rw [shape, List.cons_append, unstyledChars]
  split
  · rename_i foundToo
    cases found.symm.trans foundToo
    rfl
  · rename_i nothing
    cases found.symm.trans nothing

theorem unescaped_append {front back : String} (inFront : Unescaped front) (behind : Unescaped back) :
    Unescaped (front ++ back) := by
  rw [Unescaped, String.toList_append, List.mem_append]
  exact not_or.mpr ⟨inFront, behind⟩

theorem unescaped_of_visible {text : String} (visible : Visible text) : Unescaped text := by
  intro escape
  exact absurd (visible '\x1b' escape) (by decide)

theorem unstyled_unescaped {text : String} (unescaped : Unescaped text) : unstyled text = text := by
  have same := unstyledChars_plain unescaped []
  rw [List.append_nil, unstyledChars, List.append_nil] at same
  rw [unstyled, same, String.ofList_toList]

/-- No text of these lines holds an escape character. -/
def LinesUnescaped (lines : List Line) : Prop := ∀ line ∈ lines, ∀ span ∈ line, Unescaped span.text

theorem linesUnescaped_of_visible {lines : List Line} (visible : LinesVisible lines) :
    LinesUnescaped lines :=
  fun line member span here => unescaped_of_visible (visible line member span here)

theorem unstyledChars_span {span : Span} (unescaped : Unescaped span.text) (rest : List Char) :
    unstyledChars ((span.render true).toList ++ rest) =
      (span.render false).toList ++ unstyledChars rest := by
  cases span with
  | plain text => exact unstyledChars_plain unescaped rest
  | styled style text =>
    have plain : '\x1b' ∉ text.toList := unescaped
    have shown : ((Span.styled style text).render true).toList =
        style.sequence.toList ++ (text.toList ++ resetSequence.toList) := by
      simp [Span.render, String.append_assoc]
    rw [shown, List.append_assoc, List.append_assoc, unstyledChars_sequence,
      unstyledChars_plain plain, resetSequence_eq, unstyledChars_sequence]
    rfl

theorem unstyledChars_line {line : Line} (unescaped : ∀ span ∈ line, Unescaped span.text)
    (rest : List Char) : unstyledChars ((line.render true).toList ++ rest) =
      (line.render false).toList ++ unstyledChars rest := by
  induction line with
  | nil => rfl
  | cons span line ih =>
    obtain ⟨here, later⟩ := List.forall_mem_cons.mp unescaped
    have shown : ∀ colour, (Line.render colour (span :: line)).toList =
        (span.render colour).toList ++ (Line.render colour line).toList := by
      intro colour
      rw [Line.render, List.map_cons, String.join_cons, String.toList_append]
      rfl
    rw [shown, shown, List.append_assoc, unstyledChars_span here, ih later, List.append_assoc]

theorem unescaped_line {line : Line} (unescaped : ∀ span ∈ line, Unescaped span.text) :
    Unescaped (line.render false) := by
  rw [Unescaped, Line.render, String.toList_join, List.mem_flatMap]
  rintro ⟨rendered, member, inside⟩
  obtain ⟨span, here, rfl⟩ := List.mem_map.mp member
  cases span <;> exact unescaped _ here inside

theorem render_cons (colour : Bool) (line : Line) (lines : List Line) :
    render colour (line :: lines) = line.render colour ++ "\n" ++ render colour lines := by
  rw [render, List.map_cons, String.join_cons]
  rfl

theorem unescaped_render {lines : List Line} (unescaped : LinesUnescaped lines) :
    Unescaped (render false lines) := by
  induction lines with
  | nil => exact unescaped_of_visible (visible_words (by decide))
  | cons line lines ih =>
    obtain ⟨here, later⟩ := List.forall_mem_cons.mp unescaped
    have feed : '\x1b' ∉ "\n".toList := by decide
    rw [render_cons]
    exact unescaped_append (unescaped_append (unescaped_line here) feed) (ih later)

theorem unescaped_failureLine {message : String} (unescaped : Unescaped message) :
    ∀ span ∈ failureLine message, Unescaped span.text := by
  have mark : Unescaped "[!]" := unescaped_of_visible (visible_words (by decide))
  have behind : Unescaped (" " ++ message) :=
    unescaped_append (unescaped_of_visible (visible_words (by decide))) unescaped
  simpa [failureLine, Span.text, mark] using behind

/-- Without the style sequences, coloured lines are the lines without colour. -/
theorem unstyled_render {lines : List Line} (unescaped : LinesUnescaped lines) (colour : Bool) :
    unstyled (render colour lines) = render false lines := by
  cases colour with
  | false => exact unstyled_unescaped (unescaped_render unescaped)
  | true =>
    have shown : unstyledChars (render true lines).toList = (render false lines).toList := by
      induction lines with
      | nil => exact unstyledChars.eq_1
      | cons line lines ih =>
        obtain ⟨here, later⟩ := List.forall_mem_cons.mp unescaped
        have feed : '\x1b' ∉ "\n".toList := by decide
        rw [render_cons, render_cons, String.toList_append, String.toList_append,
          String.toList_append, String.toList_append, List.append_assoc, unstyledChars_line here,
          unstyledChars_plain feed, ih later, List.append_assoc]
    rw [unstyled, shown, String.ofList_toList]

/-- No path that the command line names holds an escape character. -/
structure PathsUnescaped (invocation : Invocation) : Prop where
  settings : ∀ path, invocation.options.config? = some path → Unescaped path
  buffer : ∀ text path offset, invocation.command = .test text (.file path) offset → Unescaped path

/-- The words of the system about a file hold no escape character. -/
def WordsUnescaped (files : Files) : Prop :=
  ∀ path words, files path = .error (.other words) → Unescaped words

section

variable {letters : LetterCase} {files : Files} {invocation : Invocation} {settings : Settings}

theorem unescaped_fileError {path : String} {error : FileError} (words : WordsUnescaped files)
    (refused : files path = .error error) : Unescaped error.message := by
  cases error with
  | other message => exact words path message refused
  | _ => exact unescaped_of_visible (visible_words (by decide))

theorem unescaped_readText {path : String} {error : FileError} (words : WordsUnescaped files)
    (refused : files.readText path = .error error) : Unescaped error.message := by
  unfold Files.readText at refused
  cases found : files path with
  | error unreadable =>
    rw [found] at refused
    cases refused
    exact unescaped_fileError words found
  | ok contents =>
    rw [found] at refused
    dsimp only [bind, Except.bind] at refused
    split at refused
    · cases refused
    · cases refused
      exact unescaped_of_visible (visible_words (by decide))

/-- Around a path there are plain words. -/
theorem unescaped_about {front path back message : String} (plain : (front.toList ++ back.toList).all isPlain)
    (named : Unescaped path) (shown : Unescaped message) :
    Unescaped (front ++ path ++ back ++ message) := by
  rw [List.all_append, Bool.and_eq_true] at plain
  have inFront := unescaped_of_visible (visible_words plain.1)
  have between := unescaped_of_visible (visible_words plain.2)
  exact unescaped_append (unescaped_append (unescaped_append inFront named) between) shown

theorem unescaped_loadError {error : Settings.LoadError} (paths : PathsUnescaped invocation)
    (words : WordsUnescaped files) (failed : invocation.settings files = .error error) :
    Unescaped error.message := by
  obtain ⟨path, asked, came⟩ := LoadedSettings.settings_error_iff.mp failed
  have named := paths.settings path asked
  cases came with
  | unreadable refused =>
    exact unescaped_about (by decide) named (unescaped_readText words refused)
  | notDocument found refused =>
    exact unescaped_about (by decide) named
      (unescaped_of_visible (VisibleFailures.visible_failure refused _))
  | invalid found read large => exact unescaped_of_visible (visible_words (by decide))

theorem unescaped_failure {run : Run Bool} {failure : Failure} (paths : PathsUnescaped invocation)
    (words : WordsUnescaped files) (ran : CommandRun letters files invocation.command run)
    (failed : run.result = .error failure) : Unescaped failure.message := by
  by_cases about : ∃ path error, failure = .unreadableBuffer path error
  · obtain ⟨path, error, rfl⟩ := about
    obtain ⟨text, offset, given, refused⟩ := file_of_unreadable ran failed
    exact unescaped_about (by decide) (paths.buffer text path offset given)
      (unescaped_fileError words refused)
  · exact unescaped_of_visible (visible_message fun path error same => about ⟨path, error, same⟩)

/-- No line that a command has reason to write on standard error holds an escape
character. -/
theorem unescaped_reports {run : Run Bool} (environment : Environment) (threshold : Log.Level)
    (paths : PathsUnescaped invocation) (words : WordsUnescaped files)
    (ran : CommandRun letters files invocation.command run) :
    LinesUnescaped ((shownRecords environment threshold run.records).map recordLine ++
      failureLines run.result) := by
  have shown := allVisible_shown environment threshold (allVisible_of_commandRun ran)
  refine List.forall_mem_append.mpr ⟨linesUnescaped_of_visible (visible_recordLines shown), ?_⟩
  cases ended : run.result with
  | ok well => simp [failureLines]
  | error failure =>
    have message := unescaped_failure paths words ran ended
    unfold failureLines
    dsimp only
    split
    · simpa [Span.text] using message
    · exact List.forall_mem_singleton.mpr (unescaped_failureLine message)

end

/-- One outcome is the other one with style sequences added to its texts. -/
structure Decorates (coloured plain : Outcome) : Prop where
  code : coloured.code = plain.code
  stdout : unstyled coloured.stdout = plain.stdout
  stderr : unstyled coloured.stderr = plain.stderr

/-- No escape character was written. -/
def NoEscape (outcome : Outcome) : Prop := Unescaped outcome.stdout ∧ Unescaped outcome.stderr

/-- Another invocation asks for the same, but for no colour. -/
def TurnsColourOff (invocation other : Invocation) : Prop :=
  other.command = invocation.command ∧
    other.options = { invocation.options with noColor := true }

section

variable {silenced : Bool} {files : Files} {arguments otherArguments : List String}
  {invocation other : Invocation} {settings : Settings}

/-- Lines that hold no escape character, written with colour or without. -/
theorem decorates_conclude {run : Run Bool} (environment : Environment) (settings : Settings)
    (printed : LinesUnescaped run.lines)
    (reported : LinesUnescaped
      ((shownRecords environment settings.threshold run.records).map recordLine ++
        failureLines run.result)) :
    Decorates (conclude environment settings run)
      (conclude { environment with forceColour := false } settings run) :=
  ⟨rfl, unstyled_render printed _, unstyled_render reported _⟩

theorem noEscape_conclude {run : Run Bool} {environment : Environment} {settings : Settings}
    (uncoloured : (environment.forceColour && settings.useColor) = false)
    (printed : LinesUnescaped run.lines)
    (reported : LinesUnescaped
      ((shownRecords environment settings.threshold run.records).map recordLine ++
        failureLines run.result)) : NoEscape (conclude environment settings run) := by
  have lines := unescaped_render printed
  have reports := unescaped_render reported
  rw [← uncoloured] at lines reports
  exact ⟨lines, reports⟩

theorem settings_uncoloured (off : other.options = { invocation.options with noColor := true }) :
    other.settings files =
      (invocation.settings files).map fun settings => { settings with useColor := false } := by
  refine settings_changed files (by rw [off]) fun base => ?_
  rw [off]
  simp [Options.apply]

theorem decorates_coloured (accepted : CommandLine.read arguments = .ok invocation)
    (paths : PathsUnescaped invocation) (words : WordsUnescaped files) :
    Decorates (runProgram ⟨true, silenced⟩ files arguments)
      (runProgram ⟨false, silenced⟩ files arguments) := by
  cases resolved : invocation.settings files with
  | error error =>
    have message := unescaped_loadError paths words resolved
    have report : LinesUnescaped [failureLine error.message] :=
      List.forall_mem_singleton.mpr (unescaped_failureLine message)
    have nothing : Unescaped "" := unescaped_of_visible (visible_words (by decide))
    rw [runProgram_unresolved accepted resolved, runProgram_unresolved accepted resolved]
    exact ⟨rfl, unstyled_unescaped nothing, unstyled_render report _⟩
  | ok settings =>
    have ran := command_run settings.letters files invocation.command
    rw [runProgram_resolved accepted resolved, runProgram_resolved accepted resolved]
    exact decorates_conclude _ settings (linesUnescaped_of_visible (visible_of_commandRun ran))
      (unescaped_reports _ settings.threshold paths words ran)

/-- Where colour is not forced it makes no difference that it is turned off. -/
theorem plain_turnedOff (accepted : CommandLine.read arguments = .ok invocation)
    (acceptedToo : CommandLine.read otherArguments = .ok other)
    (turnsOff : TurnsColourOff invocation other) :
    runProgram ⟨false, silenced⟩ files otherArguments =
      runProgram ⟨false, silenced⟩ files arguments := by
  obtain ⟨sameCommand, off⟩ := turnsOff
  have resolvedToo := @settings_uncoloured files _ _ off
  cases resolved : invocation.settings files with
  | error error =>
    rw [resolved] at resolvedToo
    rw [runProgram_unresolved accepted resolved, runProgram_unresolved acceptedToo resolvedToo]
  | ok settings =>
    rw [resolved] at resolvedToo
    rw [runProgram_resolved accepted resolved, runProgram_resolved acceptedToo resolvedToo,
      sameCommand]
    rfl

theorem noEscape_turnedOff (acceptedToo : CommandLine.read otherArguments = .ok other)
    (off : other.options = { invocation.options with noColor := true })
    (paths : PathsUnescaped other) (words : WordsUnescaped files)
    (resolved : invocation.settings files = .ok settings) (environment : Environment) :
    NoEscape (runProgram environment files otherArguments) := by
  have resolvedToo := @settings_uncoloured files _ _ off
  rw [resolved] at resolvedToo
  have ran := command_run settings.letters files other.command
  rw [runProgram_resolved acceptedToo resolvedToo]
  exact noEscape_conclude (Bool.and_false _)
    (linesUnescaped_of_visible (visible_of_commandRun ran))
    (unescaped_reports _ settings.threshold paths words ran)

theorem decorates_turnedOff (accepted : CommandLine.read arguments = .ok invocation)
    (acceptedToo : CommandLine.read otherArguments = .ok other)
    (turnsOff : TurnsColourOff invocation other) (paths : PathsUnescaped invocation)
    (words : WordsUnescaped files) :
    Decorates (runProgram ⟨true, silenced⟩ files otherArguments)
        (runProgram ⟨false, silenced⟩ files arguments) ∧
      ∀ settings, invocation.settings files = .ok settings →
        NoEscape (runProgram ⟨true, silenced⟩ files otherArguments) := by
  obtain ⟨sameCommand, off⟩ := turnsOff
  have pathsToo : PathsUnescaped other := by
    refine ⟨fun path asked => paths.settings path ?_, fun text path offset given => ?_⟩
    · rwa [off] at asked
    · exact paths.buffer text path offset (sameCommand ▸ given)
  refine ⟨?_, fun settings resolved => noEscape_turnedOff acceptedToo off pathsToo words resolved _⟩
  rw [← plain_turnedOff accepted acceptedToo ⟨sameCommand, off⟩]
  exact decorates_coloured acceptedToo pathsToo words

/-- Forced colour adds style sequences to what is written and nothing else. With
colour turned off, by a switch that is added or by any options that say so, even
these are missing, but for the report on settings that could not be had. -/
theorem colour_decorates_only (accepted : CommandLine.read arguments = .ok invocation)
    (paths : PathsUnescaped invocation) (words : WordsUnescaped files) :
    let plain := runProgram ⟨false, silenced⟩ files arguments
    let coloured := runProgram ⟨true, silenced⟩ files
    Decorates (coloured arguments) plain ∧
    (invocation.before.noColor = false →
      Decorates (coloured ("--no-color" :: arguments)) plain ∧
        ∀ settings, invocation.settings files = .ok settings →
          NoEscape (coloured ("--no-color" :: arguments))) ∧
    ∀ otherArguments other, CommandLine.read otherArguments = .ok other →
      TurnsColourOff invocation other →
        Decorates (coloured otherArguments) plain ∧
          ∀ settings, invocation.settings files = .ok settings →
            NoEscape (coloured otherArguments) := by
  refine ⟨decorates_coloured accepted paths words, ?_, ?_⟩
  · intro off
    have added : CommandLine.read ("--no-color" :: arguments) =
        .ok (turnOnBefore invocation .noColor) :=
      read_switch_first .noColor accepted (by rw [isOff, off]; rfl)
    exact decorates_turnedOff accepted added ⟨rfl, options_turnOnBefore invocation .noColor⟩ paths
      words
  · intro otherArguments other acceptedToo turnsOff
    exact decorates_turnedOff accepted acceptedToo turnsOff paths words

end

theorem missing_buffer_in_colour :
    let files : Files := fun _ => .error (.other "Permission denied (os error 13)")
    let invocation : Invocation := ⟨{ verbose := 3 }, {}, .test "A? ?b" (.file "secret") 1⟩
    let arguments := ["-vvv", "test", "A? ?b", "--file", "secret", "-o", "1"]
    let plain := runProgram ⟨false, false⟩ files arguments
    CommandLine.read arguments = .ok invocation ∧
      (PathsUnescaped invocation ∧ WordsUnescaped files) ∧
      Decorates (runProgram ⟨true, false⟩ files arguments) plain ∧
      Decorates (runProgram ⟨true, false⟩ files ("--no-color" :: arguments)) plain ∧
      NoEscape (runProgram ⟨true, false⟩ files ("--no-color" :: arguments)) := by
  intro files invocation arguments plain
  have accepted : CommandLine.read arguments = .ok invocation := rfl
  have paths : PathsUnescaped invocation := by
    refine ⟨fun path asked => ?_, fun text path offset given => ?_⟩
    · cases asked
    · cases given
      exact unescaped_of_visible (visible_words (by decide))
  have words : WordsUnescaped files := by
    rintro path _ ⟨⟩
    exact unescaped_of_visible (visible_words (by decide))
  obtain ⟨coloured, switch, -⟩ := @colour_decorates_only false files _ _ accepted paths words
  obtain ⟨turnedOff, noEscape⟩ := switch rfl
  exact ⟨accepted, ⟨paths, words⟩, coloured, turnedOff, noEscape _ rfl⟩

end HexPattern.ColourDecoration
