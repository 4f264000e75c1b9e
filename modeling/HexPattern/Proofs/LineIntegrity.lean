import HexPattern.Proofs.FailureReports
import HexPattern.Proofs.PrintedLines

/-! Texts of patterns and buffers stay inside the lines that are about them.
Whatever characters they hold, what a run writes without colour is made of whole
lines with nothing in them that steers a terminal or begins another line. So the
lines on standard error are those of the records that were emitted, one each and
in their order, and at the end the report of the failure if there was one: no text
can add a line, split one or pass for a report. -/
namespace HexPattern.LineIntegrity
open CommandLine (Command Invocation)
open CommandRuns PrintedLines Session Terminal
open VisibleText (AllVisible Visible allVisible_of_commandRun visible_append visible_message
  visible_words)

/-- A character that steers a terminal or divides lines: the controls of both
sets, and the separators of lines and paragraphs. -/
def Steers (c : Char) : Prop :=
  c.toNat ≤ 0x1F ∨ (0x7F ≤ c.toNat ∧ c.toNat ≤ 0x9F) ∨ c.toNat = 0x2028 ∨ c.toNat = 0x2029

/-- A text of whole lines in which nothing steers but the line feeds that end them. -/
structure Inert (text : String) : Prop where
  whole : text = String.join ((completeLines text).map (· ++ "\n"))
  steady : ∀ line ∈ completeLines text, ∀ c ∈ line.toList, ¬ Steers c

/-- A name filled up with spaces to five characters. -/
def filled (name : String) : String := name ++ String.ofList (List.replicate (5 - name.length) ' ')

/-- The line of a record: its level, a space, who speaks in brackets, and the message. -/
def logLine (record : Log.Record) : String :=
  filled record.level.name ++ " " ++ "[" ++ record.source.name ++ "]" ++ " " ++ record.message

/-- The line of a report. -/
def reportLine (message : String) : String := "[!]" ++ " " ++ message

section

variable {letters : LetterCase} {files : Files} {command : Command} {run : Run Bool}

/-- What steers is never written as it stands. -/
theorem not_steers_of_visible {c : Char} (visible : Text.isInvisible c = false) : ¬ Steers c := by
  have outside : ∀ range ∈ Text.unprintable, ¬ (range.1 ≤ c.toNat ∧ c.toNat ≤ range.2) := by
    simp only [Text.isInvisible, Bool.or_eq_false_iff, Text.inRanges, List.any_eq_false,
      Bool.and_eq_true, decide_eq_true_eq] at visible
    exact visible.1.1
  have first := outside (0x0, 0x1F) (by decide)
  have second := outside (0x7F, 0xA0) (by decide)
  have separators := outside (0x2028, 0x202F) (by decide)
  unfold Steers
  omega

/-- Without colour a line shows the texts of its spans and nothing else. -/
theorem visible_line {line : Line} (visible : ∀ span ∈ line, Visible span.text) :
    Visible (line.render false) := by
  intro c inside
  rw [Line.render, String.toList_join, List.mem_flatMap] at inside
  obtain ⟨rendered, member, inside⟩ := inside
  obtain ⟨span, here, rfl⟩ := List.mem_map.mp member
  refine visible span here c ?_
  cases span <;> exact inside

theorem inert_render {lines : List Line} (visible : LinesVisible lines) :
    Inert (render false lines) := by
  have complete := completeLines_render false visible
  refine ⟨?_, ?_⟩
  · rw [complete, List.map_map]
    rfl
  · intro line member c inside
    rw [complete] at member
    obtain ⟨shown, here, rfl⟩ := List.mem_map.mp member
    exact not_steers_of_visible (visible_line (visible shown here) c inside)

theorem render_recordLine (record : Log.Record) :
    (recordLine record).render false = logLine record := by
  have level : record.level.label = filled record.level.name := by
    cases record.level <;> decide
  simp [recordLine, Line.render, Span.render, logLine, level, String.append_assoc,
    -String.reduceAppend]

theorem render_failureLine (message : String) :
    (failureLine message).render false = reportLine message := by
  simp [failureLine, Line.render, Span.render, reportLine, String.append_assoc,
    -String.reduceAppend]

/-- A command that is given no file says nothing but what is visible, also of its
failure. -/
theorem visible_failureLines (noFile : ∀ text path offset, command ≠ .test text (.file path) offset)
    (ran : CommandRun letters files command run) : LinesVisible (failureLines run.result) := by
  cases ended : run.result with
  | ok well => simp [failureLines, LinesVisible]
  | error failure =>
    have message : Visible failure.message := by
      refine visible_message fun path error same => ?_
      obtain ⟨text, offset, given, -⟩ := file_of_unreadable ran (same ▸ ended)
      exact noFile text path offset given
    have mark : Visible "[!]" := visible_words (by decide)
    have behind : Visible (" " ++ failure.message) :=
      visible_append (visible_words (by decide)) message
    unfold failureLines
    dsimp only
    split
    · simpa [LinesVisible, Span.text] using message
    · simpa [LinesVisible, failureLine, Span.text, mark] using behind

end

section

variable {environment : Environment} {files : Files} {arguments : List String}
  {invocation : Invocation} {settings : Settings} {run : Run Bool}

/-- The lines that report a result, without colour. There is one exactly if the exit
code says so. -/
theorem report_of_code (resolved : invocation.settings files = .ok settings)
    (ran : CommandRun settings.letters files invocation.command run) :
    ((failureLines run.result).map (Line.render false) = [] ∧
        (exitCode run.result = 0 ∨ exitCode run.result = 1)) ∨
      ((∃ message, (failureLines run.result).map (Line.render false) = [reportLine message]) ∧
        exitCode run.result = 2) := by
  cases ended : run.result with
  | ok well => cases well <;> simp [failureLines, exitCode]
  | error failure =>
    obtain ⟨reported, -, -⟩ := FailureReports.command_complaint resolved ran ended
    refine .inr ⟨⟨failure.message, ?_⟩, ?_⟩
    · simp [failureLines, reported, render_failureLine]
    · simp [exitCode, reported]

/-- What a run leaves on standard error, without colour, line by line. -/
theorem lines_of_stderr (uncoloured : (environment.forceColour && settings.useColor) = false)
    (visible : AllVisible run.records) (reported : LinesVisible (failureLines run.result)) :
    let emitted := shownRecords environment settings.threshold run.records
    Inert (conclude environment settings run).stderr ∧
      completeLines (conclude environment settings run).stderr =
        emitted.map logLine ++ (failureLines run.result).map (Line.render false) := by
  intro emitted
  have shown : AllVisible emitted :=
    ReportLines.allVisible_shown environment settings.threshold visible
  have lines : LinesVisible (emitted.map recordLine ++ failureLines run.result) :=
    List.forall_mem_append.mpr ⟨visible_recordLines shown, reported⟩
  have written : (conclude environment settings run).stderr =
      render false (emitted.map recordLine ++ failureLines run.result) := by
    rw [conclude, uncoloured]
  have named : Line.render false ∘ recordLine = logLine := funext render_recordLine
  rw [written]
  refine ⟨inert_render lines, ?_⟩
  rw [completeLines_render false lines, List.map_append, List.map_map, named]

/-- Whatever the texts of the pattern and the buffer hold, a run without colour that
is given no file writes whole lines in which nothing steers. On standard error there
is one line for each record that was emitted, in order, and behind them one report
if the run failed. -/
theorem texts_stay_inside_their_lines (accepted : CommandLine.read arguments = .ok invocation)
    (noSettingsFile : invocation.options.config? = none)
    (noBufferFile : ∀ text path offset, invocation.command ≠ .test text (.file path) offset)
    (colourless : environment.forceColour = false ∨ invocation.options.noColor = true) :
    let settings := invocation.options.apply .standard
    let emitted := shownRecords environment settings.threshold
      (runCommand settings.letters files invocation.command).records
    let outcome := runProgram environment files arguments
    Inert outcome.stdout ∧ Inert outcome.stderr ∧
    (∃ report, completeLines outcome.stderr = emitted.map logLine ++ report ∧
      ((report = [] ∧ (outcome.code = 0 ∨ outcome.code = 1)) ∨
        ((∃ message, report = [reportLine message]) ∧ outcome.code = 2))) ∧
    (completeLines outcome.stderr).length = emitted.length + if outcome.code = 2 then 1 else 0 := by
  intro settings emitted outcome
  have resolved : invocation.settings files = .ok settings := by
    rw [Invocation.settings, noSettingsFile]
  have uncoloured : (environment.forceColour && settings.useColor) = false := by
    rcases colourless with off | off <;> simp [settings, CommandLine.Options.apply, off]
  have ran := command_run settings.letters files invocation.command
  have concludes : outcome = conclude environment settings
      (runCommand settings.letters files invocation.command) := runProgram_resolved accepted resolved
  have stdout : Inert outcome.stdout := by
    rw [concludes, conclude, uncoloured]
    exact inert_render (visible_of_commandRun ran)
  obtain ⟨stderr, lines⟩ := lines_of_stderr uncoloured (allVisible_of_commandRun ran)
    (visible_failureLines noBufferFile ran)
  rw [← concludes] at stderr lines
  have code : outcome.code =
      exitCode (runCommand settings.letters files invocation.command).result := by
    rw [concludes]
    rfl
  have report := report_of_code resolved ran
  rw [← code] at report
  refine ⟨stdout, stderr, ⟨_, lines, report⟩, ?_⟩
  rw [lines, List.length_append, List.length_map]
  rcases report with ⟨none, succeeded⟩ | ⟨⟨message, one⟩, failed⟩
  · have noFailure : outcome.code ≠ 2 := by omega
    rw [none, if_neg noFailure]
    rfl
  · rw [one, if_pos failed]
    rfl

end

/-- A buffer whose text tries to end the line and to report something else. -/
theorem forged_report_stays_quoted :
    let forged := "5\n[!] \x1b[2J\u2028"
    let environment : Environment := ⟨true, false⟩
    let files : Files := fun _ => .error .notFound
    let arguments := ["--no-color", "-vv", "test", "A5", "--hex", "5\n[!] \x1b[2J\u2028"]
    let invocation : Invocation :=
      ⟨{ verbose := 2, noColor := true }, {}, .test "A5" (.hex forged) 0⟩
    let outcome := runProgram environment files arguments
    CommandLine.read arguments = .ok invocation ∧
      (invocation.options.config? = none ∧ invocation.options.noColor = true ∧
        ∀ text path offset, invocation.command ≠ .test text (.file path) offset) ∧
      Inert outcome.stderr ∧
      ∃ message, completeLines outcome.stderr =
        [logLine ((Reading.ofText "A5").outcomeRecord "A5"),
          logLine ((Reading.ofText forged).outcomeRecord forged), reportLine message] := by
  intro forged environment files arguments invocation outcome
  have accepted : CommandLine.read arguments = .ok invocation := rfl
  have noBufferFile : ∀ text path offset, invocation.command ≠ .test text (.file path) offset := by
    rintro text path offset ⟨⟩
  have pattern : Reading.ofText "A5" = ⟨[⟨.fixed 10, .fixed 5⟩], none⟩ := by cbv
  have buffer : Reading.ofText "5\n[!] \x1b[2J\u2028" =
      ⟨[⟨.fixed 5, .any⟩], some (.unexpectedCharacter 2 '[')⟩ := by cbv
  obtain ⟨-, stderr, ⟨report, lines, ends⟩, -⟩ := @texts_stay_inside_their_lines environment files
    arguments invocation accepted rfl noBufferFile (.inr rfl)
  have ran : runCommand .upper files invocation.command =
      ⟨readingRecords "A5" ++ readingRecords forged, [], .error (.badBuffer forged _)⟩ :=
    runCommand_eq (.tested (.noBuffer (congrArg Reading.result pattern)
      (.badText (congrArg Reading.result buffer))))
  have emitted : shownRecords environment .debug (runCommand .upper files invocation.command).records =
      [(Reading.ofText "A5").outcomeRecord "A5", (Reading.ofText forged).outcomeRecord forged] := by
    rw [ran, readingRecords, readingRecords, pattern, buffer]
    rfl
  have failed : outcome.code = 2 := by
    rw [show outcome = _ from runProgram_resolved accepted rfl, conclude]
    exact congrArg exitCode (congrArg Run.result ran)
  refine ⟨accepted, ⟨rfl, rfl, noBufferFile⟩, stderr, ?_⟩
  rcases ends with ⟨-, zero | one⟩ | ⟨⟨message, rfl⟩, -⟩
  · exact absurd (failed.symm.trans zero) (by decide)
  · exact absurd (failed.symm.trans one) (by decide)
  · refine ⟨message, lines.trans ?_⟩
    exact congrArg (·.map logLine ++ [reportLine message]) emitted

end HexPattern.LineIntegrity
