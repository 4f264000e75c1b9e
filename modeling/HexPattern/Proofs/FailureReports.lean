import HexPattern.Proofs.LoadedSettings
import HexPattern.Proofs.ReportLines
import HexPattern.Proofs.TestVerdict

/-! Failing runs. Each stage of a run has its own ways to go wrong, which are
laid down here without regard to the other stages, so that several may be at
fault at once. A run fails exactly if some stage is at fault; it then prints
nothing and reports what the first such stage has to complain of, once and at
the end. An inspection that has begun to print comes to its end. -/
namespace HexPattern.FailureReports
open CommandLine (BufferSource Command Invocation)
open CommandRuns LoadedSettings ReportLines Session TestVerdict
open VisibleText (AllVisible allVisible_of_commandRun)

/-- Where a run can go wrong, in the order in which it gets there. -/
inductive Stage where
  | settingsFile
  | settingsText
  | settingsRange
  | patternText
  | buffer
  | bufferBytes
  | bounds

/-- The number of a stage in their order. -/
def Stage.place : Stage → Nat
  | settingsFile => 0
  | settingsText => 1
  | settingsRange => 2
  | patternText => 3
  | buffer => 4
  | bufferBytes => 5
  | bounds => 6

/-- The text of the pattern that a command is about. -/
def patternOf : Command → String
  | .inspect text => text
  | .test text _ _ => text

/-- What a stage has to complain of, taken by itself. -/
inductive Complaint (files : Files) (invocation : Invocation) : Stage → String → Prop
  | settingsFile {path error} (asked : invocation.options.config? = some path)
      (refused : files.readText path = .error error) :
      Complaint files invocation .settingsFile
        ("reading config " ++ path ++ ": " ++ error.message)
  | settingsText {path text failure} (asked : invocation.options.config? = some path)
      (found : files.readText path = .ok text) (refused : Settings.ofJson text = .error failure) :
      Complaint files invocation .settingsText
        ("parsing config " ++ path ++ ": " ++ failure.message text.toList)
  | settingsRange {path text settings} (asked : invocation.options.config? = some path)
      (found : files.readText path = .ok text) (read : Settings.ofJson text = .ok settings)
      (large : 3 < settings.verbosity.toNat) :
      Complaint files invocation .settingsRange "verbosity must be between 0 and 3"
  | patternText {text fault} (given : patternOf invocation.command = text)
      (refused : Pattern.ofText text = .error fault) :
      Complaint files invocation .patternText
        ("parsing pattern " ++ Text.quoted text ++ ": " ++ fault.message)
  | bufferText {text hex offset fault} (given : invocation.command = .test text (.hex hex) offset)
      (refused : Pattern.ofText hex = .error fault) :
      Complaint files invocation .buffer
        ("parsing buffer " ++ Text.quoted hex ++ ": " ++ fault.message)
  | bufferFile {text path offset error} (given : invocation.command = .test text (.file path) offset)
      (refused : files path = .error error) :
      Complaint files invocation .buffer ("reading " ++ path ++ ": " ++ error.message)
  | bufferBytes {text hex offset pattern fault}
      (given : invocation.command = .test text (.hex hex) offset)
      (read : Pattern.ofText hex = .ok pattern) (noBytes : pattern.toBytes = .error fault) :
      Complaint files invocation .bufferBytes
        ("buffer must not contain wildcards: " ++ fault.message)
  | bounds {text source offset pattern buffer}
      (given : invocation.command = .test text source offset)
      (read : Pattern.ofText text = .ok pattern) (held : Holds files source buffer)
      (leaves : UInt64.size ≤ offset + pattern.length ∨ buffer.length < offset + pattern.length) :
      Complaint files invocation .bounds
        ("pattern of " ++ toString pattern.length ++ " bytes at offset " ++ Offset.hexText offset
          ++ " runs past the end of a " ++ toString buffer.length ++ " byte buffer")

/-- A complaint of a stage that no stage before it shares. -/
structure FirstComplaint (files : Files) (invocation : Invocation) (stage : Stage)
    (message : String) : Prop where
  complains : Complaint files invocation stage message
  silentBefore : ∀ earlier said, earlier.place < stage.place →
    ¬ Complaint files invocation earlier said

variable {files : Files} {invocation : Invocation} {settings : Settings} {letters : LetterCase}
  {run : Run Bool} {failure : Failure} {stage : Stage} {message : String}

/-- Settings in force leave the stages before the command without complaint. -/
theorem settings_silent (resolved : invocation.settings files = .ok settings)
    (early : stage.place < Stage.patternText.place) : ¬ Complaint files invocation stage message := by
  have taken : ∀ path error, invocation.options.config? = some path →
      ¬ Loads files path (.error error) := by
    intro path error asked refused
    cases resolved.symm.trans (settings_error_iff.mpr ⟨path, asked, refused⟩)
  intro complaint
  cases complaint with
  | settingsFile asked refused => exact taken _ _ asked (.unreadable refused)
  | settingsText asked found refused => exact taken _ _ asked (.notDocument found refused)
  | settingsRange asked found read large => exact taken _ _ asked (.invalid found read large)
  | _ => exact absurd early (by decide)

/-- Settings in force leave only the command's own stages to be looked at. -/
theorem silent_of_settings (resolved : invocation.settings files = .ok settings)
    (late : Stage.patternText.place ≤ stage.place → ¬ Complaint files invocation stage message) :
    ¬ Complaint files invocation stage message := by
  by_cases early : stage.place < Stage.patternText.place
  · exact settings_silent resolved early
  · exact late (Nat.le_of_not_lt early)

theorem first_complaint (resolved : invocation.settings files = .ok settings)
    (complains : Complaint files invocation stage message)
    (silent : ∀ earlier said, Stage.patternText.place ≤ earlier.place →
      earlier.place < stage.place → ¬ Complaint files invocation earlier said) :
    FirstComplaint files invocation stage message := by
  refine ⟨complains, ?_⟩
  intro earlier said before
  exact silent_of_settings resolved fun late => silent earlier said late before

section

variable {path text : String}

theorem file_silent (asked : invocation.options.config? = some path)
    (found : files.readText path = .ok text) :
    ¬ Complaint files invocation .settingsFile message := by
  intro complaint
  cases complaint with
  | settingsFile askedToo refused =>
    cases asked.symm.trans askedToo
    cases found.symm.trans refused

theorem document_silent (asked : invocation.options.config? = some path)
    (found : files.readText path = .ok text) (read : Settings.ofJson text = .ok settings) :
    ¬ Complaint files invocation .settingsText message := by
  intro complaint
  cases complaint with
  | settingsText askedToo foundToo refused =>
    cases asked.symm.trans askedToo
    cases found.symm.trans foundToo
    cases read.symm.trans refused

end

/-- Without settings, the complaint is about the file, or about its text, or
about the verbosity, and about nothing before that. -/
theorem settings_complaint {error : Settings.LoadError}
    (failed : invocation.settings files = .error error) :
    ∃ stage, FirstComplaint files invocation stage error.message := by
  obtain ⟨path, asked, came⟩ := settings_error_iff.mp failed
  cases came with
  | unreadable refused =>
    refine ⟨_, .settingsFile asked refused, ?_⟩
    intro earlier said early
    exact absurd early (Nat.not_lt_zero _)
  | notDocument found refused =>
    refine ⟨_, .settingsText asked found refused, ?_⟩
    intro earlier said early
    cases earlier with
    | settingsFile => exact file_silent asked found
    | _ => exact absurd early (by decide)
  | invalid found read large =>
    refine ⟨_, .settingsRange asked found read large, ?_⟩
    intro earlier said early
    cases earlier with
    | settingsFile => exact file_silent asked found
    | settingsText => exact document_silent asked found read
    | _ => exact absurd early (by decide)

section

variable {text : String} {source : BufferSource} {offset : Nat} {records : List Log.Record}
  {pattern : Pattern} {buffer : List UInt8}

theorem pattern_silent (given : patternOf invocation.command = text)
    (read : Pattern.ofText text = .ok pattern) :
    ¬ Complaint files invocation .patternText message := by
  intro complaint
  cases complaint with
  | patternText givenToo refused =>
    cases given.symm.trans givenToo
    cases read.symm.trans refused

theorem buffer_silent (given : invocation.command = .test text source offset)
    (held : BufferRun files source ⟨records, [], .ok buffer⟩) :
    ¬ Complaint files invocation .buffer message ∧
      ¬ Complaint files invocation .bufferBytes message := by
  refine ⟨?_, ?_⟩
  · intro complaint
    cases complaint with
    | bufferText givenToo refused =>
      cases given.symm.trans givenToo
      cases bufferRun_unique held (.badText refused)
    | bufferFile givenToo refused =>
      cases given.symm.trans givenToo
      cases bufferRun_unique held (.unreadable refused)
  · intro complaint
    cases complaint with
    | bufferBytes givenToo read noBytes =>
      cases given.symm.trans givenToo
      cases bufferRun_unique held (.openText read noBytes)

/-- A source that cannot be read is complained of at its own stage, and the one
stage before that is silent if it is not the first. -/
theorem buffer_complaint (given : invocation.command = .test text source offset)
    (missing : BufferRun files source ⟨records, [], .error failure⟩) :
    ∃ stage, Complaint files invocation stage failure.message ∧
      stage.place ≤ Stage.bufferBytes.place ∧
      ∀ earlier said, Stage.buffer.place ≤ earlier.place → earlier.place < stage.place →
        ¬ Complaint files invocation earlier said := by
  cases missing with
  | badText refused =>
    refine ⟨_, .bufferText given refused, by decide, ?_⟩
    intro earlier said late early
    exact absurd early (Nat.not_lt_of_le late)
  | unreadable refused =>
    refine ⟨_, .bufferFile given refused, by decide, ?_⟩
    intro earlier said late early
    exact absurd early (Nat.not_lt_of_le late)
  | openText read noBytes =>
    refine ⟨_, .bufferBytes given read noBytes, by decide, ?_⟩
    intro earlier said late early complaint
    cases complaint with
    | bufferText givenToo refused =>
      cases given.symm.trans givenToo
      cases read.symm.trans refused
    | bufferFile givenToo refused => cases given.symm.trans givenToo
    | bufferBytes _ _ _ => exact absurd early (by decide)
    | bounds _ _ _ _ => exact absurd early (by decide)
    | _ => exact absurd late (by decide)

end

section

variable {text : String} {source : BufferSource} {offset : Nat} {pattern : Pattern}

theorem test_complaint (resolved : invocation.settings files = .ok settings)
    (given : invocation.command = .test text source offset)
    (ran : TestRun letters files text source offset run) (failed : run.result = .error failure) :
    failure.isAbrupt = false ∧ run.lines = [] ∧
      ∃ stage, FirstComplaint files invocation stage failure.message := by
  have patternGiven : patternOf invocation.command = text := by rw [given, patternOf]
  cases ran with
  | badPattern refused =>
    cases failed
    refine ⟨rfl, rfl, _, first_complaint resolved (.patternText patternGiven refused) ?_⟩
    intro earlier said late early
    exact absurd early (Nat.not_lt_of_le late)
  | noBuffer read missing =>
    cases failed
    obtain ⟨stage, complains, bounded, silent⟩ := buffer_complaint given missing
    refine ⟨missing_not_abrupt missing, rfl, stage, first_complaint resolved complains ?_⟩
    intro earlier said late early
    cases earlier with
    | patternText => exact pattern_silent patternGiven read
    | buffer => exact silent _ said (by decide) early
    | bufferBytes => exact silent _ said (by decide) early
    | bounds => exact absurd (Nat.lt_of_lt_of_le early bounded) (by decide)
    | _ => exact absurd late (by decide)
  | @outside pattern _ buffer read held leaves =>
    cases failed
    have leavesBy : UInt64.size ≤ offset + pattern.length ∨
        buffer.length < offset + pattern.length := by
      rw [← Bool.not_eq_true, staysInside_iff] at leaves
      omega
    have complains := Complaint.bounds given read (holds_iff_run.mpr ⟨_, held⟩) leavesBy
    refine ⟨rfl, rfl, _, first_complaint resolved complains ?_⟩
    intro earlier said late early
    cases earlier with
    | patternText => exact pattern_silent patternGiven read
    | buffer => exact (buffer_silent given held).1
    | bufferBytes => exact (buffer_silent given held).2
    | bounds => exact absurd early (by decide)
    | _ => exact absurd late (by decide)
  | compared read held inside answer => cases failed

/-- A test that comes to a verdict leaves nothing to complain of. -/
theorem test_silent (resolved : invocation.settings files = .ok settings)
    (given : invocation.command = .test text source offset)
    (ran : TestRun letters files text source offset run) {matched : Bool}
    (came : run.result = .ok matched) : ¬ Complaint files invocation stage message := by
  have patternGiven : patternOf invocation.command = text := by rw [given, patternOf]
  cases ran with
  | badPattern refused => cases came
  | noBuffer read missing => cases came
  | outside read held leaves => cases came
  | compared read held inside answer =>
    refine silent_of_settings resolved fun late => ?_
    cases stage with
    | patternText => exact pattern_silent patternGiven read
    | buffer => exact (buffer_silent given held).1
    | bufferBytes => exact (buffer_silent given held).2
    | bounds =>
      intro complaint
      cases complaint with
      | bounds givenToo readToo heldToo leaves =>
        cases given.symm.trans givenToo
        cases read.symm.trans readToo
        obtain ⟨_, ranToo⟩ := holds_iff_run.mp heldToo
        cases bufferRun_unique held ranToo
        rw [staysInside_iff] at inside
        omega
    | _ => exact absurd late (by decide)

theorem inspect_complaint (resolved : invocation.settings files = .ok settings)
    (given : invocation.command = .inspect text) {inspected : Run Unit}
    (ran : InspectRun letters text inspected) (failed : inspected.result = .error failure) :
    failure.isAbrupt = false ∧ inspected.lines = [] ∧
      ∃ stage, FirstComplaint files invocation stage failure.message := by
  have patternGiven : patternOf invocation.command = text := by rw [given, patternOf]
  cases ran with
  | badPattern refused =>
    cases failed
    refine ⟨rfl, rfl, _, first_complaint resolved (.patternText patternGiven refused) ?_⟩
    intro earlier said late early
    exact absurd early (Nat.not_lt_of_le late)
  | withoutBytes read wild => cases failed
  | withBytes read closed found => cases failed

/-- An inspection knows no stage behind the text of the pattern. -/
theorem inspect_silent (resolved : invocation.settings files = .ok settings)
    (given : invocation.command = .inspect text) (read : Pattern.ofText text = .ok pattern) :
    ¬ Complaint files invocation stage message := by
  have patternGiven : patternOf invocation.command = text := by rw [given, patternOf]
  refine silent_of_settings resolved fun late => ?_
  cases stage with
  | patternText => exact pattern_silent patternGiven read
  | buffer =>
    intro complaint
    cases complaint with
    | bufferText givenToo refused => cases given.symm.trans givenToo
    | bufferFile givenToo refused => cases given.symm.trans givenToo
  | bufferBytes =>
    intro complaint
    cases complaint with
    | bufferBytes givenToo readIn noBytes => cases given.symm.trans givenToo
  | bounds =>
    intro complaint
    cases complaint with
    | bounds givenToo readIn held leaves => cases given.symm.trans givenToo
  | _ => exact absurd late (by decide)

end

theorem command_complaint (resolved : invocation.settings files = .ok settings)
    (ran : CommandRun letters files invocation.command run) (failed : run.result = .error failure) :
    failure.isAbrupt = false ∧ run.lines = [] ∧
      ∃ stage, FirstComplaint files invocation stage failure.message := by
  generalize given : invocation.command = command at ran
  cases ran with
  | refused inspected =>
    cases failed
    exact inspect_complaint resolved given inspected rfl
  | inspected inspected => cases failed
  | tested tested => exact test_complaint resolved given tested failed

theorem command_silent (resolved : invocation.settings files = .ok settings)
    (ran : CommandRun letters files invocation.command run) {well : Bool}
    (came : run.result = .ok well) : ¬ Complaint files invocation stage message := by
  generalize given : invocation.command = command at ran
  cases ran with
  | refused inspected => cases came
  | inspected inspected =>
    cases inspected with
    | withoutBytes read wild => exact inspect_silent resolved given read
    | withBytes read closed found => exact inspect_silent resolved given read
  | tested tested => exact test_silent resolved given tested came

/-- A failing run: nothing is printed, and one report comes last, which is the
first complaint there is. -/
structure EndsInReport (files : Files) (invocation : Invocation) (outcome : Outcome) : Prop where
  code : outcome.code = 2
  nothingPrinted : outcome.stdout = ""
  reported : ∃ log colour stage message, HoldsNoReport log ∧
    FirstComplaint files invocation stage message ∧
    outcome.stderr = log ++ reportText colour message

/-- A run that comes to its end: there is no report and nothing to report. -/
structure EndsInVerdict (files : Files) (invocation : Invocation) (outcome : Outcome) : Prop where
  code : outcome.code = 0 ∨ outcome.code = 1
  unreported : HoldsNoReport outcome.stderr
  silent : ∀ stage message, ¬ Complaint files invocation stage message

theorem stderr_of_conclude (environment : Environment) (settings : Settings) {run : Run Bool}
    (visible : AllVisible run.records) :
    ∃ log, HoldsNoReport log ∧
      (conclude environment settings run).stderr =
        log ++ Terminal.render (environment.forceColour && settings.useColor)
          (failureLines run.result) := by
  have shown := allVisible_shown environment settings.threshold visible
  exact ⟨_, records_hold_no_report (environment.forceColour && settings.useColor) shown,
    stderr_eq environment settings run⟩

/-- Every accepted command line ends in one of the two ways. -/
theorem execute_ends (environment : Environment) (files : Files) (invocation : Invocation) :
    EndsInReport files invocation (execute environment files invocation) ∨
      EndsInVerdict files invocation (execute environment files invocation) := by
  unfold execute
  cases resolved : invocation.settings files with
  | error error =>
    obtain ⟨stage, first⟩ := settings_complaint resolved
    have nothing : HoldsNoReport "" := ⟨[], by simp⟩
    refine Or.inl ⟨rfl, rfl, "", environment.forceColour, stage, _, nothing, first, ?_⟩
    simp [reportText_eq]
  | ok settings =>
    have ran := command_run settings.letters files invocation.command
    dsimp only
    generalize runCommand settings.letters files invocation.command = run at ran ⊢
    obtain ⟨log, plain, stderr⟩ :=
      stderr_of_conclude environment settings (allVisible_of_commandRun ran)
    cases ended : run.result with
    | error failure =>
      obtain ⟨reported, quiet, stage, first⟩ := command_complaint resolved ran ended
      have report : failureLines run.result = [failureLine failure.message] := by
        simp [failureLines, ended, reported]
      rw [report, ← reportText_eq] at stderr
      refine Or.inl ⟨?_, ?_, log, _, stage, _, plain, first, stderr⟩
      · simp [conclude, ended, exitCode, reported]
      · simp [conclude, quiet, Terminal.render]
    | ok well =>
      refine Or.inr ⟨?_, ?_, fun stage message => command_silent resolved ran ended⟩
      · cases well <;> simp [conclude, ended, exitCode]
      · rw [stderr, ended]
        simpa [failureLines, Terminal.render] using plain

theorem inspect_code_ne_one {environment : Environment} {text : String}
    (given : invocation.command = .inspect text) :
    (execute environment files invocation).code ≠ 1 := by
  unfold execute
  cases invocation.settings files with
  | error error => simp
  | ok settings =>
    have ran := command_run settings.letters files invocation.command
    dsimp only
    generalize runCommand settings.letters files invocation.command = run at ran ⊢
    rw [given] at ran
    cases ran with
    | refused inspected =>
      simp only [conclude, exitCode]
      split <;> decide
    | inspected inspected => simp [conclude, exitCode]

/-- An inspection succeeds exactly if there are settings and a pattern. -/
theorem inspect_code_eq_zero {environment : Environment} {text : String}
    (given : invocation.command = .inspect text) :
    (execute environment files invocation).code = 0 ↔
      (∃ settings, invocation.settings files = .ok settings) ∧
        ∃ pattern, Pattern.ofText text = .ok pattern := by
  have patternGiven : patternOf invocation.command = text := by rw [given, patternOf]
  constructor
  · intro succeeded
    obtain report | verdict := execute_ends environment files invocation
    · exact absurd (succeeded.symm.trans report.code) (by decide)
    · refine ⟨?_, ?_⟩
      · cases resolved : invocation.settings files with
        | error error =>
          obtain ⟨stage, first⟩ := settings_complaint resolved
          exact absurd first.complains (verdict.silent _ _)
        | ok settings => exact ⟨settings, rfl⟩
      · cases read : Pattern.ofText text with
        | error fault => exact absurd (.patternText patternGiven read) (verdict.silent _ _)
        | ok pattern => exact ⟨pattern, rfl⟩
  · rintro ⟨⟨settings, resolved⟩, pattern, read⟩
    obtain report | verdict := execute_ends environment files invocation
    · obtain ⟨_, _, stage, message, _, first, _⟩ := report.reported
      exact absurd first.complains (inspect_silent resolved given read)
    · exact verdict.code.resolve_right (inspect_code_ne_one given)

/-- An accepted command line ends with 0, 1 or 2. With 2 it prints nothing and
reports the first stage at fault, and otherwise there is no report and no stage
is at fault. An inspection succeeds exactly if there are settings and a pattern,
and a pattern without open cells has the bytes that are printed last. -/
theorem failing_stage_is_reported {environment : Environment} {arguments : List String}
    (accepted : CommandLine.read arguments = .ok invocation) :
    let outcome := runProgram environment files arguments
    (outcome.code = 0 ∨ outcome.code = 1 ∨ outcome.code = 2) ∧
    (outcome.code = 2 → EndsInReport files invocation outcome) ∧
    (outcome.code = 0 ∨ outcome.code = 1 → EndsInVerdict files invocation outcome) ∧
    ∀ text, invocation.command = .inspect text →
      (outcome.code = 0 ↔ (∃ settings, invocation.settings files = .ok settings) ∧
        ∃ pattern, Pattern.ofText text = .ok pattern) ∧
      outcome.code ≠ 1 ∧
      ∀ pattern, Pattern.ofText text = .ok pattern → pattern.hasWildcards = false →
        ∃ bytes, pattern.toBytes = .ok bytes := by
  have runs : runProgram environment files arguments = execute environment files invocation := by
    rw [runProgram, accepted]
  rw [runs]
  have ends := execute_ends environment files invocation
  refine ⟨?_, ?_, ?_, ?_⟩
  · obtain report | verdict := ends
    · exact Or.inr (Or.inr report.code)
    · exact verdict.code.imp_right Or.inl
  · intro failed
    refine ends.resolve_right fun verdict => ?_
    have code := verdict.code
    omega
  · intro came
    refine ends.resolve_left fun report => ?_
    have code := report.code
    omega
  · intro text given
    refine ⟨inspect_code_eq_zero given, inspect_code_ne_one given, ?_⟩
    intro pattern read closed
    exact OpenCells.toBytes_ok_iff.mpr closed

/-- Of a pattern, a buffer and a file that are all at fault, the file is reported. -/
theorem settings_reported_first :
    let arguments := ["--config", "none.json", "test", "G", "--hex", "5?"]
    let invocation : Invocation :=
      ⟨{ config? := some "none.json" }, {}, .test "G" (.hex "5?") 0⟩
    let files : Files := fun _ => .error .notFound
    let outcome := runProgram ⟨true, false⟩ files arguments
    CommandLine.read arguments = .ok invocation ∧
      (∃ message, Complaint files invocation .patternText message) ∧
      (∃ message, Complaint files invocation .bufferBytes message) ∧
      outcome.code = 2 ∧ EndsInReport files invocation outcome := by
  intro arguments invocation files outcome
  have accepted : CommandLine.read arguments = .ok invocation := rfl
  have given : patternOf invocation.command = "G" := rfl
  have refused : Pattern.ofText "G" = .error (.unexpectedCharacter 0 'G') := by cbv
  have source : invocation.command = .test "G" (.hex "5?") 0 := rfl
  have read : Pattern.ofText "5?" = .ok (.ofCells [⟨.fixed 5, .any⟩]) := by cbv
  have pattern : Complaint files invocation .patternText _ := .patternText given refused
  have buffer : Complaint files invocation .bufferBytes _ := .bufferBytes source read rfl
  obtain ⟨codes, report, verdict, -⟩ :=
    @failing_stage_is_reported files invocation ⟨true, false⟩ arguments accepted
  have code : outcome.code = 2 := by
    rcases codes with zero | one | two
    · exact absurd pattern ((verdict (.inl zero)).silent _ _)
    · exact absurd pattern ((verdict (.inr one)).silent _ _)
    · exact two
  exact ⟨accepted, ⟨_, pattern⟩, ⟨_, buffer⟩, code, report code⟩

end HexPattern.FailureReports
