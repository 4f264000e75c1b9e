import HexPattern.Proofs.FailureReports
import HexPattern.Proofs.PrintedLines

/-! Verbosity is for the observer only. What a command does and prints does not
depend on it, and the log of a run with little detail is the log of the same run
with more detail, less the lines of the levels in between. The level of a line is
read off the line itself, by the name that it opens with. The report of a failure
is no part of the log: it stays when the log is cut down, and it is all that is
left when the log is silenced. -/
namespace HexPattern.LogFiltering
open CommandLine (Invocation)
open CommandRuns PrintedLines ReportLines Session Terminal
open VisibleText (AllVisible allVisible_of_commandRun)

variable {colour : Bool} {records : List Log.Record}

/-- The level that a line of the log opens with. -/
def levelOf? (colour : Bool) (line : String) : Option Log.Level :=
  [.warn, .info, .debug, .trace].find? fun level => (behindLabel? (opening colour level) line).isSome

/-- Whether a line stays when a threshold is set. Only lines of the log go. -/
def stays (colour : Bool) (threshold : Log.Level) (line : String) : Bool :=
  match levelOf? colour line with
  | none => true
  | some level => level.detail ≤ threshold.detail

/-- A text without the lines that are more detailed than the threshold. -/
def withoutDetail (colour : Bool) (threshold : Log.Level) (text : String) : String :=
  String.join (((completeLines text).filter (stays colour threshold)).map (· ++ "\n"))

/-- Whole lines, each of which opens with a level. -/
def HoldsLog (colour : Bool) (text : String) : Prop :=
  ∃ lines : List String, text = String.join (lines.map (· ++ "\n")) ∧
    ∀ line ∈ lines, '\n' ∉ line.toList ∧ (levelOf? colour line).isSome

/-- No level opens as another does. -/
theorem levelOf?_record (colour : Bool) (record : Log.Record) :
    levelOf? colour ((recordLine record).render colour) = some record.level := by
  rw [record_render, String.append_assoc, String.append_assoc]
  generalize " " ++ _ = rest
  cases colour <;> cases record.level <;>
    simp (disch := decide) only [levelOf?, List.find?_cons, behindLabel_self, behindLabel_apart,
      Option.isSome_some, Option.isSome_none]

theorem stays_record (colour : Bool) (threshold : Log.Level) (record : Log.Record) :
    stays colour threshold ((recordLine record).render colour) = record.shownAt threshold := by
  rw [stays, levelOf?_record]
  rfl

theorem holdsLog_records (visible : AllVisible records) :
    HoldsLog colour (render colour (records.map recordLine)) := by
  refine ⟨records.map fun record => (recordLine record).render colour, ?_, ?_⟩
  · simp [render, Function.comp_def]
  · intro line member
    obtain ⟨record, here, rfl⟩ := List.mem_map.mp member
    refine ⟨no_feed_in_record colour (visible record here), ?_⟩
    rw [levelOf?_record]
    rfl

/-- Deleting lines is the same as dropping records. -/
theorem withoutDetail_records (threshold : Log.Level) (visible : AllVisible records) :
    withoutDetail colour threshold (render colour (records.map recordLine)) =
      render colour ((Log.kept threshold records).map recordLine) := by
  have same : (stays colour threshold ∘ Line.render colour) ∘ recordLine =
      Log.Record.shownAt threshold := funext (stays_record colour threshold)
  rw [withoutDetail, completeLines_render colour (visible_recordLines visible), List.filter_map,
    List.filter_map, same, List.map_map]
  rfl

theorem kept_kept {threshold detailed : Log.Level} (less : threshold.detail ≤ detailed.detail)
    (records : List Log.Record) :
    Log.kept threshold (Log.kept detailed records) = Log.kept threshold records := by
  rw [Log.kept, Log.kept, List.filter_filter]
  refine List.filter_congr fun record _ => ?_
  simp only [Log.Record.shownAt]
  by_cases shown : record.level.detail ≤ threshold.detail
  · simp [shown, Nat.le_trans shown less]
  · simp [shown]

/-- More verbosity asks for no lower a threshold. -/
theorem ofVerbosity_mono {verbosity detailed : Nat} (less : verbosity ≤ detailed) :
    (Log.Level.ofVerbosity verbosity).detail ≤ (Log.Level.ofVerbosity detailed).detail := by
  have level : ∀ verbosity, (Log.Level.ofVerbosity verbosity).detail = min verbosity 3 := by
    intro verbosity
    match verbosity with
    | 0 => rfl
    | 1 => rfl
    | 2 => rfl
    | more + 3 => exact (Nat.min_eq_right (Nat.le_add_left 3 more)).symm
  rw [level, level]
  omega

/-- A command ends without a report or with one. -/
theorem report_shape {files : Files} {invocation : Invocation} {settings : Settings}
    {letters : LetterCase} {run : Run Bool} (colour : Bool)
    (resolved : invocation.settings files = .ok settings)
    (ran : CommandRun letters files invocation.command run) :
    render colour (failureLines run.result) = "" ∨
      ∃ message, render colour (failureLines run.result) = reportText colour message := by
  cases ended : run.result with
  | ok well => exact .inl rfl
  | error failure =>
    obtain ⟨reported, -, -⟩ := FailureReports.command_complaint resolved ran ended
    refine .inr ⟨failure.message, ?_⟩
    rw [failureLines, reported, reportText_eq]
    rfl

/-- One run under two verbosities and in silence: the log of the brief outcome is
cut from that of the detailed one, and the report stays. -/
theorem stderr_filtered (forceColour : Bool) {settings : Settings} {detailed : UInt8} {run : Run Bool}
    (visible : AllVisible run.records) (less : settings.verbosity ≤ detailed) :
    let colour := forceColour && settings.useColor
    let log := render colour ((Log.kept (.ofVerbosity detailed.toNat) run.records).map recordLine)
    let report := render colour (failureLines run.result)
    HoldsLog colour log ∧
      (conclude ⟨forceColour, false⟩ { settings with verbosity := detailed } run).stderr =
        log ++ report ∧
      (conclude ⟨forceColour, false⟩ settings run).stderr =
        withoutDetail colour settings.threshold log ++ report ∧
      (conclude ⟨forceColour, true⟩ settings run).stderr = report := by
  intro colour log report
  have shown : AllVisible (Log.kept (.ofVerbosity detailed.toNat) run.records) :=
    allVisible_shown ⟨forceColour, false⟩ _ visible
  have fewer := kept_kept (ofVerbosity_mono (UInt8.le_iff_toNat_le.mp less)) run.records
  refine ⟨holdsLog_records shown, ?_, ?_, ?_⟩
  · exact stderr_eq ⟨forceColour, false⟩ { settings with verbosity := detailed } run
  · rw [stderr_eq, withoutDetail_records _ shown, Settings.threshold, fewer]
    rfl
  · rw [stderr_eq]
    exact String.empty_append

/-- Two runs of one command that differ in verbosity, and a third one with the
log silenced, do and print the same. -/
theorem verbosity_filters_log {forceColour : Bool} {files otherFiles : Files}
    {arguments otherArguments : List String} {invocation other : Invocation} {settings : Settings}
    {detailed : UInt8} (accepted : CommandLine.read arguments = .ok invocation)
    (acceptedToo : CommandLine.read otherArguments = .ok other)
    (sameCommand : other.command = invocation.command)
    (sameBuffer : SameBuffer files otherFiles invocation.command)
    (resolved : invocation.settings files = .ok settings)
    (resolvedToo : other.settings otherFiles = .ok { settings with verbosity := detailed })
    (less : settings.verbosity ≤ detailed) :
    let colour := forceColour && settings.useColor
    let brief := runProgram ⟨forceColour, false⟩ files arguments
    let full := runProgram ⟨forceColour, false⟩ otherFiles otherArguments
    let silent := runProgram ⟨forceColour, true⟩ files arguments
    (full.code = brief.code ∧ full.stdout = brief.stdout) ∧
    (silent.code = brief.code ∧ silent.stdout = brief.stdout) ∧
    ∃ log report, HoldsLog colour log ∧
      (report = "" ∨ ∃ message, report = reportText colour message) ∧
      full.stderr = log ++ report ∧
      brief.stderr = withoutDetail colour settings.threshold log ++ report ∧
      silent.stderr = report := by
  intro colour brief full silent
  have ran := command_run settings.letters files invocation.command
  have concludes : ∀ environment, runProgram environment files arguments =
      conclude environment settings (runCommand settings.letters files invocation.command) :=
    fun environment => runProgram_resolved accepted resolved
  have concludesToo : full = conclude ⟨forceColour, false⟩ { settings with verbosity := detailed }
      (runCommand settings.letters files invocation.command) := by
    rw [← runCommand_sameBuffer settings.letters sameBuffer, ← sameCommand]
    exact runProgram_resolved acceptedToo resolvedToo
  -- From here on there is one run, and only its outcomes differ.
  rw [show brief = _ from concludes _, show silent = _ from concludes _, concludesToo]
  generalize runCommand settings.letters files invocation.command = run at ran
  obtain ⟨holds, whole, part, rest⟩ :=
    stderr_filtered forceColour (allVisible_of_commandRun ran) less
  exact ⟨⟨rfl, rfl⟩, ⟨rfl, rfl⟩, _, _, holds, report_shape colour resolved ran, whole, part, rest⟩

theorem empty_pattern_with_and_without_detail :
    let files : Files := fun _ => .error .notFound
    let invocation : Invocation := ⟨{}, {}, .inspect ""⟩
    let other : Invocation := ⟨{ verbose := 3 }, {}, .inspect ""⟩
    let brief := runProgram ⟨true, false⟩ files ["inspect", ""]
    let full := runProgram ⟨true, false⟩ files ["-vvv", "inspect", ""]
    (CommandLine.read ["inspect", ""] = .ok invocation ∧
      CommandLine.read ["-vvv", "inspect", ""] = .ok other) ∧
    (other.command = invocation.command ∧ SameBuffer files files invocation.command) ∧
    (invocation.settings files = .ok .standard ∧
      other.settings files = .ok { Settings.standard with verbosity := 3 } ∧
      Settings.standard.verbosity ≤ 3) ∧
    full.code = brief.code ∧ full.stdout = brief.stdout ∧
    ∃ log report, HoldsLog true log ∧ full.stderr = log ++ report ∧
      brief.stderr = withoutDetail true .warn log ++ report := by
  intro files invocation other brief full
  have accepted : CommandLine.read ["inspect", ""] = .ok invocation := rfl
  have acceptedToo : CommandLine.read ["-vvv", "inspect", ""] = .ok other := rfl
  have resolved : invocation.settings files = .ok .standard := rfl
  have resolvedToo : other.settings files = .ok { Settings.standard with verbosity := 3 } := rfl
  have less : Settings.standard.verbosity ≤ 3 := by decide
  obtain ⟨⟨code, stdout⟩, -, log, report, holds, -, whole, part, -⟩ :=
    @verbosity_filters_log true files files _ _ _ _ _ _ accepted acceptedToo rfl trivial resolved
      resolvedToo less
  exact ⟨⟨accepted, acceptedToo⟩, ⟨rfl, trivial⟩, ⟨resolved, resolvedToo, less⟩, code, stdout, log,
    report, holds, whole, part⟩

end HexPattern.LogFiltering
