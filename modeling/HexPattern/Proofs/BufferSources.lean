import HexPattern.Proofs.LogFiltering

/-! The buffer of a test may be given as text or as a file. Once its bytes are
there, nothing asks again where they came from: what a test compares, prints and
comes to depends on the bytes alone, and so does what it reports, but for the
records of the text of the buffer being read. So a test with a text and one with
a file of the bytes that the text stands for end alike. On standard error the
first has the lines of these records behind those of the pattern, and no others
more, and there is none to be seen unless detail was asked for twice. -/
namespace HexPattern.BufferSources
open CommandLine (BufferSource Invocation)
open CommandRuns LogFiltering PrintedLines ReportLines Session Terminal
open VisibleText (allVisible_reading)

/-- Records as they stand on standard error. -/
def logText (environment : Environment) (settings : Settings) (records : List Log.Record) : String :=
  render (environment.forceColour && settings.useColor)
    ((shownRecords environment settings.threshold records).map recordLine)

section

variable (letters : LetterCase) (files : Files) {text : String} {pattern : Pattern} (offset : Nat)

/-- A text that is no pattern ends a test before its buffer is asked for. -/
theorem test_of_refused {fault : Fault} (refused : Pattern.ofText text = .error fault)
    (source : BufferSource) :
    test letters files text source offset =
      ⟨readingRecords text, [], .error (.badPattern text fault)⟩ :=
  test_eq (.badPattern refused)

/-- Once the bytes are there, only the records of getting them tell one source
from another. -/
theorem test_of_buffer (read : Pattern.ofText text = .ok pattern) (buffer : List UInt8) :
    ∃ later : Run Bool, ∀ source records, BufferRun files source ⟨records, [], .ok buffer⟩ →
      test letters files text source offset =
        ⟨readingRecords text ++ records ++ later.records, later.lines, later.result⟩ := by
  cases inside : staysInside pattern.length offset buffer.length with
  | false =>
    refine ⟨.fail (.outOfBounds pattern.length offset buffer.length), ?_⟩
    intro source records held
    rw [test_eq (.outside read held inside), Run.fail, List.append_nil]
  | true =>
    obtain ⟨⟨matched, answer⟩, -⟩ := answers_inside inside
    refine ⟨⟨[testRecord pattern offset], comparedLines letters pattern
      ((buffer.drop offset).take pattern.length) matched offset, .ok matched⟩, ?_⟩
    intro source records held
    exact test_eq (.compared read held inside answer)

end

section

variable {environment : Environment} {settings : Settings}

theorem shownRecords_append (threshold : Log.Level) (front back : List Log.Record) :
    shownRecords environment threshold (front ++ back) =
      shownRecords environment threshold front ++ shownRecords environment threshold back := by
  unfold shownRecords
  split
  · rfl
  · exact List.filter_append front back

theorem logText_append (front back : List Log.Record) :
    logText environment settings (front ++ back) =
      logText environment settings front ++ logText environment settings back := by
  simp [logText, shownRecords_append, render]

/-- Whatever is reported of reading a text is for those who ask for detail. -/
theorem detail_of_reading {text : String} {record : Log.Record}
    (member : record ∈ readingRecords text) : 2 ≤ record.level.detail := by
  rcases mem_readingRecords member with ⟨index, cell, rfl⟩ | rfl
  · exact Nat.le_succ 2
  · exact Nat.le_refl 2

/-- Below that there is nothing of it to be seen. -/
theorem reading_unseen (brief : settings.verbosity < 2) (text : String) :
    logText environment settings (readingRecords text) = "" := by
  have below : settings.verbosity.toNat < 2 := UInt8.lt_iff_toNat_lt.mp brief
  have little : settings.threshold.detail ≤ (Log.Level.ofVerbosity 1).detail :=
    ofVerbosity_mono (Nat.le_of_lt_succ below)
  have nothing : Log.kept settings.threshold (readingRecords text) = [] := by
    refine List.filter_eq_nil_iff.mpr fun record member => ?_
    have detailed := detail_of_reading member
    have one : (Log.Level.ofVerbosity 1).detail = 1 := rfl
    simp only [Log.Record.shownAt, decide_eq_true_eq]
    omega
  rw [logText, shownRecords, nothing, ite_self]
  rfl

end

/-- Two runs that differ in where the buffer of the test comes from, but not in
its bytes, do and print the same, and log the same but for the lines about the
text of the buffer. -/
theorem sources_agree {environment : Environment} {files : Files}
    {arguments otherArguments : List String} {invocation other : Invocation} {settings : Settings}
    {text hex path : String} {offset : Nat} {held : Pattern} {contents : ByteArray}
    (accepted : CommandLine.read arguments = .ok invocation)
    (acceptedToo : CommandLine.read otherArguments = .ok other)
    (fromText : invocation.command = .test text (.hex hex) offset)
    (fromFile : other.command = .test text (.file path) offset)
    (sameOptions : other.options = invocation.options)
    (resolved : invocation.settings files = .ok settings)
    (read : Pattern.ofText hex = .ok held)
    (found : files path = .ok contents)
    (sameBytes : held.toBytes = .ok contents.data.toList) :
    let hexRun := runProgram environment files arguments
    let fileRun := runProgram environment files otherArguments
    let colour := environment.forceColour && settings.useColor
    let log := logText environment settings
    (hexRun.code = fileRun.code ∧ hexRun.stdout = fileRun.stdout) ∧
    (∀ fault, Pattern.ofText text = .error fault → hexRun.stderr = fileRun.stderr) ∧
    (∀ pattern, Pattern.ofText text = .ok pattern →
      ∃ rest, hexRun.stderr =
          log (readingRecords text) ++ log (readingRecords hex) ++ rest ∧
        fileRun.stderr = log (readingRecords text) ++ rest) ∧
    HoldsLog colour (log (readingRecords hex)) ∧
    (settings.verbosity < 2 → log (readingRecords hex) = "") := by
  intro hexRun fileRun colour log
  have resolvedToo : other.settings files = .ok settings := by
    rw [← resolved, Invocation.settings, Invocation.settings, sameOptions]
  have hexRuns : hexRun = conclude environment settings
      (test settings.letters files text (.hex hex) offset) := by
    rw [show hexRun = _ from runProgram_resolved accepted resolved, fromText]
    rfl
  have fileRuns : fileRun = conclude environment settings
      (test settings.letters files text (.file path) offset) := by
    rw [show fileRun = _ from runProgram_resolved acceptedToo resolvedToo, fromFile]
    rfl
  rw [hexRuns, fileRuns]
  have whole : HoldsLog colour (log (readingRecords hex)) :=
    holdsLog_records (allVisible_shown environment settings.threshold (allVisible_reading hex))
  cases asked : Pattern.ofText text with
  | error fault =>
    -- Neither source is looked at.
    rw [test_of_refused _ _ _ asked, test_of_refused _ _ _ asked]
    refine ⟨⟨rfl, rfl⟩, fun _ _ => rfl, ?_, whole, fun brief => reading_unseen brief hex⟩
    rintro _ ⟨⟩
  | ok pattern =>
    obtain ⟨later, runs⟩ := test_of_buffer settings.letters files offset asked contents.data.toList
    rw [runs _ _ (.text read sameBytes), runs _ _ (.file found)]
    refine ⟨⟨rfl, rfl⟩, ?_, ?_, whole, fun brief => reading_unseen brief hex⟩
    · rintro _ ⟨⟩
    · rintro _ -
      refine ⟨log later.records ++ render colour (failureLines later.result), ?_, ?_⟩
      · rw [stderr_eq, ← String.append_assoc, ← logText_append, ← logText_append]
        rfl
      · rw [stderr_eq, ← String.append_assoc, ← logText_append, List.append_nil]
        rfl

theorem same_bytes_from_text_and_file :
    let files : Files := fun _ => .ok ⟨#[0xA5, 0xCB]⟩
    let arguments := ["-vvv", "test", "?B", "--hex", "a5 CB", "--offset", "1"]
    let otherArguments := ["test", "--file=image", "-vvvo0x1", "?B"]
    let invocation : Invocation := ⟨{ verbose := 3 }, {}, .test "?B" (.hex "a5 CB") 1⟩
    let other : Invocation := ⟨{}, { verbose := 3 }, .test "?B" (.file "image") 1⟩
    let held := Pattern.ofCells [⟨.fixed 10, .fixed 5⟩, ⟨.fixed 12, .fixed 11⟩]
    let settings : Settings := { verbosity := 3 }
    let hexRun := runProgram ⟨true, false⟩ files arguments
    let fileRun := runProgram ⟨true, false⟩ files otherArguments
    let log := logText ⟨true, false⟩ settings
    (CommandLine.read arguments = .ok invocation ∧
      CommandLine.read otherArguments = .ok other ∧ other.options = invocation.options) ∧
    invocation.settings files = .ok settings ∧
    (Pattern.ofText "a5 CB" = .ok held ∧ held.toBytes = .ok [0xA5, 0xCB]) ∧
    (hexRun.code = fileRun.code ∧ hexRun.stdout = fileRun.stdout) ∧
    ∃ rest, hexRun.stderr = log (readingRecords "?B") ++ log (readingRecords "a5 CB") ++ rest ∧
      fileRun.stderr = log (readingRecords "?B") ++ rest := by
  intro files arguments otherArguments invocation other held settings hexRun fileRun log
  have accepted : CommandLine.read arguments = .ok invocation := rfl
  have acceptedToo : CommandLine.read otherArguments = .ok other := rfl
  have resolved : invocation.settings files = .ok settings := rfl
  have read : Pattern.ofText "a5 CB" = .ok held := by cbv
  have asked : Pattern.ofText "?B" = .ok (.ofCells [⟨.any, .fixed 11⟩]) := by cbv
  have sameBytes : held.toBytes = .ok [0xA5, 0xCB] := rfl
  have found : files "image" = .ok ⟨#[0xA5, 0xCB]⟩ := rfl
  obtain ⟨same, -, logged, -, -⟩ := @sources_agree ⟨true, false⟩ files _ _ _ _ _ _ _ _ _ _ _
    accepted acceptedToo rfl rfl rfl resolved read found sameBytes
  exact ⟨⟨accepted, acceptedToo, rfl⟩, resolved, ⟨read, sameBytes⟩, same, logged _ asked⟩

end HexPattern.BufferSources
