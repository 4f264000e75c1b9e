import HexPattern.Proofs.AddedSwitches
import HexPattern.Proofs.PrintedLines

/-! The case of letters is for the reader only. Hex digits that stand for a
pattern or for bytes are the same digits in either case, so a run in lower case
prints the lines of the run in upper case with those digits lowered and all else
as it was. What is reported on standard error is always written in upper case,
and nothing that is compared or counted depends on how it is written. -/
namespace HexPattern.LetterCaseRendering
open AddedSwitches CommandRuns PrintedLines Session Terminal
open CommandLine (Command Invocation Options)
open WrittenForm (bytesText_eq)

/-- The letters among upper-case hex digits, lowered. -/
def lowerLetter (c : Char) : Char :=
  if 'A' ≤ c ∧ c ≤ 'F' then Char.ofNat (c.toNat + 32) else c

def lowerLetters (text : String) : String := String.ofList (text.toList.map lowerLetter)

/-- The labels in front of patterns and bytes. -/
def hexLabels : List String := ["Pattern:", "Mask:", "Values:", "Bytes:", "Data:   "]

/-- What stands in front of patterns and bytes, without colour and with it. -/
def hexFronts : List String :=
  hexLabels.flatMap fun label =>
    [(Span.styled .label label).render false ++ " ", (Span.styled .label label).render true ++ " "]

/-- A line with its hex digits lowered, if it shows a pattern or bytes. -/
def lowerLine (line : String) : String :=
  (hexFronts.findSome? fun front =>
    (behindLabel? front line).map fun text => front ++ lowerLetters text).getD line

/-- A text with the hex digits of patterns and bytes lowered. -/
def lowerHexTexts (text : String) : String :=
  String.join ((completeLines text).map fun line => lowerLine line ++ "\n")

variable {letters : LetterCase} {files : Files} {colour : Bool}

theorem lowerLetter_nibble (letters : LetterCase) (nibble : Nibble) :
    lowerLetter (nibble.char letters) = nibble.char .lower := by
  cases nibble with
  | any => exact (by decide : lowerLetter '?' = '?')
  | fixed value => cases letters <;> revert value <;> decide

theorem lowerLetters_pattern (letters : LetterCase) (pattern : Pattern) :
    lowerLetters (pattern.text letters) = pattern.text .lower := by
  have space : lowerLetter ' ' = ' ' := by decide
  rw [lowerLetters, WrittenForm.toList_text, WrittenForm.map_chars space]
  simp only [lowerLetter_nibble]
  rfl

theorem lowerLetters_bytes (letters : LetterCase) (bytes : List UInt8) :
    lowerLetters (Hex.bytesText letters bytes) = Hex.bytesText .lower bytes := by
  rw [bytesText_eq, lowerLetters_pattern, bytesText_eq]

/-- No two of the fronts begin a line together. -/
theorem hexFronts_apart : ∀ front ∈ hexFronts, ∀ other ∈ hexFronts,
    other = front ∨ ¬ other.toList <+: front.toList ∧ ¬ front.toList <+: other.toList := by
  decide

theorem lowerLine_front {front : String} (shows : front ∈ hexFronts) (text : String) :
    lowerLine (front ++ text) = front ++ lowerLetters text := by
  rw [lowerLine]
  cases found : hexFronts.findSome? fun other =>
      (behindLabel? other (front ++ text)).map fun text => other ++ lowerLetters text with
  | none =>
    have nothing := List.findSome?_eq_none_iff.mp found front shows
    rw [behindLabel_self] at nothing
    cases nothing
  | some line =>
    obtain ⟨other, member, here⟩ := List.exists_of_findSome?_eq_some found
    -- The first front that is found need not be this one, but no other fits the line.
    rcases hexFronts_apart front shows other member with rfl | apart
    · rw [behindLabel_self] at here
      exact (Option.some.inj here).symm
    · rw [behindLabel_apart text apart] at here
      cases here

theorem lowerLine_apart {front : String} (text : String)
    (apart : ∀ other ∈ hexFronts,
      ¬ other.toList <+: front.toList ∧ ¬ front.toList <+: other.toList) :
    lowerLine (front ++ text) = front ++ text := by
  have nowhere : (hexFronts.findSome? fun other =>
      (behindLabel? other (front ++ text)).map fun text => other ++ lowerLetters text) = none := by
    rw [List.findSome?_eq_none_iff]
    intro other member
    rw [behindLabel_apart text (apart other member)]
    rfl
  rw [lowerLine, nowhere]
  rfl

theorem lowerLine_shown {label : String} (named : label ∈ hexLabels) (colour : Bool) (text : String) :
    lowerLine ((labelled label text).render colour) =
      (labelled label (lowerLetters text)).render colour := by
  have front : (Span.styled .label label).render colour ++ " " ∈ hexFronts :=
    List.mem_flatMap.mpr ⟨label, named, by cases colour <;> simp⟩
  have shape : ∀ text, (labelled label text).render colour =
      (Span.styled .label label).render colour ++ " " ++ text := by
    intro text
    simp [labelled, Line.render, Span.render, String.append_assoc]
  rw [shape, shape, lowerLine_front front]

theorem lowerLine_kept {line : Line} {span : Span} {rest : List Span} (begins : line = span :: rest)
    (apart : ∀ other ∈ hexFronts, ¬ other.toList <+: (span.render colour).toList ∧
      ¬ (span.render colour).toList <+: other.toList) :
    lowerLine (line.render colour) = line.render colour := by
  rw [begins, Line.render, List.map_cons, String.join_cons]
  exact lowerLine_apart _ apart

theorem lowerLine_length (colour : Bool) (text : String) :
    lowerLine ((labelled "Length:" text).render colour) = (labelled "Length:" text).render colour :=
  lowerLine_kept rfl (by cases colour <;> decide)

theorem lowerLine_wildcards (colour : Bool) (pattern : Pattern) :
    lowerLine ((wildcardLine pattern).render colour) = (wildcardLine pattern).render colour :=
  lowerLine_kept rfl (by cases colour <;> decide)

theorem lowerLine_verdict (colour matched : Bool) (offset : Nat) :
    lowerLine ((verdictLine matched offset).render colour) =
      (verdictLine matched offset).render colour := by
  cases matched with
  | true => exact lowerLine_kept rfl (by cases colour <;> decide)
  | false => exact lowerLine_kept rfl (by cases colour <;> decide)

/-- These lines are the others with the hex digits of patterns and bytes lowered. -/
def LinesLowered (lines lowered : List Line) : Prop :=
  ∀ colour, (lines.map (Line.render colour)).map lowerLine = lowered.map (Line.render colour)

theorem lowerHexTexts_render {lines lowered : List Line} (visible : LinesVisible lines)
    (same : LinesLowered lines lowered) (colour : Bool) :
    lowerHexTexts (render colour lines) = render colour lowered := by
  have feeds : ∀ texts : List String, texts.map (fun line => lowerLine line ++ "\n") =
      (texts.map lowerLine).map (· ++ "\n") := by
    intro texts
    rw [List.map_map]
    rfl
  rw [lowerHexTexts, completeLines_render colour visible, feeds, same colour, List.map_map]
  rfl

theorem describedLines_lowered (pattern : Pattern) :
    LinesLowered (describedLines letters pattern) (describedLines .lower pattern) := by
  intro colour
  simp (disch := decide) only [describedLines, List.map_cons, List.map_nil, lowerLine_shown,
    lowerLetters_pattern, lowerLetters_bytes, lowerLine_length, lowerLine_wildcards]

theorem comparedLines_lowered (pattern : Pattern) (window : List UInt8) (matched : Bool)
    (offset : Nat) : LinesLowered (comparedLines letters pattern window matched offset)
      (comparedLines .lower pattern window matched offset) := by
  intro colour
  simp (disch := decide) only [comparedLines, List.map_cons, List.map_nil, lowerLine_shown,
    lowerLetters_pattern, lowerLetters_bytes, lowerLine_verdict]

theorem inspectRun_lowered {text : String} {run : Run Unit} (ran : InspectRun letters text run) :
    ∃ lines, InspectRun .lower text ⟨run.records, lines, run.result⟩ ∧
      LinesLowered run.lines lines := by
  cases ran with
  | badPattern refused => exact ⟨[], .badPattern refused, fun colour => rfl⟩
  | withoutBytes read wild => exact ⟨_, .withoutBytes read wild, describedLines_lowered _⟩
  | withBytes read closed found =>
    refine ⟨_, .withBytes read closed found, fun colour => ?_⟩
    simp (disch := decide) only [List.map_append, describedLines_lowered _ colour, List.map_cons,
      List.map_nil, lowerLine_shown, lowerLetters_bytes]

theorem testRun_lowered {text : String} {source : CommandLine.BufferSource} {offset : Nat}
    {run : Run Bool} (ran : TestRun letters files text source offset run) :
    ∃ lines, TestRun .lower files text source offset ⟨run.records, lines, run.result⟩ ∧
      LinesLowered run.lines lines := by
  cases ran with
  | badPattern refused => exact ⟨[], .badPattern refused, fun colour => rfl⟩
  | noBuffer read missing => exact ⟨[], .noBuffer read missing, fun colour => rfl⟩
  | outside read held leaves => exact ⟨[], .outside read held leaves, fun colour => rfl⟩
  | compared read held inside answer =>
    exact ⟨_, .compared read held inside answer, comparedLines_lowered _ _ _ offset⟩

theorem commandRun_lowered {command : Command} {run : Run Bool}
    (ran : CommandRun letters files command run) :
    ∃ lines, CommandRun .lower files command ⟨run.records, lines, run.result⟩ ∧
      LinesLowered run.lines lines := by
  cases ran with
  | refused ran =>
    obtain ⟨lines, lowered, same⟩ := inspectRun_lowered ran
    exact ⟨lines, .refused lowered, same⟩
  | inspected ran =>
    obtain ⟨lines, lowered, same⟩ := inspectRun_lowered ran
    exact ⟨lines, .inspected lowered, same⟩
  | tested ran =>
    obtain ⟨lines, lowered, same⟩ := testRun_lowered ran
    exact ⟨lines, .tested lowered, same⟩

/-- The outcome of a run is that of another one with the hex digits of patterns
and bytes on standard output lowered. -/
structure HexLowered (plain lowered : Outcome) : Prop where
  code : lowered.code = plain.code
  stderr : lowered.stderr = plain.stderr
  stdout : lowered.stdout = lowerHexTexts plain.stdout

theorem hexLowered_conclude (environment : Environment) (settings : Settings) (files : Files)
    (command : Command) :
    HexLowered (conclude environment settings (runCommand settings.letters files command))
      (conclude environment { settings with lowercaseHex := true }
        (runCommand .lower files command)) := by
  have ran := command_run settings.letters files command
  obtain ⟨lines, lowered, same⟩ := commandRun_lowered ran
  rw [runCommand_eq lowered]
  exact ⟨rfl, rfl, (lowerHexTexts_render (visible_of_commandRun ran) same _).symm⟩

/-- Two runs of one command of which the second is in lower case and differs in
nothing else, because the options in force say so or because the settings do. -/
inductive DiffersInCase (files : Files) (invocation : Invocation) : Files → Invocation → Prop
  | options {other} (sameCommand : other.command = invocation.command)
      (on : other.options = { invocation.options with lowercase := true }) :
      DiffersInCase files invocation files other
  | settings {otherFiles other settings} (sameCommand : other.command = invocation.command)
      (sameBuffer : SameBuffer files otherFiles invocation.command)
      (resolved : invocation.settings files = .ok settings)
      (on : other.settings otherFiles = .ok { settings with lowercaseHex := true }) :
      DiffersInCase files invocation otherFiles other

theorem apply_lowercase (options : Options) (base : Settings) :
    Options.apply { options with lowercase := true } base =
      { options.apply base with lowercaseHex := true } := by
  simp [Options.apply]

theorem settings_lowercase {invocation other : Invocation}
    (on : other.options = { invocation.options with lowercase := true }) :
    other.settings files =
      (invocation.settings files).map fun settings => { settings with lowercaseHex := true } :=
  settings_changed files (by rw [on]) (by rw [on]; exact apply_lowercase invocation.options)

section

variable {environment : Environment} {otherFiles : Files} {arguments otherArguments : List String}
  {invocation other : Invocation}

theorem hexLowered_of_differsInCase (accepted : CommandLine.read arguments = .ok invocation)
    (acceptedToo : CommandLine.read otherArguments = .ok other)
    (differs : DiffersInCase files invocation otherFiles other) :
    HexLowered (runProgram environment files arguments)
      (runProgram environment otherFiles otherArguments) := by
  cases differs with
  | options sameCommand on =>
    have resolvedToo := @settings_lowercase files _ _ on
    cases resolved : invocation.settings files with
    | error error =>
      rw [resolved] at resolvedToo
      rw [runProgram_unresolved accepted resolved, runProgram_unresolved acceptedToo resolvedToo]
      exact ⟨rfl, rfl, rfl⟩
    | ok settings =>
      rw [resolved] at resolvedToo
      rw [runProgram_resolved accepted resolved, runProgram_resolved acceptedToo resolvedToo,
        sameCommand]
      exact hexLowered_conclude environment settings files invocation.command
  | @settings _ _ settings sameCommand sameBuffer resolved on =>
    rw [runProgram_resolved accepted resolved, runProgram_resolved acceptedToo on, sameCommand,
      runCommand_sameBuffer _ sameBuffer]
    exact hexLowered_conclude environment settings files invocation.command

/-- Lower case, whether it is asked for by a switch that is added, by options that
say so anywhere, or by settings, changes nothing but the hex digits of patterns
and bytes on standard output. -/
theorem lowercase_lowers_hex_only (accepted : CommandLine.read arguments = .ok invocation) :
    (invocation.before.lowercase = false →
      HexLowered (runProgram environment files arguments)
        (runProgram environment files ("--lowercase" :: arguments))) ∧
    ∀ otherFiles otherArguments other, CommandLine.read otherArguments = .ok other →
      DiffersInCase files invocation otherFiles other →
        HexLowered (runProgram environment files arguments)
          (runProgram environment otherFiles otherArguments) := by
  refine ⟨?_, ?_⟩
  · intro off
    have added : CommandLine.read ("--lowercase" :: arguments) =
        .ok (turnOnBefore invocation .lowercase) :=
      read_switch_first .lowercase accepted (by rw [isOff, off]; rfl)
    exact hexLowered_of_differsInCase accepted added
      (.options rfl (options_turnOnBefore invocation .lowercase))
  · intro otherFiles otherArguments other acceptedToo differs
    exact hexLowered_of_differsInCase accepted acceptedToo differs

end

theorem lower_case_on_either_side :
    let files : Files := fun _ => .error .notFound
    let invocation : Invocation := ⟨{ verbose := 3 }, {}, .test "A? ?b" (.hex "00 A5 cB") 1⟩
    let arguments := ["-vvv", "test", "A? ?b", "--hex", "00 A5 cB", "-o", "1"]
    let plain := runProgram ⟨true, false⟩ files arguments
    CommandLine.read arguments = .ok invocation ∧
      HexLowered plain (runProgram ⟨true, false⟩ files ("--lowercase" :: arguments)) ∧
      HexLowered plain (runProgram ⟨true, false⟩ files (arguments ++ ["--lowercase"])) := by
  intro files invocation arguments plain
  have accepted : CommandLine.read arguments = .ok invocation := rfl
  have acceptedToo : CommandLine.read (arguments ++ ["--lowercase"]) =
      .ok { invocation with after := { lowercase := true } } := rfl
  obtain ⟨switch, others⟩ := @lowercase_lowers_hex_only files ⟨true, false⟩ _ _ accepted
  exact ⟨accepted, switch rfl, others _ _ _ acceptedToo (.options rfl rfl)⟩

end HexPattern.LetterCaseRendering
