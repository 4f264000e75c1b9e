import HexPattern.Proofs.OffsetNumerals
import HexPattern.Proofs.PrintedLines
import HexPattern.Proofs.ReaderCalls
import HexPattern.Proofs.SpelledOptions
import HexPattern.Proofs.TestVerdict

/-! What a run prints can be given to the program again, in either case of
letters and under the same options. Each text that stands behind a label is read
by the reader of the argument in whose place it is put, and means what it meant:
the written form is the same pattern, the bytes are the ones that were compared,
and the place is the offset. A comparison looks at no other bytes than those that
it prints, so the printed stretch gives its verdict without the rest. -/
namespace HexPattern.OutputReplay
open CommandLine (Invocation Options)
open CommandRuns FirstOpenCell MatchingSemantics PrintedLines ReaderSemantics Session SpelledOptions
open Terminal
open WrittenForm (ofText_bytesText)

variable {letters : LetterCase} {files : Files} {text : String} {pattern : Pattern}
  {bytes buffer : List UInt8} {offset : Nat}

private theorem ofText_text (letters : LetterCase) (pattern : Pattern) :
    Pattern.ofText (pattern.text letters) = .ok pattern := by
  rw [Pattern.ofText, WrittenForm.toList_text]
  exact WrittenForm.ofChars_chars letters pattern

/-- The text of a pattern begins with no dash. -/
theorem word_of_accepted (accepted : Pattern.ofText text = .ok pattern) :
    text.toList.head? ≠ some '-' := by
  intro dashed
  obtain ⟨rest, shape⟩ := List.head?_eq_some_iff.mp dashed
  have legible := legible_of_accepted accepted '-' (by simp [shape])
  exact absurd legible (by decide)

theorem length_le_of_accepted (accepted : Pattern.ofText text = .ok pattern) :
    pattern.length ≤ text.length := by
  have reading : Reading.ofCursor ⟨0, text.toList⟩ = ⟨pattern.cells, none⟩ :=
    reading_of_accepted accepted
  have cells := ReaderCalls.cells_le_dark ⟨0, text.toList⟩
  rw [reading] at cells
  rw [← String.length_toList]
  exact Nat.le_trans cells List.countP_le_length

/-- The line about open cells begins with a label of its own. -/
theorem wildcardLine_render (pattern : Pattern) :
    ∃ shown, Line.render false (wildcardLine pattern) = "Wildcards:" ++ shown :=
  ⟨_, by simp [wildcardLine, Line.render, Span.render]; rfl⟩

theorem labelled_render (label shown : String) :
    Line.render false (labelled label shown) = label ++ " " ++ shown := by
  simp [labelled, Line.render, Span.render, String.append_assoc]

/-- In a description the texts stand behind their labels. -/
theorem described_texts {more : List Line}
    (visible : LinesVisible (describedLines letters pattern ++ more)) :
    textAfter? "Pattern: " (render false (describedLines letters pattern ++ more)) =
        some (pattern.text letters) ∧
      textAfter? "Values: " (render false (describedLines letters pattern ++ more)) =
        some (Hex.bytesText letters pattern.values) := by
  obtain ⟨shown, wildcards⟩ := wildcardLine_render pattern
  rw [textAfter?, textAfter?, completeLines_render false visible]
  simp (disch := decide) only [describedLines, List.map_cons, labelled_render, wildcards,
    List.cons_append, List.findSome?_cons, String.reduceAppend, behindLabel_self,
    behindLabel_apart, and_self]

/-- Only the lines after a description can show bytes. -/
theorem described_bytes {more : List Line}
    (visible : LinesVisible (describedLines letters pattern ++ more)) :
    textAfter? "Bytes: " (render false (describedLines letters pattern ++ more)) =
      (more.map (Line.render false)).findSome? (behindLabel? "Bytes: ") := by
  obtain ⟨shown, wildcards⟩ := wildcardLine_render pattern
  rw [textAfter?, completeLines_render false visible]
  simp (disch := decide) only [describedLines, List.map_cons, labelled_render, wildcards,
    List.cons_append, List.nil_append, List.findSome?_cons, String.reduceAppend, behindLabel_apart]

/-- What an inspection prints about a pattern, and that it prints the same about
every other text of the pattern. -/
theorem inspection_prints {records : List Log.Record} {lines : List Line}
    (ran : InspectRun letters text ⟨records, lines, .ok ()⟩) :
    ∃ pattern, Pattern.ofText text = .ok pattern ∧
      textAfter? "Pattern: " (render false lines) = some (pattern.text letters) ∧
      textAfter? "Values: " (render false lines) = some (Hex.bytesText letters pattern.values) ∧
      (∀ bytes, textAfter? "Bytes: " (render false lines) = some bytes →
        bytes = Hex.bytesText letters pattern.values) ∧
      ∀ other, Pattern.ofText other = .ok pattern →
        ∃ records, InspectRun letters other ⟨records, lines, .ok ()⟩ := by
  have visible := visible_of_inspectRun ran
  cases ran with
  | @withoutBytes pattern read wild =>
    rw [← List.append_nil (describedLines letters pattern)] at visible ⊢
    obtain ⟨written, values⟩ := described_texts visible
    refine ⟨pattern, read, written, values, ?_, ?_⟩
    · intro bytes shown
      rw [described_bytes visible] at shown
      cases shown
    · intro other same
      rw [List.append_nil]
      exact ⟨_, .withoutBytes same wild⟩
  | @withBytes pattern found read closed bytes =>
    obtain ⟨written, values⟩ := described_texts visible
    refine ⟨pattern, read, written, values, ?_, ?_⟩
    · intro shownBytes shown
      rw [described_bytes visible] at shown
      simp only [List.map_cons, labelled_render, String.reduceAppend, List.findSome?_cons,
        behindLabel_self] at shown
      rw [values_of_toBytes bytes]
      exact (Option.some.inj shown).symm
    · intro other same
      exact ⟨_, .withBytes same closed bytes⟩

/-- Laid over the stretch it was compared with, a pattern matches as before. -/
theorem matchesAt_stretch {matched : Bool} (answer : pattern.matchesAt? buffer offset = some matched) :
    pattern.matchesAt? ((buffer.drop offset).take pattern.length) 0 = some matched ∧
      ((buffer.drop offset).take pattern.length).length = pattern.length := by
  have fits := Pattern.fits_of_matchesAt? answer
  have length : ((buffer.drop offset).take pattern.length).length = pattern.length := by
    rw [List.length_take, List.length_drop]
    omega
  refine ⟨?_, length⟩
  rw [Pattern.matchesAt?_of_fits fits] at answer
  have room : 0 + pattern.length ≤ ((buffer.drop offset).take pattern.length).length := by
    rw [length, Nat.zero_add]
  rw [Pattern.matchesAt?_of_fits room, List.drop_zero, List.take_take, Nat.min_self]
  exact answer

/-- What stands in front of the offset when a comparison is over. -/
def verdictMark (matched : Bool) : String :=
  if matched then "[+] match at offset " else "[-] no match at offset "

theorem verdictLine_render (matched : Bool) (offset : Nat) :
    Line.render false (verdictLine matched offset) = verdictMark matched ++ Offset.hexText offset := by
  cases matched <;>
    simp [verdictLine, verdictMark, Line.render, Span.render, ← String.append_assoc]

/-- In the lines of a comparison the texts stand behind their labels. -/
theorem compared_texts (letters : LetterCase) (pattern : Pattern) (window : List UInt8)
    (matched : Bool) (offset : Nat) :
    textAfter? "Pattern: " (render false (comparedLines letters pattern window matched offset)) =
        some (pattern.text letters) ∧
      textAfter? "Data:    " (render false (comparedLines letters pattern window matched offset)) =
        some (Hex.bytesText letters window) ∧
      textAfter? (verdictMark matched)
          (render false (comparedLines letters pattern window matched offset)) =
        some (Offset.hexText offset) := by
  have visible := visible_comparedLines letters pattern window matched offset
  rw [textAfter?, textAfter?, textAfter?, completeLines_render false visible]
  cases matched <;>
    simp (disch := decide) only [comparedLines, List.map_cons, labelled_render, verdictLine_render,
      verdictMark, List.findSome?_cons, String.reduceAppend, behindLabel_self,
      behindLabel_apart, and_self, if_true, if_false, Bool.false_eq_true]

/-- The front of a buffer that is as long as the pattern is compared like every
other stretch. -/
theorem whole_buffer_run (letters : LetterCase) (files : Files) {written data : String}
    {window : List UInt8} {matched : Bool} (read : Pattern.ofText written = .ok pattern)
    (held : Pattern.ofText data = .ok (.ofBytes window)) (length : window.length = pattern.length)
    (addressable : pattern.length < UInt64.size)
    (answer : pattern.matchesAt? window 0 = some matched) :
    ∃ records, TestRun letters files written (.hex data) 0
      ⟨records, comparedLines letters pattern window matched 0, .ok matched⟩ := by
  have inside : staysInside pattern.length 0 window.length = true := by
    rw [staysInside_iff, length]
    omega
  have whole : (window.drop 0).take pattern.length = window := by
    rw [List.drop_zero, ← length, List.take_length]
  have ran : TestRun letters files written (.hex data) 0 _ :=
    .compared read (.text held (toBytes_ofBytes window)) inside answer
  rw [whole] at ran
  exact ⟨_, ran⟩

/-- What an inspection has printed stands for the pattern that it was about: the
written form is described in the same way, and the pattern matches its values,
which are its bytes if it has any. A test counts places with sixty-four bits, so
the text must not be longer than they can count. -/
structure Describes (again : List String → Outcome) (before after : Options) (text : String)
    (described : Outcome) (written values : String) : Prop where
  showsPattern : textAfter? "Pattern: " described.stdout = some written
  showsValues : textAfter? "Values: " described.stdout = some values
  code : (again (inspectArguments before after written)).code = 0
  stdout : (again (inspectArguments before after written)).stdout = described.stdout
  matched : text.length < UInt64.size → (again (testArguments before after text values)).code = 0
  bytes : ∀ bytes, textAfter? "Bytes: " described.stdout = some bytes → bytes = values

/-- What a test has printed is all that its verdict rests on: the stretch of the
data under the pattern, compared by itself, gives the same verdict. The place of
the stretch is accepted as an offset and is the one that was given. -/
structure Decides (again : List String → Outcome) (before after : Options) (offset : Nat)
    (tested : Outcome) (written data place : String) : Prop where
  showsPattern : textAfter? "Pattern: " tested.stdout = some written
  showsData : textAfter? "Data:    " tested.stdout = some data
  showsPlace : textAfter? (verdictMark (tested.code = 0)) tested.stdout = some place
  code : (again (testArguments before after written data)).code = tested.code
  samePattern : textAfter? "Pattern: " (again (testArguments before after written data)).stdout =
    some written
  sameData : textAfter? "Data:    " (again (testArguments before after written data)).stdout =
    some data
  acceptsPlace : CommandLine.read (testArguments before after written data ++ ["--offset", place]) =
    .ok ⟨before, after, .test written (.hex data) offset⟩

section

variable {environment : Environment} {arguments : List String} {invocation : Invocation}
  {settings : Settings}

theorem resolved_of_code (accepted : CommandLine.read arguments = .ok invocation)
    (ended : (runProgram environment files arguments).code ≠ 2) :
    ∃ settings, invocation.settings files = .ok settings := by
  cases resolved : invocation.settings files with
  | error error =>
    rw [runProgram_unresolved accepted resolved] at ended
    exact absurd rfl ended
  | ok settings => exact ⟨settings, rfl⟩

/-- Under the same options another command has the same settings. -/
theorem again_runs {command : CommandLine.Command} {other : List String} {run : Run Bool}
    (resolved : invocation.settings files = .ok settings)
    (read : CommandLine.read other = .ok ⟨invocation.before, invocation.after, command⟩)
    (ran : CommandRun settings.letters files command run) :
    runProgram environment files other = conclude environment settings run := by
  have resolvedToo : Invocation.settings ⟨invocation.before, invocation.after, command⟩ files =
      .ok settings := resolved
  rw [runProgram_resolved read resolvedToo, runCommand_eq ran]

/-- A buffer in hex that is as long as the pattern is compared with it. -/
theorem again_compares {written data : String} {window : List UInt8} {matched : Bool}
    (accepted : CommandLine.read arguments = .ok invocation)
    (resolved : invocation.settings files = .ok settings)
    (read : Pattern.ofText written = .ok pattern) (held : Pattern.ofText data = .ok (.ofBytes window))
    (length : window.length = pattern.length) (addressable : pattern.length < UInt64.size)
    (answer : pattern.matchesAt? window 0 = some matched) :
    ∃ records, runProgram environment files
        (testArguments invocation.before invocation.after written data) =
      conclude environment settings
        ⟨records, comparedLines settings.letters pattern window matched 0, .ok matched⟩ := by
  obtain ⟨beforeNamed, afterNamed⟩ := named_of_read accepted
  obtain ⟨records, ran⟩ :=
    whole_buffer_run settings.letters files read held length addressable answer
  have again := read_testArguments beforeNamed afterNamed (word_of_accepted read)
    (word_of_accepted held)
  exact ⟨records, again_runs resolved again (.tested ran)⟩

theorem stdout_uncoloured (uncoloured : (environment.forceColour && settings.useColor) = false)
    (run : Run Bool) : (conclude environment settings run).stdout = render false run.lines := by
  rw [← uncoloured]
  rfl

theorem inspection_describes (accepted : CommandLine.read arguments = .ok invocation)
    (given : invocation.command = .inspect text)
    (resolved : invocation.settings files = .ok settings)
    (uncoloured : (environment.forceColour && settings.useColor) = false)
    (succeeded : (runProgram environment files arguments).code = 0) :
    ∃ written values, Describes (runProgram environment files) invocation.before invocation.after text
      (runProgram environment files arguments) written values := by
  obtain ⟨beforeNamed, afterNamed⟩ := named_of_read accepted
  have ran := command_run settings.letters files (.inspect text)
  rw [runProgram_resolved accepted resolved, given] at succeeded ⊢
  generalize runCommand settings.letters files (.inspect text) = run at ran succeeded ⊢
  cases ran with
  | refused ran =>
    simp only [conclude, exitCode] at succeeded
    split at succeeded <;> cases succeeded
  | @inspected _ records lines ran =>
    obtain ⟨pattern, read, written, values, bytes, same⟩ := inspection_prints ran
    have readsBack := ofText_text settings.letters pattern
    obtain ⟨recordsAgain, ranAgain⟩ := same _ readsBack
    have inspected : runProgram environment files (inspectArguments invocation.before
        invocation.after (pattern.text settings.letters)) = _ :=
      again_runs resolved
        (read_inspectArguments beforeNamed afterNamed (word_of_accepted readsBack))
        (.inspected ranAgain)
    have ownValues : pattern.matchesAt? pattern.values 0 = some true :=
      matchesAt_iff.mpr ⟨by simp [Pattern.values, Pattern.length], covers_values pattern.cells⟩
    refine ⟨pattern.text settings.letters, Hex.bytesText settings.letters pattern.values, ?_⟩
    refine ⟨?_, ?_, ?_, ?_, ?_, ?_⟩
    · rwa [stdout_uncoloured uncoloured]
    · rwa [stdout_uncoloured uncoloured]
    · rw [inspected]
      rfl
    · rw [inspected]
      rfl
    · intro addressable
      have small : pattern.length < UInt64.size :=
        Nat.lt_of_le_of_lt (length_le_of_accepted read) addressable
      obtain ⟨recordsMatched, matched⟩ : ∃ records, runProgram environment files
          (testArguments _ _ _ _) = conclude environment settings ⟨records, _, _⟩ :=
        again_compares accepted resolved read (ofText_bytesText settings.letters pattern.values)
          (List.length_map ..) small ownValues
      rw [matched]
      rfl
    · rwa [stdout_uncoloured uncoloured]

theorem comparison_decides {source : CommandLine.BufferSource}
    (accepted : CommandLine.read arguments = .ok invocation)
    (given : invocation.command = .test text source offset)
    (resolved : invocation.settings files = .ok settings)
    (uncoloured : (environment.forceColour && settings.useColor) = false)
    (ended : (runProgram environment files arguments).code ≠ 2) :
    ∃ written data place, Decides (runProgram environment files) invocation.before invocation.after
      offset (runProgram environment files arguments) written data place := by
  have ran := test_run settings.letters files text source offset
  rw [runProgram_resolved accepted resolved, given] at ended ⊢
  rw [runCommand] at ended ⊢
  generalize test settings.letters files text source offset = run at ran ended ⊢
  cases ran with
  | badPattern refused => exact absurd rfl ended
  | noBuffer read missing =>
    exact absurd (by simp [conclude, exitCode, TestVerdict.missing_not_abrupt missing]) ended
  | outside read held leaves => exact absurd rfl ended
  | @compared pattern _ buffer matched read held inside answer =>
    obtain ⟨answerHere, length⟩ := matchesAt_stretch answer
    have small : offset + pattern.length < UInt64.size := (staysInside_iff.mp inside).1
    -- The verdict rests on the stretch alone, so the rest of the buffer is forgotten.
    generalize window : (buffer.drop offset).take pattern.length = stretch at answerHere length ⊢
    obtain ⟨written, data, place⟩ := compared_texts settings.letters pattern stretch matched offset
    obtain ⟨writtenAgain, dataAgain, -⟩ :=
      compared_texts settings.letters pattern stretch matched 0
    have readsBack := ofText_text settings.letters pattern
    obtain ⟨recordsAgain, again⟩ : ∃ records, runProgram environment files (testArguments _ _ _ _) =
        conclude environment settings ⟨records, _, _⟩ :=
      again_compares accepted resolved readsBack (ofText_bytesText settings.letters stretch) length
        (by omega) answerHere
    have verdict : exitCode (.ok matched) = 0 ↔ matched = true := by cases matched <;> decide
    refine ⟨pattern.text settings.letters, Hex.bytesText settings.letters stretch,
      Offset.hexText offset, ?_⟩
    change Decides _ _ _ _ (conclude environment settings
      ⟨_, comparedLines settings.letters pattern stretch matched offset, .ok matched⟩) _ _ _
    refine ⟨?_, ?_, ?_, ?_, ?_, ?_, ?_⟩
    · rw [stdout_uncoloured uncoloured]
      exact written
    · rw [stdout_uncoloured uncoloured]
      exact data
    · rw [stdout_uncoloured uncoloured]
      simpa [conclude, verdict] using place
    · rw [again]
      rfl
    · rw [again, stdout_uncoloured uncoloured]
      exact writtenAgain
    · rw [again, stdout_uncoloured uncoloured]
      exact dataAgain
    · obtain ⟨beforeNamed, afterNamed⟩ := named_of_read accepted
      exact read_offsetArguments beforeNamed afterNamed (word_of_accepted readsBack)
        (word_of_accepted (ofText_bytesText settings.letters stretch))
        (by simp [Offset.hexText]) (OffsetNumerals.read_hexText (by omega))

end

/-- Without colour, what an accepted command line prints can be given to the
program again under the same options. -/
theorem printed_texts_replay {environment : Environment} {arguments : List String}
    {invocation : Invocation} (accepted : CommandLine.read arguments = .ok invocation)
    (uncoloured : ∀ settings, invocation.settings files = .ok settings →
      (environment.forceColour && settings.useColor) = false) :
    let again := runProgram environment files
    let outcome := again arguments
    (∀ text, invocation.command = .inspect text → outcome.code = 0 →
      ∃ written values,
        Describes again invocation.before invocation.after text outcome written values) ∧
    ∀ text source offset, invocation.command = .test text source offset →
      outcome.code = 0 ∨ outcome.code = 1 →
        ∃ written data place,
          Decides again invocation.before invocation.after offset outcome written data place := by
  refine ⟨?_, ?_⟩
  · intro text given succeeded
    have described : (runProgram environment files arguments).code = 0 := succeeded
    have ended : (runProgram environment files arguments).code ≠ 2 := by omega
    obtain ⟨settings, resolved⟩ := resolved_of_code accepted ended
    exact inspection_describes accepted given resolved (uncoloured settings resolved) described
  · intro text source offset given came
    have ended : (runProgram environment files arguments).code ≠ 2 := by omega
    obtain ⟨settings, resolved⟩ := resolved_of_code accepted ended
    exact comparison_decides accepted given resolved (uncoloured settings resolved) ended

theorem verdict_replays_in_lower_case :
    let arguments := ["--lowercase", "test", "a? ?B", "--hex", "00 A5 CB", "-o", "1"]
    let invocation : Invocation := ⟨{ lowercase := true }, {}, .test "a? ?B" (.hex "00 A5 CB") 1⟩
    let again := runProgram ⟨false, false⟩ fun _ => .error .notFound
    CommandLine.read arguments = .ok invocation ∧ (again arguments).code = 0 ∧
      ∃ written data place,
        Decides again invocation.before invocation.after 1 (again arguments) written data place := by
  intro arguments invocation again
  let files : Files := fun _ => .error .notFound
  have accepted : CommandLine.read arguments = .ok invocation := rfl
  have resolved : invocation.settings files = .ok { lowercaseHex := true } := rfl
  have read : Pattern.ofText "a? ?B" = .ok (.ofCells [⟨.fixed 10, .any⟩, ⟨.any, .fixed 11⟩]) := by
    cbv
  have held : Pattern.ofText "00 A5 CB" = .ok (.ofBytes [0x00, 0xA5, 0xCB]) := by cbv
  have inside : staysInside 2 1 3 = true := by decide
  have answer : (Pattern.ofCells [⟨.fixed 10, .any⟩, ⟨.any, .fixed 11⟩]).matchesAt?
      [0x00, 0xA5, 0xCB] 1 = some true := by decide
  have ran : CommandRun .lower files invocation.command _ :=
    .tested (.compared read (.text held (toBytes_ofBytes _)) inside answer)
  have code : (again arguments).code = 0 := by
    show (runProgram ⟨false, false⟩ files arguments).code = 0
    rw [runProgram_resolved accepted resolved]
    show (conclude _ _ (runCommand .lower files invocation.command)).code = 0
    rw [runCommand_eq ran]
    rfl
  have replays := (@printed_texts_replay files ⟨false, false⟩ arguments invocation accepted
    (fun _ _ => rfl)).2 _ _ _ rfl (.inl code)
  exact ⟨accepted, code, replays⟩

end HexPattern.OutputReplay
