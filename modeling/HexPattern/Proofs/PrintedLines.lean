import HexPattern.Proofs.ReportLines

/-! Lines as text. Rendered lines hold the texts of their spans and, with
colour, escape sequences between them. Where the texts are visible there is no
line feed but the one at the end of each line, so the lines come back from the
text, and with them what stands behind a label. Everything that a command prints
is visible. -/
namespace HexPattern.PrintedLines
open CommandLine (Command)
open CommandRuns Session Terminal VisibleText
open WrittenForm (bytesText_eq)

/-- The lines that a text completes, without the line feeds that end them. -/
def completeLines (text : String) : List String :=
  (text.toList.splitOn '\n').dropLast.map String.ofList

/-- What stands behind a label on a line that begins with it. -/
def behindLabel? (label line : String) : Option String :=
  if label.toList <+: line.toList then some (String.ofList (line.toList.drop label.toList.length))
  else none

/-- What stands behind a label on the first line that begins with it. -/
def textAfter? (label text : String) : Option String :=
  (completeLines text).findSome? (behindLabel? label)

theorem completeLines_join {lines : List String} (feedless : ∀ line ∈ lines, '\n' ∉ line.toList) :
    completeLines (String.join (lines.map (· ++ "\n"))) = lines := by
  have split : (String.join (lines.map (· ++ "\n"))).toList.splitOn '\n' =
      lines.map String.toList ++ [[]] := by
    induction lines with
    | nil => rfl
    | cons line rest ih =>
      obtain ⟨here, later⟩ := List.forall_mem_cons.mp feedless
      have feed : "\n".toList = ['\n'] := rfl
      rw [List.map_cons, String.join_cons, String.toList_append, String.toList_append, feed,
        List.append_assoc, List.singleton_append, List.splitOn_append_cons_self_of_not_mem here,
        ih later]
      rfl
  rw [completeLines, split, List.dropLast_concat, List.map_map]
  simp [Function.comp_def]

theorem behindLabel_self (label shown : String) : behindLabel? label (label ++ shown) = some shown := by
  simp [behindLabel?]

/-- Labels of which none begins with the other are told apart whatever follows. -/
theorem behindLabel_apart {label other : String} (shown : String)
    (apart : ¬ label.toList <+: other.toList ∧ ¬ other.toList <+: label.toList) :
    behindLabel? label (other ++ shown) = none := by
  refine if_neg fun begins => ?_
  rw [String.toList_append] at begins
  rcases List.prefix_or_prefix_of_prefix begins (List.prefix_append _ _) with one | other
  · exact apart.1 one
  · exact apart.2 other

/-- Numbers of styles and what divides them. -/
def isParameter (c : Char) : Bool := c.isDigit || c = ';'

private theorem parameters_of_codes (codes : List Nat) :
    ∀ c ∈ (String.intercalate ";" (codes.map toString)).toList, isParameter c = true := by
  have digits : ∀ code : Nat, ∀ c ∈ (toString code).toList, isParameter c = true := by
    intro code c member
    rw [Nat.toString_eq_repr, Nat.toList_repr] at member
    rw [isParameter, Nat.isDigit_of_mem_toDigits (by decide) (by decide) member, Bool.true_or]
  induction codes with
  | nil => simp
  | cons code rest ih =>
    cases rest with
    | nil => simpa using digits code
    | cons next rest =>
      rw [List.map_cons] at ih
      rw [List.map_cons, List.map_cons, String.intercalate_cons_cons, String.toList_append,
        String.toList_append, List.forall_mem_append, List.forall_mem_append]
      have divider : ∀ c ∈ ";".toList, isParameter c = true := List.all_eq_true.mp (by decide)
      exact ⟨⟨digits code, divider⟩, ih⟩

/-- A style is one sequence: the escape character, a bracket, parameters, and
the letter that ends it. -/
theorem sequence_shape (style : Style) : ∃ parameters, (∀ c ∈ parameters, isParameter c = true) ∧
    style.sequence.toList = '\x1b' :: '[' :: (parameters ++ ['m']) := by
  refine ⟨_, parameters_of_codes style.codes, ?_⟩
  rw [Style.sequence, String.toList_append, String.toList_append]
  rfl

theorem resetSequence_eq : resetSequence = (⟨[0]⟩ : Style).sequence := by decide

section

variable {colour : Bool} {c : Char}

private theorem not_mem_sequence (style : Style) (letter : c ∉ ['\x1b', '[', 'm'])
    (noParameter : isParameter c = false) : c ∉ style.sequence.toList := by
  obtain ⟨parameters, all, shape⟩ := sequence_shape style
  have inside : c ∉ parameters := by
    intro member
    rw [all c member] at noParameter
    cases noParameter
  simp_all

/-- A line feed comes into a line by its texts only. -/
theorem feedless_line {line : Line} (visible : ∀ span ∈ line, Visible span.text) :
    '\n' ∉ (line.render colour).toList := by
  have sequence : ∀ style : Style, '\n' ∉ style.sequence.toList := fun style =>
    not_mem_sequence style (by decide) (by decide)
  rw [Line.render, String.toList_join, List.mem_flatMap]
  rintro ⟨rendered, member, inside⟩
  obtain ⟨span, here, rfl⟩ := List.mem_map.mp member
  have text : '\n' ∉ span.text.toList := fun feed =>
    absurd (visible span here '\n' feed) (by decide)
  cases span with
  | plain shown => exact text inside
  | styled style shown =>
    cases colour with
    | false => exact text inside
    | true =>
      rw [Span.render, if_pos rfl, resetSequence_eq, String.toList_append, String.toList_append,
        List.mem_append, List.mem_append] at inside
      exact inside.elim (fun early => early.elim (sequence style) text) (sequence _)

end

/-- All that these lines show is visible. -/
def LinesVisible (lines : List Line) : Prop := ∀ line ∈ lines, ∀ span ∈ line, Visible span.text

theorem completeLines_render {lines : List Line} (colour : Bool) (visible : LinesVisible lines) :
    completeLines (render colour lines) = lines.map (Line.render colour) := by
  have feedless : ∀ line ∈ lines.map (Line.render colour), '\n' ∉ line.toList := by
    intro rendered member
    obtain ⟨line, here, rfl⟩ := List.mem_map.mp member
    exact feedless_line (visible line here)
  rw [← completeLines_join feedless, List.map_map]
  rfl

section

variable {letters : LetterCase} {files : Files}

theorem visible_labelled {label text : String} (plain : label.toList.all isPlain)
    (shown : Visible text) : ∀ span ∈ labelled label text, Visible span.text := by
  have behind : Visible (" " ++ text) := visible_append (visible_words (by decide)) shown
  simpa [labelled, Span.text] using And.intro (visible_words plain) behind

theorem visible_bytesLine {label : String} (plain : label.toList.all isPlain) (letters : LetterCase)
    (bytes : List UInt8) : ∀ span ∈ labelled label (Hex.bytesText letters bytes), Visible span.text := by
  rw [bytesText_eq]
  exact visible_labelled plain (visible_pattern letters _)

theorem visible_wildcardLine (pattern : Pattern) :
    ∀ span ∈ wildcardLine pattern, Visible span.text := by
  have counts : Visible (" (" ++ toString pattern.wildcardCount ++ " of " ++ toString pattern.length
      ++ " bytes)") := by
    have first := visible_between (visible_number pattern.wildcardCount)
      (by decide : (" (".toList ++ " of ".toList).all isPlain)
    exact visible_append (visible_append first (visible_number _)) (visible_words (by decide))
  have space : Visible " " := visible_words (by decide)
  have yes : Visible "yes" := visible_words (by decide)
  have no : Visible "no" := visible_words (by decide)
  have label : Visible "Wildcards:" := visible_words (by decide)
  cases wild : pattern.hasWildcards <;>
    simpa [wildcardLine, wild, Span.text, label, space, yes, no] using counts

theorem visible_verdictLine (matched : Bool) (offset : Nat) :
    ∀ span ∈ verdictLine matched offset, Visible span.text := by
  have place := visible_offset offset
  cases matched with
  | true =>
    have behind : Visible (" match at offset " ++ Offset.hexText offset) :=
      visible_append (visible_words (by decide)) place
    have mark : Visible "[+]" := visible_words (by decide)
    simpa [verdictLine, Span.text, mark] using behind
  | false =>
    have behind : Visible (" no match at offset " ++ Offset.hexText offset) :=
      visible_append (visible_words (by decide)) place
    have mark : Visible "[-]" := visible_words (by decide)
    simpa [verdictLine, Span.text, mark] using behind

theorem visible_describedLines (pattern : Pattern) :
    LinesVisible (describedLines letters pattern) := by
  have text := visible_labelled (by decide : "Pattern:".toList.all isPlain)
    (visible_pattern letters pattern)
  have length := visible_labelled (by decide : "Length:".toList.all isPlain)
    (visible_number pattern.length)
  have mask := visible_bytesLine (by decide : "Mask:".toList.all isPlain) letters pattern.mask
  have values := visible_bytesLine (by decide : "Values:".toList.all isPlain) letters pattern.values
  simp only [LinesVisible, describedLines, List.forall_mem_cons]
  exact ⟨text, length, visible_wildcardLine pattern, mask, values, by simp⟩

theorem visible_of_inspectRun {text : String} {run : Run Unit} (ran : InspectRun letters text run) :
    LinesVisible run.lines := by
  cases ran with
  | badPattern refused => simp [LinesVisible]
  | withoutBytes read wild => exact visible_describedLines _
  | @withBytes _ bytes read closed found =>
    have bytes := visible_bytesLine (by decide : "Bytes:".toList.all isPlain) letters bytes
    exact List.forall_mem_append.mpr ⟨visible_describedLines _, List.forall_mem_singleton.mpr bytes⟩

/-- The lines that a comparison prints. -/
def comparedLines (letters : LetterCase) (pattern : Pattern) (window : List UInt8) (matched : Bool)
    (offset : Nat) : List Line :=
  [labelled "Pattern:" (pattern.text letters),
    labelled "Data:   " (Hex.bytesText letters window),
    verdictLine matched offset]

theorem visible_comparedLines (letters : LetterCase) (pattern : Pattern) (window : List UInt8)
    (matched : Bool) (offset : Nat) :
    LinesVisible (comparedLines letters pattern window matched offset) := by
  have text := visible_labelled (by decide : "Pattern:".toList.all isPlain)
    (visible_pattern letters pattern)
  have data := visible_bytesLine (by decide : "Data:   ".toList.all isPlain) letters window
  simp only [LinesVisible, comparedLines, List.forall_mem_cons]
  exact ⟨text, data, visible_verdictLine matched offset, by simp⟩

theorem visible_of_testRun {text : String} {source : CommandLine.BufferSource} {offset : Nat}
    {run : Run Bool} (ran : TestRun letters files text source offset run) :
    LinesVisible run.lines := by
  cases ran with
  | badPattern refused => simp [LinesVisible]
  | noBuffer read missing => simp [LinesVisible]
  | outside read held leaves => simp [LinesVisible]
  | compared read held inside answer => exact visible_comparedLines letters _ _ _ offset

/-- Whatever a command is given, all that it prints is visible. -/
theorem visible_of_commandRun {command : Command} {run : Run Bool}
    (ran : CommandRun letters files command run) : LinesVisible run.lines := by
  cases ran with
  | refused ran => exact visible_of_inspectRun ran
  | inspected ran => exact visible_of_inspectRun ran
  | tested ran => exact visible_of_testRun ran

end

/-- Whatever a command is given, all lines about its records are visible. -/
theorem visible_recordLines {records : List Log.Record} (visible : AllVisible records) :
    LinesVisible (records.map recordLine) := by
  intro line member
  obtain ⟨record, here, rfl⟩ := List.mem_map.mp member
  have message : Visible (" " ++ record.message) :=
    visible_append (visible_words (by decide)) (visible record here)
  have space : Visible " " := visible_words (by decide)
  have level : Visible record.level.label := by
    cases record.level <;> exact visible_words (by decide)
  have source : Visible ("[" ++ record.source.name ++ "]") := by
    cases record.source <;> exact visible_words (by decide)
  simpa [recordLine, Span.text, space, level, source] using message

section

variable {environment : Environment} {files : Files} {arguments : List String}
  {invocation : CommandLine.Invocation}

theorem runProgram_resolved {settings : Settings}
    (accepted : CommandLine.read arguments = .ok invocation)
    (resolved : invocation.settings files = .ok settings) :
    runProgram environment files arguments =
      conclude environment settings (runCommand settings.letters files invocation.command) := by
  rw [runProgram, accepted]
  dsimp only
  rw [execute, resolved]

theorem runProgram_unresolved {error : Settings.LoadError}
    (accepted : CommandLine.read arguments = .ok invocation)
    (failed : invocation.settings files = .error error) :
    runProgram environment files arguments =
      ⟨2, "", render environment.forceColour [failureLine error.message]⟩ := by
  rw [runProgram, accepted]
  dsimp only
  rw [execute, failed]

end

end HexPattern.PrintedLines
