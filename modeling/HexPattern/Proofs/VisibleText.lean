import HexPattern.Proofs.CommandRuns
import HexPattern.Proofs.QuotedTexts
import HexPattern.Proofs.WrittenForm
import Mathlib.Tactic.IntervalCases

/-! What is reported shows all that it holds. Texts of patterns and buffers
enter messages between quotes, where every invisible character is spelled
out, and all other parts of a message are plain, so that no text can bring a
line feed or a control sequence into the diagnostics. -/
namespace HexPattern.VisibleText
open CommandRuns Session
open QuotedTexts (IsQuote quotedChar_cases)

/-- Whether a character is one of the basic set that has a shape, or the space. -/
def isPlain (c : Char) : Bool := 0x20 ≤ c.toNat && c.toNat ≤ 0x7E

/-- No character of the text is invisible. -/
def Visible (text : String) : Prop := ∀ c ∈ text.toList, Text.isInvisible c = false

private theorem ranges_spare_plain : ∀ range ∈ Text.unprintable ++ Text.combining ++ Text.fillers,
    range.2 < 0x20 ∨ 0x7E < range.1 := by
  decide +kernel

private theorem outside_ranges {ranges : List (Nat × Nat)} {code : Nat}
    (spared : ∀ range ∈ ranges, range.2 < 0x20 ∨ 0x7E < range.1)
    (plain : 0x20 ≤ code ∧ code ≤ 0x7E) : Text.inRanges ranges code = false := by
  rw [Text.inRanges, List.any_eq_false]
  intro range member
  have apart := spared range member
  simp only [Bool.and_eq_true, decide_eq_true_eq]
  omega

theorem visible_of_plain {c : Char} (plain : isPlain c) : Text.isInvisible c = false := by
  simp only [isPlain, Bool.and_eq_true, decide_eq_true_eq] at plain
  have spared := ranges_spare_plain
  simp only [List.forall_mem_append] at spared
  obtain ⟨⟨unprintable, combining⟩, fillers⟩ := spared
  simp [Text.isInvisible, outside_ranges unprintable plain, outside_ranges combining plain,
    outside_ranges fillers plain]

private theorem all_visible {text : List Char} (plain : text.all isPlain) :
    ∀ c ∈ text, Text.isInvisible c = false :=
  fun c member => visible_of_plain (List.all_eq_true.mp plain c member)

theorem visible_words {text : String} (plain : text.toList.all isPlain) : Visible text :=
  all_visible plain

theorem visible_append {front back : String} (inFront : Visible front) (behind : Visible back) :
    Visible (front ++ back) := by
  intro c member
  rw [String.toList_append, List.mem_append] at member
  rcases member with member | member
  · exact inFront c member
  · exact behind c member

theorem visible_between {front text back : String} (shown : Visible text)
    (plain : (front.toList ++ back.toList).all isPlain) : Visible (front ++ text ++ back) := by
  rw [List.all_append, Bool.and_eq_true] at plain
  exact visible_append (visible_append (visible_words plain.1) shown) (visible_words plain.2)

theorem digit_plain (digit : Nat) : isPlain (Nat.digitChar digit) := by
  by_cases small : digit < 16
  · interval_cases digit <;> decide
  · rw [Nat.digitChar_eq_star.mpr (Nat.le_of_not_lt small)]
    decide

theorem digits_plain {base : Nat} (two : 1 < base) (number : Nat) :
    (Nat.toDigits base number).all isPlain := by
  induction number using Nat.strongRecOn with
  | ind number ih =>
    rw [Nat.toDigits_eq_if two]
    split
    · simpa using digit_plain number
    · rename_i large
      have less : number / base < number := Nat.div_lt_self (by omega) two
      rw [List.all_append, ih _ less]
      simpa using digit_plain (number % base)

theorem visible_number (number : Nat) : Visible (toString number) := by
  refine visible_words ?_
  rw [Nat.toString_eq_repr, Nat.toList_repr]
  exact digits_plain (by decide) number

theorem visible_offset (offset : Nat) : Visible (Offset.hexText offset) := by
  refine visible_append (visible_words (by decide)) (visible_words ?_)
  rw [String.toList_ofList]
  exact digits_plain (by decide) offset

/-- Between quotes, an invisible character stands as its code point. -/
theorem visible_quotedChar {quote : Char} (mark : IsQuote quote) (c : Char) :
    ∀ shown ∈ Text.quotedChar quote c, Text.isInvisible shown = false := by
  rcases quotedChar_cases mark c with ⟨letter, known, written, -⟩ | written |
    ⟨written, visible, -, -⟩
  · have plain : ['0', 't', 'r', 'n', '\\', quote].all isPlain := by
      rcases mark with rfl | rfl <;> decide
    rw [written]
    refine all_visible ?_
    rw [List.all_cons, List.all_cons, List.all_eq_true.mp plain letter known]
    decide
  · rw [written]
    refine all_visible ?_
    rw [Text.codePointEscape, List.all_append, List.all_append, digits_plain (by decide)]
    decide
  · rw [written]
    exact List.forall_mem_singleton.mpr visible

theorem visible_quotedChars {quote : Char} (mark : IsQuote quote) (text : List Char) :
    Visible (String.ofList (Text.quotedChars quote text)) := by
  have shownQuote : Text.isInvisible quote = false := by
    rcases mark with rfl | rfl
    · exact visible_of_plain (by decide)
    · exact visible_of_plain (by decide)
  rw [Visible, String.toList_ofList, Text.quotedChars, List.forall_mem_cons, List.forall_mem_append]
  refine ⟨shownQuote, ?_, List.forall_mem_singleton.mpr shownQuote⟩
  intro shown member
  obtain ⟨c, -, here⟩ := List.mem_flatMap.mp member
  exact visible_quotedChar mark c shown here

theorem visible_quoted (text : String) : Visible (Text.quoted text) :=
  visible_quotedChars (.inl rfl) text.toList

theorem visible_fault (fault : Fault) : Visible fault.message := by
  cases fault with
  | unexpectedCharacter position found =>
    have letter : Visible (Text.quotedLetter found) := visible_quotedChars (.inr rfl) [found]
    exact visible_append (visible_between letter (by decide)) (visible_number position)
  | openCell index => exact visible_between (visible_number index) (by decide)
  | noValue => exact visible_words (by decide)

/-- A failure names a file as it was given, and all else in plain words or in quotes. -/
theorem visible_message {failure : Failure}
    (noFile : ∀ path error, failure ≠ .unreadableBuffer path error) : Visible failure.message := by
  cases failure with
  | badPattern text fault =>
    exact visible_append (visible_between (visible_quoted text) (by decide)) (visible_fault fault)
  | badBuffer text fault =>
    exact visible_append (visible_between (visible_quoted text) (by decide)) (visible_fault fault)
  | openBuffer fault => exact visible_append (visible_words (by decide)) (visible_fault fault)
  | unreadableBuffer path error => exact absurd rfl (noFile path error)
  | outOfBounds length offset size =>
    refine visible_append (visible_append ?_ (visible_number size)) (visible_words (by decide))
    refine visible_append (visible_append ?_ (visible_offset offset)) (visible_words (by decide))
    exact visible_between (visible_number length) (by decide)
  | noBytes fault => exact visible_fault fault
  | overrun last size =>
    exact visible_append (visible_between (visible_number last) (by decide)) (visible_number size)

theorem nibble_char_plain (letters : LetterCase) (nibble : Nibble) : isPlain (nibble.char letters) := by
  cases nibble with
  | any => exact (by decide : isPlain '?')
  | fixed value => cases letters <;> revert value <;> decide

theorem cell_chars_plain (letters : LetterCase) (cell : Cell) :
    (cell.chars letters).all isPlain := by
  simp [Cell.chars, nibble_char_plain]

theorem visible_pattern (letters : LetterCase) (pattern : Pattern) :
    Visible (pattern.text letters) := by
  intro c member
  rw [WrittenForm.toList_text] at member
  rcases WrittenForm.nibble_or_space_of_mem member with rfl | ⟨nibble, rfl⟩
  · exact visible_of_plain (by decide)
  · exact visible_of_plain (nibble_char_plain letters nibble)

/-- All that these records say is visible. -/
def AllVisible (records : List Log.Record) : Prop := ∀ record ∈ records, Visible record.message

theorem allVisible_append {front back : List Log.Record} (inFront : AllVisible front)
    (behind : AllVisible back) : AllVisible (front ++ back) :=
  List.forall_mem_append.mpr ⟨inFront, behind⟩

theorem visible_cellRecord (index : Nat) (cell : Cell) : Visible (cellRecord index cell).message := by
  have shown : Visible (cell.text .upper) := by
    refine visible_words ?_
    rw [Cell.text, String.toList_ofList]
    exact cell_chars_plain .upper cell
  exact visible_append (visible_between (visible_number index) (by decide)) shown

theorem visible_outcome (text : String) (reading : Reading) :
    Visible (reading.outcomeRecord text).message := by
  have shown := visible_quoted text
  unfold Reading.outcomeRecord
  cases reading.fault? with
  | some fault =>
    exact visible_append (visible_between shown (by decide)) (visible_fault fault)
  | none =>
    cases reading.cells with
    | nil => exact visible_between shown (by decide)
    | cons cell rest =>
      refine visible_append (visible_append ?_ (visible_number _)) (visible_words (by decide))
      exact visible_between shown (by decide)

theorem allVisible_reading (text : String) : AllVisible (readingRecords text) := by
  intro record member
  rcases mem_readingRecords member with ⟨index, cell, rfl⟩ | rfl
  · exact visible_cellRecord index cell
  · exact visible_outcome text (Reading.ofText text)

theorem allVisible_of_bufferRun {files : Files} {source : CommandLine.BufferSource}
    {run : Run (List UInt8)} (ran : BufferRun files source run) : AllVisible run.records := by
  have nothing : AllVisible [] := by simp [AllVisible]
  cases ran with
  | badText refused => exact allVisible_reading _
  | openText read noBytes => exact allVisible_reading _
  | text read bytes => exact allVisible_reading _
  | unreadable refused => exact nothing
  | file found => exact nothing

theorem allVisible_of_testRun {letters : LetterCase} {files : Files} {text : String}
    {source : CommandLine.BufferSource} {offset : Nat} {run : Run Bool}
    (ran : TestRun letters files text source offset run) : AllVisible run.records := by
  cases ran with
  | badPattern refused => exact allVisible_reading text
  | noBuffer read missing =>
    exact allVisible_append (allVisible_reading text) (allVisible_of_bufferRun missing)
  | outside read held leaves =>
    exact allVisible_append (allVisible_reading text) (allVisible_of_bufferRun held)
  | @compared pattern _ _ _ read held inside answer =>
    have before := allVisible_append (allVisible_reading text) (allVisible_of_bufferRun held)
    refine allVisible_append before (List.forall_mem_singleton.mpr ?_)
    exact visible_append (visible_between (visible_pattern .upper pattern) (by decide))
      (visible_offset offset)

theorem allVisible_of_inspectRun {letters : LetterCase} {text : String} {run : Run Unit}
    (ran : InspectRun letters text run) : AllVisible run.records := by
  have inspected : ∀ pattern, AllVisible (inspectedRecords text pattern) := by
    intro pattern
    refine allVisible_append (allVisible_reading text) ?_
    cases pattern.isEmpty with
    | true => exact List.forall_mem_singleton.mpr (visible_words (by decide))
    | false => simp [AllVisible]
  cases ran with
  | badPattern refused => exact allVisible_reading text
  | withoutBytes read wild => exact inspected _
  | withBytes read closed found => exact inspected _

/-- Whatever a command is given, all that it reports is visible. -/
theorem allVisible_of_commandRun {letters : LetterCase} {files : Files}
    {command : CommandLine.Command} {run : Run Bool} (ran : CommandRun letters files command run) :
    AllVisible run.records := by
  cases ran with
  | refused ran => exact allVisible_of_inspectRun ran
  | inspected ran => exact allVisible_of_inspectRun ran
  | tested ran => exact allVisible_of_testRun ran

end HexPattern.VisibleText
