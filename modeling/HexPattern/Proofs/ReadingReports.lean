import HexPattern.Proofs.BufferSources
import HexPattern.Proofs.LineIntegrity
import HexPattern.Proofs.QuotedTexts
import HexPattern.Proofs.TestVerdict
import Mathlib.Data.List.DropRight

/-! What the reader reports while it reads. `Reads` is its loop with everything that it
says on the way: each cell under its number as soon as the cell is complete, and one
record when the loop is left. What has been said is then found in the text: the cells are
those of the text in front of the first illegible character, less the last one if only
its upper half had been read. This can be told from the characters behind the last
blank, without following the reader. The last record quotes the text, so that two texts
are never reported alike. -/
namespace HexPattern.ReadingReports
open CommandLine (BufferSource Invocation)
open LineIntegrity (logLine render_recordLine)
open CommandRuns PrintedLines QuotedTexts ReaderSemantics Session
open Terminal (render)
open TestVerdict (Holds holds_iff_run)
open Text (isBlank)

/-- A text was read to its end. -/
def parsedRecord (text : String) (count : Nat) : Log.Record :=
  ⟨.debug, .reader,
    if count = 0 then "pattern " ++ Text.quoted text ++ " contains no units"
    else "parsed pattern " ++ Text.quoted text ++ " into " ++ toString count ++ " units"⟩

/-- A text was refused. -/
def rejectedRecord (text : String) (fault : Fault) : Log.Record :=
  ⟨.debug, .reader, "rejected pattern " ++ Text.quoted text ++ ": " ++ fault.message⟩

/-- The loop of the reader, where it stands with some cells read: what it still reports
and what it comes to. -/
inductive Reads (text : String) :
    List Cell → Cursor → List Log.Record → Except Fault Pattern → Prop
  | refused {cells cursor fault} (stops : cursor.nextCell = .error fault) :
      Reads text cells cursor [rejectedRecord text fault] (.error fault)
  | ended {cells cursor} (done : cursor.nextCell = .ok none) :
      Reads text cells cursor [parsedRecord text cells.length] (.ok (.ofCells cells))
  | cell {cells cursor cell next records result} (read : cursor.nextCell = .ok (some (cell, next)))
      (onward : Reads text (cells ++ [cell]) next records result) :
      Reads text cells cursor (cellRecord cells.length cell :: records) result

/-- What records say of what was read: the cell and its place, and in the end the text
itself between quotes, with the number of its cells or the fault. Nothing else is said in
the same words, so all this can be told from the records. -/
structure RecordsTell (text : String) : Prop where
  cell : ∀ index cell otherIndex otherCell,
    cellRecord index cell = cellRecord otherIndex otherCell → index = otherIndex ∧ cell = otherCell
  quotedNothing : Quotes '"' (parsedRecord text 0).message "pattern " text.toList
    " contains no units"
  quotedCells : ∀ count ≠ 0, Quotes '"' (parsedRecord text count).message "parsed pattern "
    text.toList (" into " ++ toString count ++ " units")
  quotedFault : ∀ fault, Quotes '"' (rejectedRecord text fault).message "rejected pattern "
    text.toList (": " ++ fault.message)
  count : ∀ count other otherCount,
    parsedRecord text count = parsedRecord other otherCount → text = other ∧ count = otherCount
  fault : ∀ fault other otherFault,
    rejectedRecord text fault = rejectedRecord other otherFault → text = other ∧ fault = otherFault
  whole : ∀ other, readingRecords text = readingRecords other → text = other

/-- The characters behind the last blank. -/
def lastStretch (text : List Char) : List Char := text.rtakeWhile fun c => !isBlank c

/-- What is reported of reading a buffer. A file is not read as a pattern. -/
def bufferRecords : BufferSource → List Log.Record
  | .hex text => readingRecords text
  | .file _ => []

/-- What a test reports once its texts are read: the comparison, if it comes to one. -/
inductive Announces (files : Files) (source : BufferSource) (pattern : Pattern) (offset : Nat) :
    List Log.Record → Prop
  | comparison {buffer} (held : Holds files source buffer)
      (representable : offset + pattern.length < UInt64.size)
      (inside : offset + pattern.length ≤ buffer.length) :
      Announces files source pattern offset [testRecord pattern offset]
  | nothing (prevented : ∀ buffer, Holds files source buffer →
        UInt64.size ≤ offset + pattern.length ∨ buffer.length < offset + pattern.length) :
      Announces files source pattern offset []

section

variable {text : String} {cells : List Cell} {cursor : Cursor} {fault : Fault} {pattern : Pattern}
  {records : List Log.Record} {result : Except Fault Pattern}

theorem cellRecords_eq (index : Nat) (cells : List Cell) : Reading.cellRecords index cells =
    cells.mapIdx fun place cell => cellRecord (index + place) cell := by
  induction cells generalizing index with
  | nil => rfl
  | cons cell rest ih =>
    rw [Reading.cellRecords, ih, List.mapIdx_cons]
    simp only [Nat.add_right_comm index 1, Nat.add_assoc]
    rfl

/-- In a whole text a cell is reported under its place. -/
theorem cellRecords_zero (cells : List Cell) :
    Reading.cellRecords 0 cells = cells.mapIdx cellRecord := by
  simp only [cellRecords_eq, Nat.zero_add]

theorem outcomeRecord_refused (text : String) (cells : List Cell) (fault : Fault) :
    Reading.outcomeRecord text ⟨cells, some fault⟩ = rejectedRecord text fault := rfl

theorem outcomeRecord_ended (text : String) (cells : List Cell) :
    Reading.outcomeRecord text ⟨cells, none⟩ = parsedRecord text cells.length := by
  cases cells <;> rfl

/-- What is reported of the text from a place on, where some cells were read before. -/
def reportsFrom (text : String) (cells : List Cell) (cursor : Cursor) : List Log.Record :=
  let reading := Reading.ofCursor cursor
  Reading.cellRecords cells.length reading.cells ++ [(prepend cells reading).outcomeRecord text]

/-- What the reading comes to from there. -/
def comesTo (cells : List Cell) (cursor : Cursor) : Except Fault Pattern :=
  (prepend cells (Reading.ofCursor cursor)).result

theorem reports_refused (text : String) (cells : List Cell) (stops : cursor.nextCell = .error fault) :
    reportsFrom text cells cursor = [rejectedRecord text fault] ∧
      comesTo cells cursor = .error fault := by
  rw [reportsFrom, comesTo, ofCursor_eq, stops]
  exact ⟨rfl, rfl⟩

theorem reports_ended (text : String) (cells : List Cell) (done : cursor.nextCell = .ok none) :
    reportsFrom text cells cursor = [parsedRecord text cells.length] ∧
      comesTo cells cursor = .ok (.ofCells cells) := by
  rw [reportsFrom, comesTo, ofCursor_eq, done]
  dsimp only [prepend]
  rw [List.append_nil, outcomeRecord_ended]
  exact ⟨rfl, rfl⟩

/-- A cell is reported, and then all that is reported behind it. -/
theorem reports_cell (text : String) (cells : List Cell) {cell : Cell} {next : Cursor}
    (read : cursor.nextCell = .ok (some (cell, next))) :
    reportsFrom text cells cursor =
        cellRecord cells.length cell :: reportsFrom text (cells ++ [cell]) next ∧
      comesTo cells cursor = comesTo (cells ++ [cell]) next := by
  have moved : prepend cells (Reading.ofCursor cursor) =
      prepend (cells ++ [cell]) (Reading.ofCursor next) := by
    rw [ofCursor_eq, read]
    exact prepend_prepend cells [cell] (Reading.ofCursor next)
  refine ⟨?_, congrArg Reading.result moved⟩
  rw [reportsFrom, reportsFrom, moved, List.length_append, List.length_singleton, ofCursor_eq, read]
  rfl

/-- From every place the loop reports what the reading gives from there on, whatever was
read before. -/
theorem reads_from_iff : Reads text cells cursor records result ↔
    records = reportsFrom text cells cursor ∧ result = comesTo cells cursor := by
  constructor
  · intro reads
    induction reads with
    | refused stops =>
      obtain ⟨reports, comes⟩ := reports_refused text _ stops
      exact ⟨reports.symm, comes.symm⟩
    | ended done =>
      obtain ⟨reports, comes⟩ := reports_ended text _ done
      exact ⟨reports.symm, comes.symm⟩
    | cell read onward ih =>
      obtain ⟨reports, comes⟩ := reports_cell text _ read
      rw [reports, comes, ← ih.1, ← ih.2]
      exact ⟨rfl, rfl⟩
  · rintro ⟨rfl, rfl⟩
    -- each cell that is read makes the rest shorter, so the loop is left
    induction cursor using Reading.ofCursor.induct generalizing cells with
    | case1 cursor fault stops =>
      obtain ⟨reports, comes⟩ := reports_refused text cells stops
      rw [reports, comes]
      exact .refused stops
    | case2 cursor done =>
      obtain ⟨reports, comes⟩ := reports_ended text cells done
      rw [reports, comes]
      exact .ended done
    | case3 cursor cell next read shorter ih =>
      obtain ⟨reports, comes⟩ := reports_cell text cells read
      rw [reports, comes]
      exact .cell read ih

/-- The reports of a text are those of the loop that begins in front of it. -/
theorem reads_iff : Reads text [] ⟨0, text.toList⟩ records result ↔
    records = readingRecords text ∧ result = Pattern.ofText text :=
  reads_from_iff

/-- Half a cell is left where the last stretch is odd. -/
theorem pendingBy_isSome (text : List Char) :
    (pendingBy none text).isSome = decide (Odd (lastStretch text).length) := by
  induction text using List.reverseRecOn with
  | nil => rfl
  | append_singleton front c ih =>
    have step : pendingBy none (front ++ [c]) = pendingAfter (pendingBy none front) c :=
      pendingBy_append none front [c]
    rw [step, lastStretch, List.rtakeWhile_concat]
    by_cases blank : isBlank c = true
    · simp [pendingAfter, blank]
    · have turned : (pendingAfter (pendingBy none front) c).isSome = !(pendingBy none front).isSome := by
        cases pendingBy none front <;> simp [pendingAfter, blank]
      rw [turned, ih, if_pos (by simpa using blank), List.length_append, List.length_singleton,
        ← lastStretch, ← decide_not, decide_eq_decide]
      exact Nat.odd_add_one.symm

/-- What is complete of an accepted text does not end in half a cell. -/
theorem completedBy_eq {text : List Char} (accepted : Pattern.ofChars text = .ok pattern) :
    completedBy none text =
      if Odd (lastStretch text).length then pattern.cells.dropLast else pattern.cells := by
  have half := pendingBy_isSome text
  have cells : pattern.cells = completedBy none text ++ halfCell (pendingBy none text) := by
    rw [eq_of_accepted accepted, Pattern.cells_ofCells]
  rw [cells]
  cases pending : pendingBy none text with
  | none =>
    rw [pending] at half
    have even : ¬ Odd (lastStretch text).length := of_decide_eq_false half.symm
    rw [if_neg even, halfCell, List.append_nil]
  | some high =>
    rw [pending] at half
    have odd : Odd (lastStretch text).length := of_decide_eq_true half.symm
    rw [if_pos odd, halfCell, List.dropLast_concat]

theorem readingRecords_accepted (accepted : Pattern.ofText text = .ok pattern) :
    readingRecords text =
      pattern.cells.mapIdx cellRecord ++ [parsedRecord text pattern.length] := by
  have reading := reading_of_accepted accepted
  rw [readingRecords, Reading.ofText, reading, Reading.records, outcomeRecord_ended,
    cellRecords_zero]
  rfl

theorem readingRecords_refused (refused : Pattern.ofText text = .error fault) :
    ∃ position found front, fault = .unexpectedCharacter position found ∧
      Pattern.ofText (String.ofList (text.toList.take position)) = .ok front ∧
      readingRecords text =
        (if Odd (lastStretch (text.toList.take position)).length then front.cells.dropLast
          else front.cells).mapIdx cellRecord ++ [rejectedRecord text fault] := by
  obtain ⟨position, found, first, rfl⟩ := firstIllegible_of_refused refused
  obtain ⟨front, accepted⟩ : ∃ front, Pattern.ofChars (text.toList.take position) = .ok front :=
    ⟨_, ofChars_legible first.legibleBefore⟩
  refine ⟨position, found, front, rfl, ?_, ?_⟩
  · rw [Pattern.ofText, String.toList_ofList]
    exact accepted
  · obtain ⟨length, split⟩ := first_illegible_split first
    have reading := reading_of_illegible (text.toList.drop (position + 1)) first.legibleBefore
      first.illegible
    rw [← split, length] at reading
    rw [readingRecords, Reading.ofText, reading, Reading.records, outcomeRecord_refused,
      cellRecords_zero, completedBy_eq accepted]

example : Reading.ofText "A5 7é" =
    ⟨[⟨.fixed 10, .fixed 5⟩], some (.unexpectedCharacter 4 'é')⟩ := by
  cbv

end

section

variable {text other : String} {count otherCount : Nat} {fault otherFault : Fault}

theorem char_inj {letters : LetterCase} {nibble otherNibble : Nibble}
    (same : nibble.char letters = otherNibble.char letters) : nibble = otherNibble := by
  rw [← Option.some_inj, ← Nibble.ofChar?_char letters, same, Nibble.ofChar?_char]

/-- The characters of a cell are two, so what is in front of them is told apart. -/
theorem cellRecord_inj {index otherIndex : Nat} {cell otherCell : Cell}
    (same : cellRecord index cell = cellRecord otherIndex otherCell) :
    index = otherIndex ∧ cell = otherCell := by
  have message (index : Nat) (cell : Cell) : (cellRecord index cell).message.toList =
      ("unit " ++ toString index ++ ": ").toList ++ cell.chars .upper := by
    rw [cellRecord, Cell.text, String.toList_append, String.toList_ofList]
  have messages := congrArg (fun record => record.message.toList) same
  rw [message, message] at messages
  obtain ⟨front, chars⟩ := List.append_inj' messages rfl
  have numbers := (String.append_right_inj _).mp
    ((String.append_left_inj _).mp (String.toList_inj.mp front))
  obtain ⟨high, low⟩ : cell.high.char .upper = otherCell.high.char .upper ∧
      cell.low.char .upper = otherCell.low.char .upper := by
    simpa [Cell.chars] using chars
  exact ⟨number_of_text numbers, Cell.ext (char_inj high) (char_inj low)⟩

theorem quotes_nothing (text : String) :
    Quotes '"' (parsedRecord text 0).message "pattern " text.toList " contains no units" :=
  quotes_between (.inl rfl) _ text.toList _

theorem quotes_cells (text : String) (read : count ≠ 0) :
    Quotes '"' (parsedRecord text count).message "parsed pattern " text.toList
      (" into " ++ toString count ++ " units") := by
  have words : (parsedRecord text count).message = "parsed pattern " ++ Text.quoted text ++
      (" into " ++ toString count ++ " units") := by
    rw [parsedRecord, if_neg read, ← String.append_assoc, ← String.append_assoc]
  rw [words]
  exact quotes_between (.inl rfl) _ text.toList _

theorem quotes_fault (text : String) (fault : Fault) :
    Quotes '"' (rejectedRecord text fault).message "rejected pattern " text.toList
      (": " ++ fault.message) :=
  quotes_before (.inl rfl) _ text.toList _ _

theorem rejectedRecord_inj (same : rejectedRecord text fault = rejectedRecord other otherFault) :
    text = other ∧ fault = otherFault := by
  obtain ⟨letters, behind⟩ := (quotes_fault text fault).inj (quotes_fault other otherFault)
    (congrArg Log.Record.message same)
  exact ⟨String.toList_inj.mp letters, message_inj ((String.append_right_inj _).mp behind)⟩

/-- What the last record begins with, in front of the text. -/
def outcomeFronts : List String := ["rejected pattern ", "parsed pattern ", "pattern "]

theorem outcomeFronts_apart : ∀ front ∈ outcomeFronts, ∀ other ∈ outcomeFronts,
    front.toList <+: other.toList → front = other := by
  decide

/-- However a text was left, the last record quotes it. -/
theorem quotes_outcome (text : String) (reading : Reading) : ∃ front ∈ outcomeFronts, ∃ behind,
    Quotes '"' (reading.outcomeRecord text).message front text.toList behind := by
  obtain ⟨cells, fault?⟩ := reading
  cases fault? with
  | some fault => exact ⟨"rejected pattern ", by decide, _, quotes_fault text fault⟩
  | none =>
    rw [outcomeRecord_ended]
    cases cells with
    | nil => exact ⟨"pattern ", by decide, _, quotes_nothing text⟩
    | cons cell rest =>
      exact ⟨"parsed pattern ", by decide, _, quotes_cells text (Nat.succ_ne_zero _)⟩

/-- One record does not end the reports of two texts. -/
theorem text_of_outcome {reading otherReading : Reading}
    (same : reading.outcomeRecord text = otherReading.outcomeRecord other) : text = other := by
  obtain ⟨front, known, behind, quotes⟩ := quotes_outcome text reading
  obtain ⟨otherFront, otherKnown, otherBehind, again⟩ := quotes_outcome other otherReading
  rw [← same] at again
  have fronts : front = otherFront := by
    rcases quotes.fronts again with shorter | shorter
    · exact outcomeFronts_apart front known otherFront otherKnown shorter
    · exact (outcomeFronts_apart otherFront otherKnown front known shorter).symm
  rw [← fronts] at again
  exact String.toList_inj.mp (quotes.inj again rfl).1

theorem parsed_apart (read : count ≠ 0) : parsedRecord text 0 ≠ parsedRecord other count := by
  intro same
  have nothing := quotes_nothing text
  rw [same] at nothing
  rcases nothing.fronts (quotes_cells other read) with shorter | shorter
  · exact absurd shorter (by decide)
  · exact absurd shorter (by decide)

theorem parsedRecord_inj (same : parsedRecord text count = parsedRecord other otherCount) :
    text = other ∧ count = otherCount := by
  by_cases nothing : count = 0
  · by_cases otherNothing : otherCount = 0
    · rw [nothing, otherNothing] at same
      have letters := ((quotes_nothing text).inj (quotes_nothing other)
        (congrArg Log.Record.message same)).1
      exact ⟨String.toList_inj.mp letters, nothing.trans otherNothing.symm⟩
    · rw [nothing] at same
      exact absurd same (parsed_apart otherNothing)
  · by_cases otherNothing : otherCount = 0
    · rw [otherNothing] at same
      exact absurd same.symm (parsed_apart nothing)
    · obtain ⟨letters, behind⟩ := (quotes_cells text nothing).inj (quotes_cells other otherNothing)
        (congrArg Log.Record.message same)
      have numbers := (String.append_right_inj _).mp ((String.append_left_inj _).mp behind)
      exact ⟨String.toList_inj.mp letters, number_of_text numbers⟩

theorem text_of_records (same : readingRecords text = readingRecords other) : text = other := by
  have ends : (Reading.ofText text).outcomeRecord text = (Reading.ofText other).outcomeRecord other :=
    List.singleton_inj.mp (List.append_inj_right' same rfl)
  exact text_of_outcome ends

theorem records_tell (text : String) : RecordsTell text where
  cell _ _ _ _ := cellRecord_inj
  quotedNothing := quotes_nothing text
  quotedCells _ := quotes_cells text
  quotedFault := quotes_fault text
  count _ _ _ := parsedRecord_inj
  fault _ _ _ := rejectedRecord_inj
  whole _ := text_of_records

end

section

variable {letters : LetterCase} {files : Files} {text : String} {source : BufferSource}
  {offset : Nat} {run : Run Bool} {pattern : Pattern} {fault : Fault}

theorem records_of_bufferRun {run : Run (List UInt8)} (ran : BufferRun files source run) :
    run.records = bufferRecords source := by
  cases ran <;> rfl

/-- A source holds the bytes that were read from it and no others. -/
theorem holds_of_run {records : List Log.Record} {buffer other : List UInt8}
    (ran : BufferRun files source ⟨records, [], .ok buffer⟩) (held : Holds files source other) :
    other = buffer := by
  obtain ⟨_, again⟩ := holds_iff_run.mp held
  cases bufferRun_unique ran again
  rfl

/-- Past a refused pattern a test reports nothing. -/
theorem records_of_refused_test (refused : Pattern.ofText text = .error fault) :
    (test letters files text source offset).records = readingRecords text := by
  rw [test, readPattern_error refused, Run.error_bind]

theorem records_of_test (accepted : Pattern.ofText text = .ok pattern)
    (ran : TestRun letters files text source offset run) :
    ∃ announced, Announces files source pattern offset announced ∧
      run.records = readingRecords text ++ bufferRecords source ++ announced := by
  cases ran with
  | badPattern refused =>
    rw [accepted] at refused
    cases refused
  | noBuffer read missing =>
    refine ⟨[], .nothing fun buffer held => ?_, ?_⟩
    · obtain ⟨_, found⟩ := holds_iff_run.mp held
      cases bufferRun_unique missing found
    · rw [List.append_nil, ← records_of_bufferRun missing]
  | outside read held leaves =>
    rw [accepted] at read
    cases read
    refine ⟨[], .nothing fun buffer other => ?_, ?_⟩
    · rw [holds_of_run held other]
      have outside := mt staysInside_iff.mpr (Bool.eq_false_iff.mp leaves)
      omega
    · rw [List.append_nil, ← records_of_bufferRun held]
  | compared read held inside answer =>
    rw [accepted] at read
    cases read
    obtain ⟨representable, fits⟩ := staysInside_iff.mp inside
    refine ⟨_, .comparison (holds_iff_run.mpr ⟨_, held⟩) representable fits, ?_⟩
    rw [← records_of_bufferRun held]

/-- At the highest verbosity nothing is held back. -/
theorem kept_trace (records : List Log.Record) : Log.kept .trace records = records := by
  apply List.filter_eq_self.mpr
  intro record _
  cases level : record.level <;> simp [Log.Record.shownAt, level, Log.Level.detail]

/-- What a test shows at the highest verbosity is all that it reports, and then how it
failed, if it did. -/
theorem stderr_of_test {arguments : List String} {invocation : Invocation} {settings : Settings}
    (accepted : CommandLine.read arguments = .ok invocation)
    (isTest : invocation.command = .test text source offset)
    (resolved : invocation.settings files = .ok settings) (most : settings.verbosity = 3)
    (forceColour : Bool) :
    let colour := forceColour && settings.useColor
    let run := test settings.letters files text source offset
    (runProgram ⟨forceColour, false⟩ files arguments).stderr =
      render colour (run.records.map recordLine) ++ render colour (failureLines run.result) := by
  have everything : settings.threshold = .trace := by
    rw [Settings.threshold, most]
    rfl
  rw [runProgram_resolved accepted resolved, isTest, ReportLines.stderr_eq, shownRecords,
    if_neg Bool.false_ne_true, everything, kept_trace]
  rfl

end

/-- What reading a text reports, for every text, that the text, its cells and its fault can
be told from the reports, and what a test shows of it. -/
theorem reader_reports_its_cells (text : String) :
    (∀ records result, Reads text [] ⟨0, text.toList⟩ records result ↔
      records = readingRecords text ∧ result = Pattern.ofText text) ∧
    (∀ pattern, Pattern.ofText text = .ok pattern →
      readingRecords text =
        pattern.cells.mapIdx cellRecord ++ [parsedRecord text pattern.length]) ∧
    (∀ fault, Pattern.ofText text = .error fault → ∃ position found front,
      fault = .unexpectedCharacter position found ∧
        Pattern.ofText (String.ofList (text.toList.take position)) = .ok front ∧
        readingRecords text =
          (if Odd (lastStretch (text.toList.take position)).length then front.cells.dropLast
            else front.cells).mapIdx cellRecord ++ [rejectedRecord text fault]) ∧
    RecordsTell text ∧
    -- What a test shows at the highest verbosity.
    ∀ arguments invocation files settings source offset forceColour,
      CommandLine.read arguments = .ok invocation →
      invocation.command = .test text source offset →
      invocation.settings files = .ok settings → settings.verbosity = 3 →
      ∃ shown, (runProgram ⟨forceColour, false⟩ files arguments).stderr =
          render (forceColour && settings.useColor) (shown.map recordLine) ++
            render (forceColour && settings.useColor)
              (failureLines (test settings.letters files text source offset).result) ∧
        (∀ record ∈ shown, (recordLine record).render false = logLine record) ∧
        (∀ fault, Pattern.ofText text = .error fault → shown = readingRecords text) ∧
        ∀ pattern, Pattern.ofText text = .ok pattern → ∃ announced,
          Announces files source pattern offset announced ∧
            shown = readingRecords text ++ bufferRecords source ++ announced := by
  refine ⟨fun records result => reads_iff, fun pattern => readingRecords_accepted,
    fun fault => readingRecords_refused, records_tell text, ?_⟩
  intro arguments invocation files settings source offset forceColour accepted isTest resolved most
  refine ⟨_, stderr_of_test accepted isTest resolved most forceColour,
    fun record _ => render_recordLine record, ?_, ?_⟩
  · intro fault refused
    exact records_of_refused_test refused
  · intro pattern read
    exact records_of_test read (test_run settings.letters files text source offset)

/-- A test of one byte against the second of two says this much. -/
theorem all_shown_of_one_byte_test :
    let files : Files := fun _ => .error .notFound
    let arguments := ["-vvv", "test", "A5", "--hex", "00 A5", "--offset", "1"]
    let invocation : Invocation := ⟨{ verbose := 3 }, {}, .test "A5" (.hex "00 A5") 1⟩
    let byte : Pattern := .ofCells [⟨.fixed 10, .fixed 5⟩]
    CommandLine.read arguments = .ok invocation ∧
      invocation.settings files = .ok { verbosity := 3 } ∧
      Pattern.ofText "A5" = .ok byte ∧
      (runProgram ⟨false, false⟩ files arguments).stderr =
        render false (([cellRecord 0 ⟨.fixed 10, .fixed 5⟩, parsedRecord "A5" 1] ++
          readingRecords "00 A5" ++ [testRecord byte 1]).map recordLine) ++
        render false (failureLines (test .upper files "A5" (.hex "00 A5") 1).result) := by
  intro files arguments invocation byte
  have accepted : CommandLine.read arguments = .ok invocation := rfl
  have resolved : invocation.settings files = .ok { verbosity := 3 } := rfl
  have read : Pattern.ofText "A5" = .ok byte := by cbv
  have readBuffer : Pattern.ofText "00 A5" =
      .ok (.ofCells [⟨.fixed 0, .fixed 0⟩, ⟨.fixed 10, .fixed 5⟩]) := by cbv
  have held : Holds files (.hex "00 A5") [0x00, 0xA5] := .text readBuffer rfl rfl
  obtain ⟨-, whole, -, -, run⟩ := reader_reports_its_cells "A5"
  obtain ⟨shown, stderr, -, -, behind⟩ := run arguments invocation files _ _ _ false accepted rfl resolved rfl
  obtain ⟨announced, announces, rfl⟩ := behind byte read
  refine ⟨accepted, resolved, read, ?_⟩
  cases announces with
  | comparison =>
    rw [whole byte read] at stderr
    exact stderr
  | nothing prevented => exact absurd (prevented _ held) (by decide)

end HexPattern.ReadingReports
