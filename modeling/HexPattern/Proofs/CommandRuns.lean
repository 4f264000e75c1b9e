import HexPattern.Proofs.MaskedComparison
import HexPattern.Proofs.OpenCells
import HexPattern.Session.Command

/-! How the commands run. The relations below say for each way in which a
command can end what was reported and printed on the way and what it came to.
They hold of the commands for all texts, sources and offsets, so that results
about runs go by cases on them and need not look at a command again. -/
namespace HexPattern.CommandRuns
open CommandLine (BufferSource Command)
open Session

/-- What reading a text of a pattern reports. -/
def readingRecords (text : String) : List Log.Record :=
  (Reading.ofText text).records text

/-- What is reported of one cell. -/
def cellRecord (index : Nat) (cell : Cell) : Log.Record :=
  ⟨.trace, .reader, "unit " ++ toString index ++ ": " ++ cell.text .upper⟩

theorem mem_cellRecords {index : Nat} {cells : List Cell} {record : Log.Record}
    (member : record ∈ Reading.cellRecords index cells) :
    ∃ place cell, record = cellRecord place cell := by
  induction cells generalizing index with
  | nil => cases member
  | cons cell rest ih =>
    rcases List.mem_cons.mp member with here | later
    · exact ⟨index, cell, here⟩
    · exact ih later

/-- Whatever is reported of reading a text is about a cell or the outcome. -/
theorem mem_readingRecords {text : String} {record : Log.Record}
    (member : record ∈ readingRecords text) :
    (∃ place cell, record = cellRecord place cell) ∨
      record = (Reading.ofText text).outcomeRecord text := by
  rcases List.mem_append.mp member with cells | outcome
  · exact .inl (mem_cellRecords cells)
  · exact .inr (List.mem_singleton.mp outcome)

/-- How a source of bytes is read. -/
inductive BufferRun (files : Files) : BufferSource → Run (List UInt8) → Prop
  | badText {text fault} (refused : Pattern.ofText text = .error fault) :
      BufferRun files (.hex text) ⟨readingRecords text, [], .error (.badBuffer text fault)⟩
  | openText {text pattern fault} (read : Pattern.ofText text = .ok pattern)
      (noBytes : pattern.toBytes = .error fault) :
      BufferRun files (.hex text) ⟨readingRecords text, [], .error (.openBuffer fault)⟩
  | text {text pattern buffer} (read : Pattern.ofText text = .ok pattern)
      (bytes : pattern.toBytes = .ok buffer) :
      BufferRun files (.hex text) ⟨readingRecords text, [], .ok buffer⟩
  | unreadable {path error} (refused : files path = .error error) :
      BufferRun files (.file path) ⟨[], [], .error (.unreadableBuffer path error)⟩
  | file {path contents} (found : files path = .ok contents) :
      BufferRun files (.file path) ⟨[], [], .ok contents.data.toList⟩

/-- How a test runs. -/
inductive TestRun (letters : LetterCase) (files : Files) (text : String) (source : BufferSource)
    (offset : Nat) : Run Bool → Prop
  | badPattern {fault} (refused : Pattern.ofText text = .error fault) :
      TestRun letters files text source offset
        ⟨readingRecords text, [], .error (.badPattern text fault)⟩
  | noBuffer {pattern records failure} (read : Pattern.ofText text = .ok pattern)
      (missing : BufferRun files source ⟨records, [], .error failure⟩) :
      TestRun letters files text source offset
        ⟨readingRecords text ++ records, [], .error failure⟩
  | outside {pattern records buffer} (read : Pattern.ofText text = .ok pattern)
      (held : BufferRun files source ⟨records, [], .ok buffer⟩)
      (leaves : staysInside pattern.length offset buffer.length = false) :
      TestRun letters files text source offset
        ⟨readingRecords text ++ records, [],
          .error (.outOfBounds pattern.length offset buffer.length)⟩
  | compared {pattern records buffer matched} (read : Pattern.ofText text = .ok pattern)
      (held : BufferRun files source ⟨records, [], .ok buffer⟩)
      (inside : staysInside pattern.length offset buffer.length = true)
      (answer : pattern.matchesAt? buffer offset = some matched) :
      TestRun letters files text source offset
        ⟨readingRecords text ++ records ++ [testRecord pattern offset],
          [labelled "Pattern:" (pattern.text letters),
            labelled "Data:   "
              (Hex.bytesText letters ((buffer.drop offset).take pattern.length)),
            verdictLine matched offset],
          .ok matched⟩

/-- The lines that describe every pattern. -/
def describedLines (letters : LetterCase) (pattern : Pattern) : List Terminal.Line :=
  [labelled "Pattern:" (pattern.text letters),
    labelled "Length:" (toString pattern.length),
    wildcardLine pattern,
    labelled "Mask:" (Hex.bytesText letters pattern.mask),
    labelled "Values:" (Hex.bytesText letters pattern.values)]

/-- The records of an inspection of a pattern that was read. -/
def inspectedRecords (text : String) (pattern : Pattern) : List Log.Record :=
  readingRecords text ++ if pattern.isEmpty then [emptyWarning] else []

/-- How an inspection runs. It fails only before it prints. -/
inductive InspectRun (letters : LetterCase) (text : String) : Run Unit → Prop
  | badPattern {fault} (refused : Pattern.ofText text = .error fault) :
      InspectRun letters text ⟨readingRecords text, [], .error (.badPattern text fault)⟩
  | withoutBytes {pattern} (read : Pattern.ofText text = .ok pattern)
      (wild : pattern.hasWildcards = true) :
      InspectRun letters text
        ⟨inspectedRecords text pattern, describedLines letters pattern, .ok ()⟩
  | withBytes {pattern bytes} (read : Pattern.ofText text = .ok pattern)
      (closed : pattern.hasWildcards = false) (found : pattern.toBytes = .ok bytes) :
      InspectRun letters text
        ⟨inspectedRecords text pattern,
          describedLines letters pattern ++ [labelled "Bytes:" (Hex.bytesText letters bytes)], .ok ()⟩

/-- How a command runs. An inspection that comes to its end finds all well. -/
inductive CommandRun (letters : LetterCase) (files : Files) : Command → Run Bool → Prop
  | refused {text records lines failure}
      (ran : InspectRun letters text ⟨records, lines, .error failure⟩) :
      CommandRun letters files (.inspect text) ⟨records, lines, .error failure⟩
  | inspected {text records lines} (ran : InspectRun letters text ⟨records, lines, .ok ()⟩) :
      CommandRun letters files (.inspect text) ⟨records, lines, .ok true⟩
  | tested {text source offset run} (ran : TestRun letters files text source offset run) :
      CommandRun letters files (.test text source offset) run

section

variable {reason : String → Fault → Failure} {text : String} {pattern : Pattern} {fault : Fault}

theorem readPattern_ok (read : Pattern.ofText text = .ok pattern) :
    readPattern reason text = ⟨readingRecords text, [], .ok pattern⟩ := by
  have result : (Reading.ofText text).result = .ok pattern := read
  simp [readPattern, Run.report, result, readingRecords]

theorem readPattern_error (refused : Pattern.ofText text = .error fault) :
    readPattern reason text = ⟨readingRecords text, [], .error (reason text fault)⟩ := by
  have result : (Reading.ofText text).result = .error fault := refused
  simp [readPattern, Run.report, result, readingRecords]

end

section

variable {files : Files} {source : BufferSource} {run : Run (List UInt8)}

/-- A source is read in no other way than this. -/
theorem readBuffer_eq (ran : BufferRun files source run) : readBuffer files source = run := by
  cases ran with
  | badText refused => rw [readBuffer, readPattern_error refused, Run.error_bind]
  | openText read noBytes =>
    rw [readBuffer, readPattern_ok read, Run.ok_bind, noBytes]
    simp
  | text read bytes =>
    rw [readBuffer, readPattern_ok read, Run.ok_bind, bytes]
    simp
  | unreadable refused =>
    rw [readBuffer, refused]
    rfl
  | file found =>
    rw [readBuffer, found]
    rfl

theorem readBuffer_run (files : Files) (source : BufferSource) :
    BufferRun files source (readBuffer files source) := by
  have comes : ∃ run, BufferRun files source run := by
    cases source with
    | hex text =>
      cases read : Pattern.ofText text with
      | error fault => exact ⟨_, .badText read⟩
      | ok pattern =>
        cases bytes : pattern.toBytes with
        | error fault => exact ⟨_, .openText read bytes⟩
        | ok buffer => exact ⟨_, .text read bytes⟩
    | file path =>
      cases found : files path with
      | error error => exact ⟨_, .unreadable found⟩
      | ok contents => exact ⟨_, .file found⟩
  obtain ⟨run, ran⟩ := comes
  rwa [readBuffer_eq ran]

theorem bufferRun_unique {other : Run (List UInt8)} (first : BufferRun files source run)
    (second : BufferRun files source other) : run = other :=
  (readBuffer_eq first).symm.trans (readBuffer_eq second)

/-- Reading a source prints nothing, so its runs are told by records and
result. -/
theorem bufferRun_quiet (ran : BufferRun files source run) : run.lines = [] := by
  cases ran <;> rfl

end

theorem staysInside_iff {length offset size : Nat} :
    staysInside length offset size = true ↔
      offset + length < UInt64.size ∧ offset + length ≤ size := by
  unfold staysInside Offset.advance?
  by_cases held : offset + length < UInt64.size
  · simp only [if_pos held, decide_eq_true_eq, and_iff_right held]
  · simp only [if_neg held, not_and_of_not_left _ held, Bool.false_eq_true]

/-- Past the check nothing is asked for that the buffer does not have. -/
theorem answers_inside {pattern : Pattern} {buffer : List UInt8} {offset : Nat}
    (inside : staysInside pattern.length offset buffer.length = true) :
    (∃ matched, pattern.matchesAt? buffer offset = some matched) ∧
      stretch? buffer offset (offset + pattern.length) =
        some ((buffer.drop offset).take pattern.length) := by
  have fits : offset + pattern.length ≤ buffer.length := (staysInside_iff.mp inside).2
  constructor
  · refine Option.ne_none_iff_exists'.mp ?_
    intro unanswered
    have outside := Pattern.matchesAt?_eq_none_iff.mp unanswered
    omega
  · have room : offset ≤ offset + pattern.length ∧ offset + pattern.length ≤ buffer.length := by
      omega
    rw [stretch?, if_pos room, Nat.add_sub_cancel_left]

section

variable {letters : LetterCase} {files : Files} {text : String} {source : BufferSource} {offset : Nat}

/-- A test runs in no other way than this. -/
theorem test_eq {run : Run Bool} (ran : TestRun letters files text source offset run) :
    test letters files text source offset = run := by
  cases ran with
  | badPattern refused => rw [test, readPattern_error refused, Run.error_bind]
  | noBuffer read missing =>
    rw [test, readPattern_ok read, Run.ok_bind, readBuffer_eq missing, Run.error_bind]
    rfl
  | outside read held leaves =>
    rw [test, readPattern_ok read, Run.ok_bind, readBuffer_eq held, Run.ok_bind]
    simp [Run.require, Run.fail, leaves]
  | compared read held inside answer =>
    have stretch := (answers_inside inside).2
    rw [test, readPattern_ok read, Run.ok_bind, readBuffer_eq held, Run.ok_bind]
    simp [Run.require, Run.pure, Run.report, Run.print, Run.ofOption, inside, answer, stretch]

theorem test_run (letters : LetterCase) (files : Files) (text : String) (source : BufferSource)
    (offset : Nat) :
    TestRun letters files text source offset (test letters files text source offset) := by
  have comes : ∃ run, TestRun letters files text source offset run := by
    cases read : Pattern.ofText text with
    | error fault => exact ⟨_, .badPattern read⟩
    | ok pattern =>
      have ran := readBuffer_run files source
      generalize readBuffer files source = run at ran
      obtain ⟨records, lines, result⟩ := run
      obtain rfl : lines = [] := bufferRun_quiet ran
      cases result with
      | error failure => exact ⟨_, .noBuffer read ran⟩
      | ok buffer =>
        cases inside : staysInside pattern.length offset buffer.length with
        | false => exact ⟨_, .outside read ran inside⟩
        | true =>
          obtain ⟨matched, answer⟩ := (answers_inside inside).1
          exact ⟨_, .compared read ran inside answer⟩
  obtain ⟨run, ran⟩ := comes
  rwa [test_eq ran]

/-- An inspection runs in no other way than this. -/
theorem inspect_eq {run : Run Unit} (ran : InspectRun letters text run) :
    inspect letters text = run := by
  cases ran with
  | badPattern refused => rw [inspect, readPattern_error refused, Run.error_bind]
  | @withoutBytes pattern read wild =>
    rw [inspect, readPattern_ok read, Run.ok_bind]
    cases empty : pattern.isEmpty <;>
      simp [Run.report, Run.print, wild, empty, inspectedRecords, describedLines]
  | @withBytes pattern bytes read closed found =>
    rw [inspect, readPattern_ok read, Run.ok_bind]
    cases empty : pattern.isEmpty <;>
      simp [Run.report, Run.print, closed, empty, inspectedRecords, describedLines, found]

theorem inspect_run (letters : LetterCase) (text : String) :
    InspectRun letters text (inspect letters text) := by
  have comes : ∃ run, InspectRun letters text run := by
    cases read : Pattern.ofText text with
    | error fault => exact ⟨_, .badPattern read⟩
    | ok pattern =>
      cases wild : pattern.hasWildcards with
      | true => exact ⟨_, .withoutBytes read wild⟩
      | false =>
        obtain ⟨bytes, found⟩ := OpenCells.toBytes_ok_iff.mpr wild
        exact ⟨_, .withBytes read wild found⟩
  obtain ⟨run, ran⟩ := comes
  rwa [inspect_eq ran]

/-- A command runs in no other way than this, so a run that it may have is the run
that it has. -/
theorem runCommand_eq {command : Command} {run : Run Bool}
    (ran : CommandRun letters files command run) : runCommand letters files command = run := by
  cases ran with
  | refused ran => rw [runCommand, inspect_eq ran, Run.error_bind]
  | inspected ran =>
    rw [runCommand, inspect_eq ran, Run.ok_bind]
    simp
  | tested ran => exact test_eq ran

theorem command_run (letters : LetterCase) (files : Files) (command : Command) :
    CommandRun letters files command (runCommand letters files command) := by
  have comes : ∃ run, CommandRun letters files command run := by
    cases command with
    | inspect text =>
      have ran := inspect_run letters text
      generalize inspect letters text = run at ran
      obtain ⟨records, lines, result⟩ := run
      cases result with
      | error failure => exact ⟨_, .refused ran⟩
      | ok value => exact ⟨_, .inspected ran⟩
    | test text source offset => exact ⟨_, .tested (test_run letters files text source offset)⟩
  obtain ⟨run, ran⟩ := comes
  rwa [runCommand_eq ran]

/-- Only the file of its buffer can be unreadable to a command. -/
theorem file_of_unreadable {command : Command} {run : Run Bool} {path : String} {error : FileError}
    (ran : CommandRun letters files command run)
    (failed : run.result = .error (.unreadableBuffer path error)) :
    ∃ text offset, command = .test text (.file path) offset ∧ files path = .error error := by
  cases ran with
  | refused ran =>
    cases failed
    cases ran
  | inspected ran => cases failed
  | @tested text source offset run ran =>
    cases ran with
    | badPattern refused => cases failed
    | noBuffer read missing =>
      cases failed
      cases missing with
      | unreadable refused => exact ⟨text, offset, rfl, refused⟩
    | outside read held leaves => cases failed
    | compared read held inside answer => cases failed

end

/-- Two states of the file system in which a command finds the same buffer. -/
def SameBuffer (files otherFiles : Files) : Command → Prop
  | .test _ (.file path) _ => otherFiles path = files path
  | _ => True

/-- A command looks at no file but that of its buffer. -/
theorem runCommand_sameBuffer (letters : LetterCase) {files otherFiles : Files} {command : Command}
    (same : SameBuffer files otherFiles command) :
    runCommand letters otherFiles command = runCommand letters files command := by
  cases command with
  | inspect text => rfl
  | test text source offset =>
    cases source with
    | hex buffer => rfl
    | file path =>
      have found : otherFiles path = files path := same
      rw [runCommand, runCommand, test, test, readBuffer, readBuffer, found]

end HexPattern.CommandRuns
