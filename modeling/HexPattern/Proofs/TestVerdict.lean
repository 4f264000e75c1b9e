import HexPattern.Proofs.CommandRuns
import HexPattern.Session.Outcome

/-! The verdict of a test. The exit code says whether a pattern agrees with
the bytes at an offset, or that there was nothing to compare. Places are
sixty-four bits wide and their sum is checked, so the check comes out as it
would with numbers of any size, and no comparison ever reaches for bytes that
are not there. -/
namespace HexPattern.TestVerdict
open CommandLine (BufferSource Invocation Options)
open CommandRuns MaskedComparison Session

/-- The bytes that a source holds: those of a text that leaves none of them
open, or the contents of a file that can be read. -/
inductive Holds (files : Files) : BufferSource → List UInt8 → Prop
  | text {text pattern buffer} (read : Pattern.ofText text = .ok pattern)
      (closed : pattern.hasWildcards = false) (bytes : pattern.toBytes = .ok buffer) :
      Holds files (.hex text) buffer
  | file {path contents} (found : files path = .ok contents) :
      Holds files (.file path) contents.data.toList

variable {letters : LetterCase} {files : Files} {text : String} {source : BufferSource}
  {offset : Nat} {run : Run Bool} {pattern : Pattern} {buffer : List UInt8}

theorem holds_iff_run :
    Holds files source buffer ↔ ∃ records, BufferRun files source ⟨records, [], .ok buffer⟩ := by
  constructor
  · intro held
    cases held with
    | text read closed bytes => exact ⟨_, .text read bytes⟩
    | file found => exact ⟨_, .file found⟩
  · rintro ⟨records, ran⟩
    cases ran with
    | text read bytes => exact .text read (OpenCells.toBytes_ok_iff.mp ⟨_, bytes⟩) bytes
    | file found => exact .file found

/-- A source that cannot be read does not break the program off. -/
theorem missing_not_abrupt {records : List Log.Record} {failure : Failure}
    (missing : BufferRun files source ⟨records, [], .error failure⟩) : failure.isAbrupt = false := by
  cases missing <;> rfl

end HexPattern.TestVerdict
