import HexPattern.Fault
import HexPattern.Files
import HexPattern.Log
import HexPattern.Offset
import HexPattern.Terminal

/-!
Runs of a command. A run reports records, prints lines, and ends with a result or a failure; runs one
after the other report and print in that order, and a failure ends the run where it occurs. Most failures
are reported; the abrupt one breaks the program off.
-/

namespace HexPattern.Session

/-- Why a command fails. -/
inductive Failure where
  /-- The text of the pattern is no pattern. -/
  | badPattern (text : String) (fault : Fault)
  /-- The text of the buffer is no pattern. -/
  | badBuffer (text : String) (fault : Fault)
  /-- The text of the buffer leaves bytes open. -/
  | openBuffer (fault : Fault)
  /-- The file of the buffer cannot be read. -/
  | unreadableBuffer (path : String) (error : FileError)
  /-- The pattern, laid at the offset, leaves the buffer. -/
  | outOfBounds (length offset size : Nat)
  /-- A pattern without open cells stands for no bytes. -/
  | noBytes (fault : Fault)
  /-- Bytes of the buffer were asked for that it does not have. -/
  | overrun (last size : Nat)
deriving DecidableEq, Repr

/-- The failure in words. -/
def Failure.message : Failure → String
  | badPattern text fault => "parsing pattern " ++ Text.quoted text ++ ": " ++ fault.message
  | badBuffer text fault => "parsing buffer " ++ Text.quoted text ++ ": " ++ fault.message
  | openBuffer fault => "buffer must not contain wildcards: " ++ fault.message
  | unreadableBuffer path error => "reading " ++ path ++ ": " ++ error.message
  | outOfBounds length offset size =>
    "pattern of " ++ toString length ++ " bytes at offset " ++ Offset.hexText offset
      ++ " runs past the end of a " ++ toString size ++ " byte buffer"
  | noBytes fault => fault.message
  | overrun last size =>
    "range end index " ++ toString last ++ " out of range for slice of length " ++ toString size

/-- Whether the program breaks off where it is, and does not come to report the failure. -/
def Failure.isAbrupt : Failure → Bool
  | overrun .. => true
  | _ => false

/-- What a command reports, prints and comes to. -/
structure Run (α : Type) where
  records : List Log.Record
  lines : List Terminal.Line
  result : Except Failure α

namespace Run

/-- Comes to a value without a word. -/
protected def pure {α : Type} (value : α) : Run α := ⟨[], [], .ok value⟩

/-- Goes on with what the first run comes to, unless it fails. -/
protected def bind {α β : Type} (run : Run α) (next : α → Run β) : Run β :=
  match run.result with
  | .error failure => ⟨run.records, run.lines, .error failure⟩
  | .ok value =>
    let later := next value
    ⟨run.records ++ later.records, run.lines ++ later.lines, later.result⟩

instance : Monad Run where
  pure := Run.pure
  bind := Run.bind

/-- Reports records. -/
def report (records : List Log.Record) : Run Unit := ⟨records, [], .ok ()⟩

/-- Prints lines. -/
def print (lines : List Terminal.Line) : Run Unit := ⟨[], lines, .ok ()⟩

/-- Fails without a word. -/
def fail {α : Type} (failure : Failure) : Run α := ⟨[], [], .error failure⟩

/-- Takes a result, or fails for the given reason. -/
def ofExcept {ε α : Type} (reason : ε → Failure) (result : Except ε α) : Run α :=
  ⟨[], [], result.mapError reason⟩

/-- Takes a value that is there, or fails. -/
def ofOption {α : Type} (failure : Failure) : Option α → Run α
  | none => fail failure
  | some value => Run.pure value

/-- Goes on only if all is well. -/
def require (well : Bool) (failure : Failure) : Run Unit :=
  if well then Run.pure () else fail failure

section

variable {ε α β : Type} (records : List Log.Record) (lines : List Terminal.Line) (next : α → Run β)

@[simp] theorem pure_eq (value : α) : (pure value : Run α) = ⟨[], [], .ok value⟩ := rfl

@[simp] theorem ok_bind (value : α) : ((⟨records, lines, .ok value⟩ : Run α) >>= next) =
    ⟨records ++ (next value).records, lines ++ (next value).lines, (next value).result⟩ := rfl

@[simp] theorem error_bind (failure : Failure) : ((⟨records, lines, .error failure⟩ : Run α) >>= next) =
    ⟨records, lines, .error failure⟩ := rfl

@[simp] theorem ofExcept_ok (reason : ε → Failure) (value : α) :
    ofExcept reason (.ok value) = ⟨[], [], .ok value⟩ := rfl

@[simp] theorem ofExcept_error (reason : ε → Failure) (error : ε) :
    ofExcept reason (.error error : Except ε α) = ⟨[], [], .error (reason error)⟩ := rfl

end

end Run

end HexPattern.Session
