import HexPattern.Hex
import HexPattern.Text.Quoted

/-!
Offsets as text: decimal, or hex after a prefix, with an optional plus sign. Digits are read one by one
into a number of sixty-four bits; the first character that is no digit, or the first digit that makes the
number too large, ends the reading.
-/

namespace HexPattern.Offset

/-- Why a text is no offset. -/
inductive Fault where
  | empty
  | invalidDigit
  | tooLarge
deriving DecidableEq, Repr

/-- The fault in words. -/
def Fault.message : Fault → String
  | empty => "cannot parse integer from empty string"
  | invalidDigit => "invalid digit found in string"
  | tooLarge => "number too large to fit in target type"

/-- The digit that a character denotes in a number system of at most sixteen digits. -/
def digit? (radix : Nat) (c : Char) : Option Nat :=
  match Hex.digit? c with
  | none => none
  | some digit => if digit.val < radix then some digit.val else none

/-- Appends digits to a number below `2 ^ 64`. -/
def readDigits (radix value : Nat) : List Char → Except Fault Nat
  | [] => .ok value
  | c :: rest =>
    match digit? radix c with
    | none => .error .invalidDigit
    | some digit =>
      let next := radix * value + digit
      if next < 2 ^ 64 then readDigits radix next rest else .error .tooLarge

/-- Reads a number with an optional plus sign; the sign alone has no digit where one is due. -/
def readNumber (radix : Nat) (text : List Char) : Except Fault Nat :=
  match text with
  | [] => .error .empty
  | ['+'] => .error .invalidDigit
  | '+' :: digits => readDigits radix 0 digits
  | digits => readDigits radix 0 digits

/-- Reads an offset. -/
def read (text : List Char) : Except Fault Nat :=
  match text with
  | '0' :: 'x' :: rest => readNumber 16 rest
  | '0' :: 'X' :: rest => readNumber 16 rest
  | _ => readNumber 10 text

/-- What is said of a text that is no offset. -/
def refusal (text : String) (fault : Fault) : String :=
  "invalid offset " ++ Text.quoted text ++ ": " ++ fault.message

/-- The place so many bytes behind an offset, if sixty-four bits can hold it. -/
def advance? (offset count : Nat) : Option Nat :=
  let last := offset + count
  if last < UInt64.size then some last else none

/-- An offset in lower-case hex after its prefix. -/
def hexText (offset : Nat) : String := "0x" ++ String.ofList (Nat.toDigits 16 offset)

end HexPattern.Offset
