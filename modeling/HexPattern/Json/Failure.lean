import HexPattern.Text.Quoted

/-!
Why a JSON text is refused. A failure has a cause and the text that follows the place where it was
noticed; with the whole text at hand that place becomes a line and a column.
-/

namespace HexPattern.Json

/-- What was being read when the text ended. -/
inductive Unfinished where
  | value
  | list
  | object
  | string
deriving DecidableEq, Repr

/-- How a text breaks the grammar. -/
inductive Malformation where
  | expectedColon
  | expectedListEnd
  | expectedObjectEnd
  | expectedWord
  | expectedValue
  | invalidEscape
  | invalidNumber
  | numberOutOfRange
  | controlCharacter
  | keyNotString
  | loneSurrogate
  | brokenSurrogatePair
  | trailingComma
  | trailingCharacters
deriving DecidableEq, Repr

/-- What stands where a value of another kind is wanted. -/
inductive Found where
  | null
  | boolean (value : Bool)
  | integer (value : Int)
  | float (text : String)
  | string (value : String)
  | list
  | object
deriving DecidableEq, Repr

/-- The kinds of value that readers ask for. -/
inductive Wanted where
  | byte
  | boolean
  | string
  | settings
deriving DecidableEq, Repr

/-- Why a text is refused. -/
inductive Cause where
  /-- The text ends before the value does. -/
  | cutShort (unfinished : Unfinished)
  /-- The text breaks the grammar. -/
  | malformed (malformation : Malformation)
  /-- A value of another kind. -/
  | wrongKind (found : Found) (wanted : Wanted)
  /-- An integer that is no byte. -/
  | outOfRange (value : Int)
  /-- A known key that stands twice. -/
  | duplicateKey (key : String)
deriving DecidableEq, Repr

/-- The classes of causes. -/
inductive CauseClass where
  /-- There is too little text. -/
  | unfinished
  /-- The text is no JSON. -/
  | malformed
  /-- The text is JSON, but does not say what is wanted. -/
  | content
deriving DecidableEq, Repr

namespace Unfinished

/-- The unfinished thing in words. -/
def message : Unfinished → String
  | value => "EOF while parsing a value"
  | list => "EOF while parsing a list"
  | object => "EOF while parsing an object"
  | string => "EOF while parsing a string"

end Unfinished

namespace Malformation

/-- The breach in words. -/
def message : Malformation → String
  | expectedColon => "expected `:`"
  | expectedListEnd => "expected `,` or `]`"
  | expectedObjectEnd => "expected `,` or `\x7d`"
  | expectedWord => "expected ident"
  | expectedValue => "expected value"
  | invalidEscape => "invalid escape"
  | invalidNumber => "invalid number"
  | numberOutOfRange => "number out of range"
  | controlCharacter => "control character (\\u0000-\\u001F) found while parsing a string"
  | keyNotString => "key must be a string"
  | loneSurrogate => "lone leading surrogate in hex escape"
  | brokenSurrogatePair => "unexpected end of hex escape"
  | trailingComma => "trailing comma"
  | trailingCharacters => "trailing characters"

end Malformation

namespace Found

/-- The value found in words. -/
def message : Found → String
  | null => "null"
  | boolean value => "boolean `" ++ toString value ++ "`"
  | integer value => "integer `" ++ toString value ++ "`"
  | float text => "floating point `" ++ text ++ "`"
  | string value => "string " ++ Text.quoted value
  | list => "sequence"
  | object => "map"

end Found

namespace Wanted

/-- The kind wanted in words. -/
def message : Wanted → String
  | byte => "u8"
  | boolean => "a boolean"
  | string => "a string"
  | settings => "struct Config"

end Wanted

namespace Cause

/-- The cause in words. -/
def message : Cause → String
  | cutShort unfinished => unfinished.message
  | malformed malformation => malformation.message
  | wrongKind found wanted => "invalid type: " ++ found.message ++ ", expected " ++ wanted.message
  | outOfRange value =>
    "invalid value: " ++ (Found.integer value).message ++ ", expected " ++ Wanted.byte.message
  | duplicateKey key => "duplicate field `" ++ key ++ "`"

/-- What kind of fault a cause is. -/
def kind : Cause → CauseClass
  | cutShort _ => .unfinished
  | malformed _ => .malformed
  | wrongKind _ _ => .content
  | outOfRange _ => .content
  | duplicateKey _ => .content

end Cause

/-- A cause and the text after the place where it was noticed. -/
structure Failure where
  cause : Cause
  rest : List Char
deriving DecidableEq, Repr

/-- The line, counted from one, and the bytes of that line, after reading some text. -/
def lineAndColumn : List Char → Nat × Nat :=
  List.foldl (fun (line, column) c =>
    if c = '\n' then (line + 1, 0) else (line, column + c.utf8Size)) (1, 0)

/-- The failure in words, with its place in the whole text. -/
def Failure.message (failure : Failure) (whole : List Char) : String :=
  let (line, column) := lineAndColumn (whole.take (whole.length - failure.rest.length))
  failure.cause.message ++ " at line " ++ toString line ++ " column " ++ toString column

/-- Fails because the text has ended. -/
def cutShort {α : Type} (unfinished : Unfinished) : Except Failure α :=
  .error ⟨.cutShort unfinished, []⟩

/-- Fails at the first character of the text. -/
def malformed {α : Type} (malformation : Malformation) (text : List Char) : Except Failure α :=
  .error ⟨.malformed malformation, text.drop 1⟩

/-- A result is there after mapping exactly if it was there before. -/
theorem map_eq_ok_iff {α β : Type} {read : Except Failure α} {f : α → β} {value : β} :
    read.map f = .ok value ↔ ∃ found, read = .ok found ∧ f found = value := by
  cases read <;> simp [Except.map]

end HexPattern.Json
