import HexPattern.Json.Value
import HexPattern.Pattern.Reader

/-!
A pattern as a JSON document: a string that holds its written form. Reading takes any text of a pattern,
so the string may be spelt in other ways.
-/

namespace HexPattern

/-- Why a JSON text is no pattern. -/
inductive DocumentFault where
  /-- The text is no JSON string. -/
  | notString (failure : Json.Failure)
  /-- The string is no pattern. -/
  | notPattern (fault : Fault)
deriving DecidableEq, Repr

namespace DocumentFault

/-- What kind of fault it is. A string that is no pattern is JSON all the same. -/
def kind : DocumentFault → Json.CauseClass
  | notString failure => failure.cause.kind
  | notPattern _ => .content

/-- The fault in words, without its place in the document. -/
def message : DocumentFault → String
  | notString failure => failure.cause.message
  | notPattern fault => fault.message

end DocumentFault

namespace Pattern

/-- Writes a pattern as a JSON string. -/
def json (pattern : Pattern) : String := String.ofList (Json.writeLiteral (pattern.chars .upper))

/-- Reads a pattern from a JSON string. What follows the string matters only if it is a pattern. -/
def readDocument (text : List Char) : Except DocumentFault Pattern :=
  match Json.readString text with
  | .error failure => .error (.notString failure)
  | .ok (letters, rest) =>
    match ofChars letters with
    | .error fault => .error (.notPattern fault)
    | .ok pattern => (Json.readEnd pattern rest).mapError .notString

/-- Reads a pattern from a JSON text. -/
def ofJson (text : String) : Except DocumentFault Pattern := readDocument text.toList

end Pattern

end HexPattern
