/-!
Blanks between the parts of a JSON text: space, tab, line feed and carriage return.
-/

namespace HexPattern.Json

/-- The characters that may stand between the parts of a text. -/
def isBlank (c : Char) : Bool := c = ' ' || c = '\n' || c = '\t' || c = '\r'

/-- Passes over the blanks in front. -/
def skipBlanks (text : List Char) : List Char := text.dropWhile isBlank

theorem skipBlanks_length_le (text : List Char) : (skipBlanks text).length ≤ text.length :=
  (List.dropWhile_sublist _).length_le

end HexPattern.Json
