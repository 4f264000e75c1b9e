import HexPattern.Text.Invisible

/-!
Quoted text, as it stands in messages. The enclosing quote, the backslash and the common controls are
written with a backslash, every other invisible character by its code point in lower-case hex, and all
else as it is. So a quoted text stays on one line and shows every character it holds.
-/

namespace HexPattern.Text

/-- The escape that names a character by its code point. -/
def codePointEscape (c : Char) : List Char :=
  ['\\', 'u', '\x7b'] ++ Nat.toDigits 16 c.toNat ++ ['\x7d']

/-- One character inside the given quotes. -/
def quotedChar (quote c : Char) : List Char :=
  if c = '\x00' then ['\\', '0']
  else if c = '\t' then ['\\', 't']
  else if c = '\r' then ['\\', 'r']
  else if c = '\n' then ['\\', 'n']
  else if c = '\\' || c = quote then ['\\', c]
  else if isInvisible c then codePointEscape c
  else [c]

/-- A text between the given quotes. -/
def quotedChars (quote : Char) (text : List Char) : List Char :=
  quote :: (text.flatMap (quotedChar quote) ++ [quote])

/-- A text between double quotes. -/
def quoted (text : String) : String := String.ofList (quotedChars '"' text.toList)

/-- A character between single quotes. -/
def quotedLetter (c : Char) : String := String.ofList (quotedChars '\'' [c])

end HexPattern.Text
