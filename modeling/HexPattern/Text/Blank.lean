/-!
Blank characters: the twenty-five characters with the property White_Space. They separate the runs of a
pattern's text, and none of them is a hex digit or a question mark.
-/

namespace HexPattern.Text

/-- Tab to carriage return, the plain space, next line, the no-break spaces, the spaces of every width
and the line and paragraph separators. -/
def isBlank (c : Char) : Bool :=
  let code := c.toNat
  (9 ≤ code && code ≤ 13) || code == 0x20 || code == 0x85 || code == 0xA0 || code == 0x1680 ||
    (0x2000 ≤ code && code ≤ 0x200A) || code == 0x2028 || code == 0x2029 || code == 0x202F ||
    code == 0x205F || code == 0x3000

end HexPattern.Text
