/-!
Text for an output that is no terminal: control characters and whole control sequences are left out,
and of the controls only those that divide words and lines are kept.
-/

namespace HexPattern.Terminal

/-- Where a reader of text stands among control sequences. -/
inductive Mode where
  /-- Outside. -/
  | text
  /-- After the escape character. -/
  | escape
  /-- After the escape character and intermediate characters. -/
  | escapeIntermediate
  /-- In a control sequence, which a letter ends. -/
  | control
  /-- In a system command, which the bell ends. -/
  | command
  /-- At the head of a device control string. -/
  | device
  /-- After parameters at the head of a device control string. -/
  | deviceParameter
  /-- After intermediate characters at the head of a device control string. -/
  | deviceIntermediate
  /-- In a string that only its terminator ends. -/
  | string
deriving DecidableEq, Repr

/-- Whether a character lies between two others, ends included. -/
def isBetween (first last c : Char) : Bool := first ≤ c && c ≤ last

/-- The controls that divide words, lines and pages. -/
def isDivider (c : Char) : Bool := c = '\t' || c = '\n' || c = '\x0c' || c = '\r'

/-- Whether a character ends a string. The terminator is the byte 9C, also where it is one of the bytes
that encode a character. -/
def endsString (c : Char) : Bool := (String.utf8EncodeChar c).contains 0x9C

/-- Whether a character is kept. Dividers show even inside a sequence, but not inside a string. -/
def Mode.keeps (mode : Mode) (c : Char) : Bool :=
  match mode with
  | .text => isDivider c || (' ' ≤ c && c ≠ '\x7f')
  | .escape | .escapeIntermediate | .control => isDivider c
  | _ => false

/-- Where the reader stands after a character that is not kept. -/
def Mode.next (mode : Mode) (c : Char) : Mode :=
  if c = '\x1b' then escape
  else if c = '\x18' || c = '\x1a' then text
  else match mode with
    | text => text
    | escape =>
      if isBetween ' ' '/' c then escapeIntermediate
      else if c = '[' then control
      else if c = ']' then command
      else if c = 'P' then device
      else if c = 'X' || c = '^' || c = '_' then string
      else if isBetween '0' '~' c then text
      else escape
    | escapeIntermediate => if isBetween '0' '~' c then text else escapeIntermediate
    | control => if isBetween '@' '~' c then text else control
    | command => if c = '\x07' then text else command
    | device =>
      if isBetween ' ' '/' c then deviceIntermediate
      else if isBetween '0' '?' c then deviceParameter
      else if isBetween '@' '~' c then string
      else device
    | deviceParameter =>
      if isBetween ' ' '/' c then deviceIntermediate
      else if isBetween '<' '~' c then string
      else deviceParameter
    | deviceIntermediate => if isBetween '0' '~' c then string else deviceIntermediate
    | string => if endsString c then text else string

/-- What is kept of a text. A divider interrupts the sequence in which it stands: what follows is kept as
outside of it, until a control character takes the sequence up again or a character beyond ASCII ends
it. -/
def plainChars (mode : Mode) (interrupted : Bool) : List Char → List Char
  | [] => []
  | c :: rest =>
    if (if interrupted then Mode.text else mode).keeps c then
      c :: plainChars (if c.toNat < 0x80 then mode else .text) true rest
    else plainChars (mode.next c) false rest

/-- A text without its control characters and control sequences. -/
def plain (text : String) : String := String.ofList (plainChars .text false text.toList)

end HexPattern.Terminal
