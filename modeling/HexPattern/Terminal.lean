/-!
Text for a terminal. A line is made of spans, some of which have a style; with colour on, a styled span
stands between the escape sequence of its style and the one that ends all styles, and with colour off it
is its text.
-/

namespace HexPattern.Terminal

/-- A style by the numbers of its escape sequence. -/
structure Style where
  codes : List Nat
deriving DecidableEq, Repr

/-- Labels are bold and cyan. -/
def Style.label : Style := ⟨[1, 36]⟩

/-- Good news is green. -/
def Style.good : Style := ⟨[32]⟩

/-- What deserves care is yellow. -/
def Style.care : Style := ⟨[33]⟩

/-- Bad news is red. -/
def Style.bad : Style := ⟨[31]⟩

/-- What matters less is dimmed. -/
def Style.dimmed : Style := ⟨[2]⟩

/-- A bold style of one colour. -/
def Style.bold (colour : Nat) : Style := ⟨[1, colour]⟩

/-- The escape sequence of a style. -/
def Style.sequence (style : Style) : String :=
  "\x1b[" ++ String.intercalate ";" (style.codes.map toString) ++ "m"

/-- The escape sequence that ends all styles. -/
def resetSequence : String := "\x1b[0m"

/-- A piece of a line. -/
inductive Span where
  | plain (text : String)
  | styled (style : Style) (text : String)
deriving DecidableEq, Repr

/-- The text that a span shows. -/
def Span.text : Span → String
  | plain text => text
  | styled _ text => text

/-- A span as it is sent to the terminal. -/
def Span.render (colour : Bool) : Span → String
  | plain text => text
  | styled style text => if colour then style.sequence ++ text ++ resetSequence else text

/-- One line. -/
abbrev Line := List Span

/-- A line as it is sent to the terminal, without its end. -/
def Line.render (colour : Bool) (line : Line) : String := String.join (line.map (Span.render colour))

/-- Lines as they are sent to the terminal, each with a line feed at its end. -/
def render (colour : Bool) (lines : List Line) : String :=
  String.join (lines.map fun line => line.render colour ++ "\n")

end HexPattern.Terminal
