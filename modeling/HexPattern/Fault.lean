import HexPattern.Text.Quoted

/-!
What can be wrong with a pattern or with the use that is made of it, and the wording of each fault.
-/

namespace HexPattern

/-- Why a text is no pattern, or a pattern or cell stands for no bytes. -/
inductive Fault where
  /-- A character that is no hex digit, question mark or blank, at a place counted in characters. -/
  | unexpectedCharacter (position : Nat) (found : Char)
  /-- The first cell of a pattern that has an open half. -/
  | openCell (index : Nat)
  /-- A single cell that has an open half. -/
  | noValue
deriving DecidableEq, Repr

namespace Fault

/-- The fault in words. -/
def message : Fault → String
  | unexpectedCharacter position found =>
    "Invalid pattern: unexpected character " ++ Text.quotedLetter found ++ " at position "
      ++ toString position
  | openCell index =>
    "Pattern unit " ++ toString index ++ " contains a wildcard and has no concrete value"
  | noValue => "Match unit contains a wildcard and has no concrete value"

/-- Whether the text is at fault, and not the use made of a pattern. -/
def isAboutText : Fault → Bool
  | unexpectedCharacter .. => true
  | _ => false

end Fault

end HexPattern
