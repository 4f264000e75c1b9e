import HexPattern.Hex
import HexPattern.Log

/-!
The settings of the program. Any byte can be held as verbosity, but only settings whose verbosity is at
most three are accepted from a file.
-/

namespace HexPattern

/-- How much the program says and how it writes. -/
structure Settings where
  /-- How detailed the diagnostics are. -/
  verbosity : UInt8 := 0
  /-- Whether output may be coloured. -/
  useColor : Bool := true
  /-- Whether hex digits are written in lower case. -/
  lowercaseHex : Bool := false
deriving DecidableEq, Repr

namespace Settings

/-- The settings in force when nothing is said. -/
def standard : Settings := {}

/-- Whether the verbosity is one of those that are documented. -/
def isValid (settings : Settings) : Bool := settings.verbosity.toNat ≤ 3

/-- What is wrong with settings that are not valid. -/
def invalidMessage : String := "verbosity must be between 0 and 3"

/-- The case in which hex digits are written. -/
def letters (settings : Settings) : LetterCase := if settings.lowercaseHex then .lower else .upper

/-- The most detailed level that is shown. -/
def threshold (settings : Settings) : Log.Level := .ofVerbosity settings.verbosity.toNat

end Settings

end HexPattern
