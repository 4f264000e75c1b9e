import HexPattern.Hex

/-!
A nibble of a pattern: one half of a byte, either fixed to one hex digit or left open. Open is written
as a question mark. `ofChar?_char` says that the written form of a nibble reads back as that nibble.
-/

namespace HexPattern

/-- One half of a byte in a pattern. -/
inductive Nibble where
  /-- Every value is accepted. -/
  | any
  /-- Exactly this value is accepted. -/
  | fixed (value : Fin 16)
deriving DecidableEq, Hashable, Repr

namespace Nibble

/-- Fixes the lower four bits of a byte and forgets the upper ones. -/
def ofByte (byte : UInt8) : Nibble := .fixed (Hex.lowHalf byte)

/-- Reads one hex digit. -/
def ofHexChar? (c : Char) : Option Nibble := (Hex.digit? c).map .fixed

/-- Reads one hex digit or the question mark. -/
def ofChar? (c : Char) : Option Nibble := if c = '?' then some .any else ofHexChar? c

/-- The fixed value, if there is one. -/
def value? : Nibble → Option (Fin 16)
  | any => none
  | fixed value => some value

/-- Whether every value is accepted. -/
def isWildcard : Nibble → Bool
  | any => true
  | fixed _ => false

/-- Compares the lower four bits of a byte. -/
def accepts (nibble : Nibble) (byte : UInt8) : Bool :=
  match nibble with
  | any => true
  | fixed value => Hex.lowHalf byte == value

/-- The bits that the nibble looks at: all four or none. -/
def mask : Nibble → Fin 16
  | any => Hex.noBits
  | fixed _ => Hex.allBits

/-- The value under the mask, which is zero for an open nibble. -/
def bits : Nibble → Fin 16
  | any => Hex.noBits
  | fixed value => value

/-- The written form: a hex digit or the question mark. -/
def char (letters : LetterCase) : Nibble → Char
  | any => '?'
  | fixed value => Hex.digitChar letters value

@[simp] theorem ofChar?_char (letters : LetterCase) (nibble : Nibble) :
    ofChar? (nibble.char letters) = some nibble := by
  cases nibble with
  | any => rfl
  | fixed value =>
    have notOpen : Hex.digitChar letters value ≠ '?' := by
      cases letters <;> revert value <;> decide
    simp [char, ofChar?, ofHexChar?, notOpen]

end Nibble

end HexPattern
