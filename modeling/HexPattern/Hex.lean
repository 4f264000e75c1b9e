/-!
Hex digits and bytes as pairs of halves. A byte is the join of its two halves, and a digit read back
from its character is the digit written, in either letter case.
-/

namespace HexPattern

/-- The case in which the letters among hex digits are written. -/
inductive LetterCase where
  | upper
  | lower
deriving DecidableEq, Repr

namespace Hex

/-- The character of a hex digit. -/
def digitChar (letters : LetterCase) (digit : Fin 16) : Char :=
  if digit.val < 10 then Char.ofNat (48 + digit.val)
  else match letters with
    | .upper => Char.ofNat (55 + digit.val)
    | .lower => Char.ofNat (87 + digit.val)

/-- The hex digit that an ASCII character denotes, letters counting in either case. -/
def digit? (c : Char) : Option (Fin 16) :=
  let code := c.toNat
  if 48 ≤ code ∧ code ≤ 57 then some (Fin.ofNat 16 (code - 48))
  else if 65 ≤ code ∧ code ≤ 70 then some (Fin.ofNat 16 (code - 55))
  else if 97 ≤ code ∧ code ≤ 102 then some (Fin.ofNat 16 (code - 87))
  else none

/-- Four bits that are all clear. -/
def noBits : Fin 16 := 0

/-- Four bits that are all set. -/
def allBits : Fin 16 := 15

/-- The upper four bits of a byte. -/
def highHalf (byte : UInt8) : Fin 16 := Fin.ofNat 16 (byte.toNat / 16)

/-- The lower four bits of a byte. -/
def lowHalf (byte : UInt8) : Fin 16 := Fin.ofNat 16 byte.toNat

/-- The byte with the given halves. -/
def join (high low : Fin 16) : UInt8 := UInt8.ofNat (16 * high.val + low.val)

/-- The two digits of a byte, the more significant one first. -/
def byteChars (letters : LetterCase) (byte : UInt8) : List Char :=
  [digitChar letters (highHalf byte), digitChar letters (lowHalf byte)]

/-- Bytes as two digits each, one space between neighbours. -/
def bytesText (letters : LetterCase) (bytes : List UInt8) : String :=
  String.ofList ([' '].intercalate (bytes.map (byteChars letters)))

@[simp] theorem digit?_digitChar (letters : LetterCase) (digit : Fin 16) :
    digit? (digitChar letters digit) = some digit := by
  cases letters <;> revert digit <;> decide

theorem highHalf_val (byte : UInt8) : (highHalf byte).val = byte.toNat / 16 := by
  have bound : byte.toNat < 256 := byte.toNat_lt
  exact Nat.mod_eq_of_lt (by omega)

theorem lowHalf_val (byte : UInt8) : (lowHalf byte).val = byte.toNat % 16 := rfl

@[simp] theorem highHalf_join (high low : Fin 16) : highHalf (join high low) = high := by
  apply Fin.ext
  have hHigh := high.isLt
  have hLow := low.isLt
  simp [highHalf, join, UInt8.toNat_ofNat']
  omega

@[simp] theorem lowHalf_join (high low : Fin 16) : lowHalf (join high low) = low := by
  apply Fin.ext
  have hHigh := high.isLt
  have hLow := low.isLt
  simp [lowHalf, join, UInt8.toNat_ofNat']

@[simp] theorem join_halves (byte : UInt8) : join (highHalf byte) (lowHalf byte) = byte := by
  apply UInt8.toNat.inj
  have hByte : byte.toNat < 256 := byte.toNat_lt
  simp [highHalf, lowHalf, join, UInt8.toNat_ofNat']
  omega

@[simp] theorem highHalf_and (left right : UInt8) :
    highHalf (left &&& right) = highHalf left &&& highHalf right := by
  apply Fin.ext
  have shifted : (left.toNat &&& right.toNat) / 16 = left.toNat / 16 &&& right.toNat / 16 :=
    Nat.and_div_two_pow (n := 4)
  have cut : (left.toNat / 16 &&& right.toNat / 16) % 16 =
      left.toNat / 16 % 16 &&& right.toNat / 16 % 16 := Nat.and_mod_two_pow (n := 4)
  simp [highHalf, shifted, cut]

@[simp] theorem lowHalf_and (left right : UInt8) :
    lowHalf (left &&& right) = lowHalf left &&& lowHalf right := by
  apply Fin.ext
  have cut : (left.toNat &&& right.toNat) % 16 = left.toNat % 16 &&& right.toNat % 16 :=
    Nat.and_mod_two_pow (n := 4)
  simp [lowHalf, cut]

end Hex

end HexPattern
