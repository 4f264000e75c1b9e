import HexPattern.Proofs.FirstOpenCell
import HexPattern.Proofs.LiteralBytes
import HexPattern.Proofs.WrittenForm

/-! Bytes in hex and patterns in hex. A byte is shown as a number in two hex digits,
padded with a zero; a pattern is shown nibble by nibble. For the pattern of some bytes
both give the same text, and it reads back as those bytes. For any pattern the texts
of its values and of its mask are the text of the pattern with some characters
replaced, so the three can be laid side by side. -/
namespace HexPattern.HexRendering
open ReaderSemantics (IsHexDigit)
open WrittenForm

/-- A digit in one letter case. -/
def inCase : LetterCase → Char → Char
  | .upper, c => c.toUpper
  | .lower, c => c

/-- The number of a byte in hex, with a zero in front if one digit would do. -/
def padded (letters : LetterCase) (byte : UInt8) : String :=
  String.ofList (((Nat.toDigits 16 byte.toNat).map (inCase letters)).leftpad 2 '0')

/-- What a question mark becomes where open halves count as zero. -/
def zeroed (c : Char) : Char := if c = '?' then '0' else c

/-- What a character becomes where fixed halves have all bits and open ones none. -/
def masked (letters : LetterCase) (c : Char) : Char :=
  if c = '?' then '0'
  else if IsHexDigit c then
    match letters with
    | .upper => 'F'
    | .lower => 'f'
  else c

variable {letters : LetterCase}

theorem inCase_digitChar (letters : LetterCase) (digit : Fin 16) :
    inCase letters (Nat.digitChar digit.val) = Hex.digitChar letters digit := by
  cases letters <;> revert digit <;> decide

/-- The two digits of a number below 256 are its halves. -/
theorem padded_eq (letters : LetterCase) (byte : UInt8) :
    padded letters byte = String.ofList (Hex.byteChars letters byte) := by
  rw [padded, Hex.byteChars, ← inCase_digitChar, ← inCase_digitChar, Hex.highHalf_val,
    Hex.lowHalf_val, Nat.toDigits_eq_if (by decide)]
  split
  · rename_i single
    have zero : inCase letters (Nat.digitChar 0) = '0' := by cases letters <;> rfl
    rw [Nat.div_eq_of_lt single, Nat.mod_eq_of_lt single, zero]
    rfl
  · have front : byte.toNat / 16 < 16 := by
      rw [← Hex.highHalf_val]
      exact Fin.isLt _
    rw [Nat.toDigits_of_lt_base front]
    rfl

theorem bytesText_eq_padded (letters : LetterCase) (bytes : List UInt8) :
    Hex.bytesText letters bytes = " ".intercalate (bytes.map (padded letters)) := by
  refine String.toList_injective ?_
  have texts : (bytes.map (padded letters)).map String.toList = bytes.map (Hex.byteChars letters) := by
    simp [padded_eq]
  rw [String.toList_intercalate, texts, Hex.bytesText, String.toList_ofList]
  rfl

/-- Bytes whose halves are digits for the nibbles of a pattern are written like the
pattern, with these digits in the place of its characters. -/
theorem bytesText_of_nibbles {f : Char → Char} {digit : Nibble → Fin 16} (keeps : f ' ' = ' ')
    (replaced : ∀ nibble : Nibble, f (nibble.char letters) = Hex.digitChar letters (digit nibble))
    (pattern : Pattern) :
    Hex.bytesText letters
        (pattern.cells.map fun cell => Hex.join (digit cell.high) (digit cell.low)) =
      (pattern.text letters).map f := by
  refine String.toList_injective ?_
  rw [String.toList_map, toList_text, map_chars keeps, Hex.bytesText, String.toList_ofList,
    List.map_map]
  simp only [Function.comp_def, Hex.byteChars, Hex.highHalf_join, Hex.lowHalf_join, replaced]

theorem zeroed_char (letters : LetterCase) (nibble : Nibble) :
    zeroed (nibble.char letters) = Hex.digitChar letters nibble.bits := by
  cases nibble with
  | any => cases letters <;> rfl
  | fixed value => cases letters <;> revert value <;> decide

theorem masked_char (letters : LetterCase) (nibble : Nibble) :
    masked letters (nibble.char letters) = Hex.digitChar letters nibble.mask := by
  cases nibble with
  | any => cases letters <;> rfl
  | fixed value => cases letters <;> revert value <;> decide

/-- Bytes are shown number by number as their pattern is shown nibble by nibble, and
the text reads back as the bytes. The values of a pattern are shown like the pattern
with a zero for each question mark, and its mask with the largest digit for each
digit and a zero for each question mark. -/
theorem bytes_are_shown_like_patterns (letters : LetterCase) :
    (∀ bytes, Hex.bytesText letters bytes = " ".intercalate (bytes.map (padded letters)) ∧
      Hex.bytesText letters bytes = (Pattern.ofBytes bytes).text letters ∧
      (Pattern.ofText (Hex.bytesText letters bytes) >>= Pattern.toBytes) = .ok bytes) ∧
    ∀ pattern : Pattern,
      Hex.bytesText letters pattern.values = (pattern.text letters).map zeroed ∧
      Hex.bytesText letters pattern.mask = (pattern.text letters).map (masked letters) := by
  refine ⟨fun bytes => ⟨bytesText_eq_padded letters bytes, bytesText_eq letters bytes, ?_⟩,
    fun pattern => ⟨?_, ?_⟩⟩
  · rw [ofText_bytesText]
    exact FirstOpenCell.toBytes_ofBytes bytes
  · exact bytesText_of_nibbles rfl (zeroed_char letters) pattern
  · exact bytesText_of_nibbles rfl (masked_char letters) pattern

end HexPattern.HexRendering
