import HexPattern.Offset
import Mathlib.Tactic.IntervalCases

/-! Offsets as they are printed. An offset in hex reads back as itself: its
digits are read one after the other, each raising the number to that of the
digits so far, and no number on the way is larger than the last. -/
namespace HexPattern.OffsetNumerals
open Offset

variable {radix number offset : Nat}

/-- One digit more, as long as sixty-four bits hold the number. -/
theorem readDigits_cons (value : Nat) (c : Char) (rest : List Char) :
    readDigits radix value (c :: rest) =
      match digit? radix c with
      | none => .error .invalidDigit
      | some digit =>
        if radix * value + digit < UInt64.size then readDigits radix (radix * value + digit) rest
        else .error .tooLarge := rfl

theorem readDigits_append (value : Nat) (front back : List Char) :
    readDigits radix value (front ++ back) =
      match readDigits radix value front with
      | .error fault => .error fault
      | .ok found => readDigits radix found back := by
  induction front generalizing value with
  | nil => rfl
  | cons c rest ih =>
    rw [List.cons_append, readDigits_cons, readDigits_cons]
    cases digit? radix c with
    | none => rfl
    | some digit =>
      dsimp only
      split
      · exact ih _
      · rfl

theorem digit_written {digit : Nat} (inRadix : digit < radix) (hex : radix ≤ 16) :
    digit? radix (Nat.digitChar digit) = some digit := by
  have small : digit < 16 := Nat.lt_of_lt_of_le inRadix hex
  have read : (Hex.digit? (Nat.digitChar digit)).map Fin.val = some digit := by
    interval_cases digit <;> rfl
  obtain ⟨value, found, same⟩ := Option.map_eq_some_iff.mp read
  rw [digit?, found]
  simp [same, inRadix]

/-- The digits before the last one give the number without its last digit. -/
theorem readDigits_written (two : 1 < radix) (hex : radix ≤ 16) (fits : number < UInt64.size) :
    readDigits radix 0 (Nat.toDigits radix number) = .ok number := by
  induction number using Nat.strongRecOn with
  | ind number ih =>
    have last (value : Nat) (digit : Nat) (inRadix : digit < radix)
        (whole : radix * value + digit = number) :
        readDigits radix value [Nat.digitChar digit] = .ok number := by
      rw [readDigits_cons, digit_written inRadix hex]
      dsimp only
      rw [whole, if_pos fits]
      rfl
    rw [Nat.toDigits_eq_if two]
    split
    · rename_i single
      exact last 0 number single (by simp)
    · rename_i long
      have less : number / radix < number := Nat.div_lt_self (by omega) two
      rw [readDigits_append, ih _ less (Nat.lt_trans less fits)]
      exact last _ _ (Nat.mod_lt _ (by omega)) (Nat.div_add_mod number radix)

theorem readNumber_written (two : 1 < radix) (hex : radix ≤ 16) (fits : number < UInt64.size) :
    readNumber radix (Nat.toDigits radix number) = .ok number := by
  have digits := readDigits_written two hex fits
  have sign : digit? radix '+' = none := rfl
  unfold readNumber
  split
  · rename_i none
    exact absurd none Nat.toDigits_ne_nil
  · rename_i plus
    rw [plus, readDigits_cons, sign] at digits
    cases digits
  · rename_i plus
    rw [plus, readDigits_cons, sign] at digits
    cases digits
  · exact digits

theorem toList_hexText (offset : Nat) :
    (hexText offset).toList = '0' :: 'x' :: Nat.toDigits 16 offset := by
  rw [hexText, String.toList_append, String.toList_ofList, String.toList_ofList]
  rfl

/-- An offset that sixty-four bits can hold reads back from its printed form. -/
theorem read_hexText (fits : offset < UInt64.size) :
    Offset.read (hexText offset).toList = .ok offset := by
  rw [toList_hexText, Offset.read]
  exact readNumber_written (by decide) (by decide) fits

end HexPattern.OffsetNumerals
