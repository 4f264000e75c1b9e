import HexPattern.Proofs.LiteralBytes
import HexPattern.Proofs.OffsetNumerals
import HexPattern.Proofs.QuotedTexts
import Mathlib.Data.Nat.Digits.Lemmas

/-! What a text denotes as an offset, said without a reader. A mark in front chooses hex
digits, one plus sign may follow, and the digits are those of a number of any size.
Exactly the numbers that sixty-four bits can hold are read. The reader gives up at the
first digit that is too much for them; no later digit could have brought the number
down again, so it never refuses a numeral that fits and never wraps one that does
not. What is said of a refused text quotes it and tells it from every other text. -/
namespace HexPattern.NumeralValues
open LiteralBytes (digitValue digit_eq_some_iff digitValue_lt)
open Offset OffsetNumerals
open QuotedTexts (Quotes quotes_before)
open ReaderSemantics (IsHexDigit digit_absent_iff)

/-- The systems that offsets are written in. -/
inductive System where
  | decimal
  | hex

def System.radix : System → Nat
  | decimal => 10
  | hex => 16

/-- The digits of a system, hex digits in either case. -/
def System.IsDigit : System → Char → Prop
  | decimal, c => '0' ≤ c ∧ c ≤ '9'
  | hex, c => IsHexDigit c

/-- Begins with the mark of hex numerals. -/
def IsMarked (text : List Char) : Prop := text.take 2 = ['0', 'x'] ∨ text.take 2 = ['0', 'X']

instance (text : List Char) : Decidable (IsMarked text) := inferInstanceAs (Decidable (_ ∨ _))

/-- The system that a text is written in. -/
def system (text : List Char) : System := if IsMarked text then .hex else .decimal

/-- What is behind the mark, if there is one. A second mark is no mark. -/
def unmarked (text : List Char) : List Char := if IsMarked text then text.drop 2 else text

/-- What is behind the sign, if there is one. A second sign is no sign. -/
def unsigned (text : List Char) : List Char :=
  if text.head? = some '+' then text.tail else text

/-- The number that digits stand for, the most significant one first. -/
def valueOf (radix : Nat) (digits : List Char) : Nat :=
  Nat.ofDigits radix (digits.map digitValue).reverse

/-- The text is a numeral of this number, which sixty-four bits can hold. -/
structure Denotes (text : List Char) (offset : Nat) : Prop where
  nonempty : unsigned (unmarked text) ≠ []
  digits : ∀ c ∈ unsigned (unmarked text), (system text).IsDigit c
  value : valueOf (system text).radix (unsigned (unmarked text)) = offset
  fits : offset < UInt64.size

variable {written : System} {radix value number offset : Nat} {c : Char} {digit : Nat}
  {text digits rest : List Char}

/-- The decimal digits are the hex digits below ten. -/
theorem decimal_iff : '0' ≤ c ∧ c ≤ '9' ↔ IsHexDigit c ∧ digitValue c < 10 := by
  have nine : c ≤ '9' ↔ c.toNat ≤ 57 := Iff.rfl
  have zero : '0'.toNat = 48 := rfl
  unfold digitValue
  constructor
  · rintro ⟨low, high⟩
    have bound := nine.mp high
    refine ⟨.inl ⟨low, high⟩, ?_⟩
    rw [if_pos high]
    omega
  · rintro ⟨hex, small⟩
    by_cases high : c ≤ '9'
    · rcases hex with decimal | upper | lower
      · exact decimal
      · exact absurd (Char.le_trans upper.1 high) (by decide)
      · exact absurd (Char.le_trans lower.1 high) (by decide)
    · rw [if_neg high] at small
      split at small <;> omega

theorem isDigit_iff : written.IsDigit c ↔ IsHexDigit c ∧ digitValue c < written.radix := by
  cases written with
  | decimal => exact decimal_iff
  | hex => exact (and_iff_left_of_imp digitValue_lt).symm

theorem digit_iff : digit? written.radix c = some digit ↔
    written.IsDigit c ∧ digitValue c = digit := by
  rw [isDigit_iff, digit?]
  cases read : Hex.digit? c with
  | none => simp [digit_absent_iff.mp read]
  | some found =>
    obtain ⟨hex, same⟩ := digit_eq_some_iff.mp read
    simp [hex, same]

/-- The first digit counts as much as the number of digits behind it says. -/
theorem valueOf_cons (radix : Nat) (c : Char) (rest : List Char) :
    valueOf radix (c :: rest) = radix ^ rest.length * digitValue c + valueOf radix rest := by
  rw [valueOf, List.map_cons, List.reverse_cons, Nat.ofDigits_append, Nat.ofDigits_singleton,
    List.length_reverse, List.length_map, Nat.add_comm]
  rfl

theorem radix_pos (written : System) : 0 < written.radix := by
  cases written <;> decide

/-- The number that digits make of the one in front of them. -/
def extended (radix value : Nat) (digits : List Char) : Nat :=
  radix ^ digits.length * value + valueOf radix digits

theorem extended_nil : extended radix value [] = value := by
  simp [extended, valueOf]

theorem extended_cons :
    extended radix value (c :: rest) = extended radix (radix * value + digitValue c) rest := by
  rw [extended, extended, valueOf_cons, List.length_cons]
  ring

theorem extended_zero : extended radix 0 digits = valueOf radix digits := by
  rw [extended, Nat.mul_zero, Nat.zero_add]

/-- Digits never bring a number down. -/
theorem le_extended (written : System) (value : Nat) (digits : List Char) :
    value ≤ extended written.radix value digits := by
  have grows : value ≤ written.radix ^ digits.length * value :=
    Nat.le_mul_of_pos_left value (Nat.pow_pos (radix_pos written))
  exact Nat.le_trans grows (Nat.le_add_right ..)

/-- Reading on from a number gives the number with the digits behind it, if all of
them are digits and sixty-four bits can hold the result. The numbers on the way are
no larger than the last one, so it is enough to look at that. -/
theorem readDigits_ok_iff (small : value < UInt64.size) :
    readDigits written.radix value digits = .ok number ↔
      (∀ c ∈ digits, written.IsDigit c) ∧ extended written.radix value digits = number ∧
        number < UInt64.size := by
  induction digits generalizing value with
  | nil =>
    have done : readDigits written.radix value [] = .ok value := rfl
    rw [done, Except.ok.injEq, extended_nil]
    constructor
    · rintro rfl
      exact ⟨by simp, rfl, small⟩
    · rintro ⟨-, same, -⟩
      exact same
  | cons c rest ih =>
    rw [readDigits_cons, extended_cons, List.forall_mem_cons]
    by_cases isDigit : written.IsDigit c
    · rw [digit_iff.mpr ⟨isDigit, rfl⟩, and_iff_right isDigit]
      dsimp only
      split
      · rename_i fits
        exact ih fits
      · rename_i large
        have grows := le_extended written (written.radix * value + digitValue c) rest
        constructor
        · intro impossible
          cases impossible
        · rintro ⟨-, same, fits⟩
          omega
    · have refused : digit? written.radix c = none := by
        refine Option.eq_none_iff_forall_ne_some.mpr fun digit read => ?_
        exact isDigit (digit_iff.mp read).1
      rw [refused]
      simp [isDigit]

/-- A sign alone is no number, just like nothing at all. -/
theorem readNumber_ok_iff : readNumber radix text = .ok number ↔
    unsigned text ≠ [] ∧ readDigits radix 0 (unsigned text) = .ok number := by
  cases text with
  | nil => simp [readNumber, unsigned]
  | cons first rest =>
    by_cases sign : first = '+'
    · subst sign
      cases rest with
      | nil => simp [readNumber, unsigned]
      | cons second rest => simp [readNumber, unsigned]
    · simp [readNumber, unsigned, sign]

theorem read_eq (text : List Char) :
    Offset.read text = readNumber (system text).radix (unmarked text) := by
  unfold Offset.read
  split
  · rfl
  · rfl
  · rename_i noSmall noCapital
    have plain : ¬ IsMarked text := by
      have whole := List.take_append_drop 2 text
      rintro (small | capital)
      · rw [small] at whole
        exact noSmall _ whole.symm
      · rw [capital] at whole
        exact noCapital _ whole.symm
    rw [system, unmarked, if_neg plain, if_neg plain]
    rfl

theorem read_ok_iff : Offset.read text = .ok offset ↔ Denotes text offset := by
  have zero : 0 < UInt64.size := by decide
  rw [read_eq, readNumber_ok_iff, readDigits_ok_iff zero, extended_zero]
  constructor
  · rintro ⟨nonempty, digits, value, fits⟩
    exact ⟨nonempty, digits, value, fits⟩
  · rintro ⟨nonempty, digits, value, fits⟩
    exact ⟨nonempty, digits, value, fits⟩

theorem marked_hexText (offset : Nat) : IsMarked (hexText offset).toList := by
  rw [toList_hexText]
  exact .inl rfl

/-- Decimal digits hold no mark. -/
theorem read_decimalText (fits : offset < UInt64.size) :
    Offset.read (toString offset).toList = .ok offset := by
  have digits : (toString offset).toList = Nat.toDigits 10 offset := Nat.toList_repr
  have plain : ¬ IsMarked (Nat.toDigits 10 offset) := by
    have decimal : ∀ c ∈ Nat.toDigits 10 offset, c.isDigit = true := fun c member =>
      Nat.isDigit_of_mem_toDigits (by decide) (by decide) member
    rintro (small | capital)
    · have inside : 'x' ∈ (Nat.toDigits 10 offset).take 2 := by simp [small]
      exact absurd (decimal 'x' (List.mem_of_mem_take inside)) (by decide)
    · have inside : 'X' ∈ (Nat.toDigits 10 offset).take 2 := by simp [capital]
      exact absurd (decimal 'X' (List.mem_of_mem_take inside)) (by decide)
  rw [digits, read_eq, system, unmarked, if_neg plain, if_neg plain]
  exact readNumber_written (by decide) (by decide) fits

theorem quotes_refused (text : String) (fault : Offset.Fault) :
    Quotes '"' (refusal text fault) "invalid offset " text.toList (": " ++ fault.message) :=
  quotes_before (.inl rfl) _ text.toList _ _

theorem faultMessage_inj {fault other : Offset.Fault} (same : fault.message = other.message) :
    fault = other := by
  revert same
  cases fault <;> cases other <;> decide

/-- Two texts are never refused in the same words. -/
theorem refusal_inj {text other : String} {fault otherFault : Offset.Fault}
    (same : refusal text fault = refusal other otherFault) : text = other ∧ fault = otherFault := by
  obtain ⟨letters, behind⟩ := (quotes_refused text fault).inj (quotes_refused other otherFault) same
  exact ⟨String.toList_inj.mp letters, faultMessage_inj ((String.append_right_inj _).mp behind)⟩

/-- A text is read as an offset exactly if it is a numeral, of whatever length, whose
number sixty-four bits can hold, and the offset is that number. Any other text is
refused, and what is said of it quotes the text: it can be read off between the quotes,
and of no other text the same is said. Every offset is read from its digits in either
system, those of the hex system behind their mark. -/
theorem exactly_numerals_are_read (text : String) :
    (∀ offset, Offset.read text.toList = .ok offset ↔ Denotes text.toList offset) ∧
    ((¬ ∃ offset, Denotes text.toList offset) → ∃ fault, Offset.read text.toList = .error fault ∧
      Quotes '"' (refusal text fault) "invalid offset " text.toList (": " ++ fault.message) ∧
      ∀ other otherFault, refusal text fault = refusal other otherFault →
        text = other ∧ fault = otherFault) ∧
    ∀ offset < UInt64.size, IsMarked (hexText offset).toList ∧
      Offset.read (hexText offset).toList = .ok offset ∧
      Offset.read (toString offset).toList = .ok offset := by
  refine ⟨fun offset => read_ok_iff, ?_, fun offset fits =>
    ⟨marked_hexText offset, read_hexText fits, read_decimalText fits⟩⟩
  intro noNumeral
  cases read : Offset.read text.toList with
  | ok offset => exact absurd ⟨offset, read_ok_iff.mp read⟩ noNumeral
  | error fault =>
    exact ⟨fault, rfl, quotes_refused text fault, fun other otherFault => refusal_inj⟩

example : Offset.read "0X+00FfFfffffFFFFffff".toList = .ok 18446744073709551615 ∧
    Offset.read "+18446744073709551616".toList = .error .tooLarge ∧
    Offset.read "+0x1".toList = .error .invalidDigit := by
  refine ⟨rfl, rfl, rfl⟩

end HexPattern.NumeralValues
