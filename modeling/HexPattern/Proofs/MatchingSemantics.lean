import HexPattern.Proofs.WrittenForm

/-! A pattern is known by what it matches. Each cell accepts a byte by its two
halves, and no two cells accept the same bytes; from there two patterns that
match the same data agree cell by cell. Masks and values keep a cell apart
from every other one too, and the written form reads back, so all of these
are the same as being equal. -/
namespace HexPattern.MatchingSemantics

/-- An open nibble admits every digit, a fixed one its own only. -/
def Admits : Nibble → Fin 16 → Prop
  | .any, _ => True
  | .fixed value, digit => digit = value

/-- The data goes on from its front with bytes that the cells accept, one
byte for each cell and anything behind them. -/
def Covers : List Cell → List UInt8 → Prop
  | [], _ => True
  | _ :: _, [] => False
  | cell :: rest, byte :: data => cell.accepts byte = true ∧ Covers rest data

theorem nibble_accepts_iff {nibble : Nibble} {byte : UInt8} :
    nibble.accepts byte = true ↔ Admits nibble (Hex.lowHalf byte) := by
  cases nibble <;> simp [Nibble.accepts, Admits]

private theorem lowHalf_shift (byte : UInt8) : Hex.lowHalf (byte >>> 4) = Hex.highHalf byte := by
  apply Fin.ext
  simp [Hex.lowHalf, Hex.highHalf, UInt8.toNat_shiftRight, Nat.shiftRight_eq_div_pow]

theorem cell_accepts_iff {cell : Cell} {byte : UInt8} :
    cell.accepts byte = true ↔
      Admits cell.high (Hex.highHalf byte) ∧ Admits cell.low (Hex.lowHalf byte) := by
  rw [Cell.accepts, Bool.and_eq_true, nibble_accepts_iff, nibble_accepts_iff, lowHalf_shift]

private theorem cell_accepts_join_iff {cell : Cell} {high low : Fin 16} :
    cell.accepts (Hex.join high low) = true ↔ Admits cell.high high ∧ Admits cell.low low := by
  rw [cell_accepts_iff, Hex.highHalf_join, Hex.lowHalf_join]

theorem admits_bits (nibble : Nibble) : Admits nibble nibble.bits := by
  cases nibble with
  | any => trivial
  | fixed value => rfl

theorem accepts_maskedValue (cell : Cell) : cell.accepts cell.maskedValue = true :=
  cell_accepts_join_iff.mpr ⟨admits_bits cell.high, admits_bits cell.low⟩

/-- A fixed nibble refuses the digit after its own, which tells it from an
open one. -/
theorem nibble_eq_of_admits {left right : Nibble}
    (same : ∀ digit, Admits left digit ↔ Admits right digit) : left = right := by
  have refused : ∀ value : Fin 16, value + 1 ≠ value := by decide
  cases left with
  | any =>
    cases right with
    | any => rfl
    | fixed value => exact absurd ((same (value + 1)).mp trivial) (refused value)
  | fixed value =>
    cases right with
    | any => exact absurd ((same (value + 1)).mpr trivial) (refused value)
    | fixed other => exact congrArg Nibble.fixed ((same value).mp rfl)

/-- Holding one half at a digit that both cells admit shows what the other
half admits. -/
theorem cell_eq_of_accepts {left right : Cell}
    (same : ∀ byte, left.accepts byte = true ↔ right.accepts byte = true) : left = right := by
  have halves : ∀ high low, Admits left.high high ∧ Admits left.low low ↔
      Admits right.high high ∧ Admits right.low low := by
    intro high low
    rw [← cell_accepts_join_iff, ← cell_accepts_join_iff]
    exact same _
  have leftHigh := admits_bits left.high
  have leftLow := admits_bits left.low
  obtain ⟨rightHigh, rightLow⟩ := (halves _ _).mp ⟨leftHigh, leftLow⟩
  have high : left.high = right.high := nibble_eq_of_admits fun digit => by
    simpa [leftLow, rightLow] using halves digit left.low.bits
  have low : left.low = right.low := nibble_eq_of_admits fun digit => by
    simpa [leftHigh, rightHigh] using halves left.high.bits digit
  exact Cell.ext high low

private theorem fits_and_accepts_iff (cells : List Cell) (data : List UInt8) :
    (cells.length ≤ data.length ∧
      (cells.zip (data.take cells.length)).all (fun (cell, byte) => cell.accepts byte) = true) ↔
      Covers cells data := by
  induction cells generalizing data with
  | nil => simp [Covers]
  | cons cell rest ih =>
    cases data with
    | nil => simp [Covers]
    | cons byte data =>
      rw [Covers, ← ih data]
      simp only [List.length_cons, List.take_succ_cons, List.zip_cons_cons, List.all_cons,
        Bool.and_eq_true, Nat.add_le_add_iff_right]
      exact and_left_comm

/-- Where a pattern fits at all, it matches if its cells accept the bytes that
follow. -/
theorem matchesAt_iff {pattern : Pattern} {data : List UInt8} {offset : Nat} :
    pattern.matchesAt? data offset = some true ↔
      offset + pattern.length ≤ data.length ∧ Covers pattern.cells (data.drop offset) := by
  rw [← fits_and_accepts_iff, Pattern.matchesAt?]
  by_cases fits : offset + pattern.length ≤ data.length
  · have behind : pattern.cells.length ≤ (data.drop offset).length := by
      rw [List.length_drop]
      exact Nat.le_sub_of_add_le' fits
    rw [if_pos fits, Option.some_inj, and_iff_right fits, and_iff_right behind]
    rfl
  · simp [fits]

theorem matchesFront_iff {pattern : Pattern} {data : List UInt8} :
    pattern.matchesFront data = true ↔ Covers pattern.cells data := by
  have front : pattern.matchesFront data = true ↔ pattern.matchesAt? data 0 = some true := by
    rw [Pattern.matchesFront]
    cases pattern.matchesAt? data 0 <;> simp
  have fits : Covers pattern.cells data → 0 + pattern.length ≤ data.length := by
    intro covers
    rw [Nat.zero_add]
    exact ((fits_and_accepts_iff pattern.cells data).mpr covers).1
  rw [front, matchesAt_iff, List.drop_zero, and_iff_right_of_imp fits]

/-- Every pattern matches something: its own values. -/
theorem covers_values (cells : List Cell) : Covers cells (cells.map Cell.maskedValue) := by
  induction cells with
  | nil => trivial
  | cons cell rest ih => exact ⟨accepts_maskedValue cell, ih⟩

/-- Putting the first cell's own value in front, or the values of the others
behind, leaves a match to the rest alone. -/
theorem cells_eq_of_covers {left right : List Cell}
    (same : ∀ data, Covers left data ↔ Covers right data) : left = right := by
  induction left generalizing right with
  | nil =>
    cases right with
    | nil => rfl
    | cons cell rest => exact absurd ((same []).mp trivial) id
  | cons cell rest ih =>
    cases right with
    | nil => exact absurd ((same []).mpr trivial) id
    | cons other others =>
      have own : cell.accepts cell.maskedValue = true := accepts_maskedValue cell
      have values : Covers rest (rest.map Cell.maskedValue) := covers_values rest
      obtain ⟨otherOwn, otherValues⟩ :
          other.accepts cell.maskedValue = true ∧ Covers others (rest.map Cell.maskedValue) :=
        (same (cell.maskedValue :: rest.map Cell.maskedValue)).mp ⟨own, values⟩
      have head : cell = other := cell_eq_of_accepts fun byte => by
        simpa [Covers, values, otherValues] using same (byte :: rest.map Cell.maskedValue)
      have tail : rest = others := ih fun data => by
        simpa [Covers, own, otherOwn] using same (cell.maskedValue :: data)
      rw [head, tail]

/-- The mask tells an open nibble from a fixed one, and the value is the
digit of a fixed one. -/
theorem nibble_eq_of_mask_bits {left right : Nibble} (mask : left.mask = right.mask)
    (bits : left.bits = right.bits) : left = right := by
  cases left with
  | any =>
    cases right with
    | any => rfl
    | fixed value => simp [Nibble.mask, Hex.noBits, Hex.allBits] at mask
  | fixed value =>
    cases right with
    | any => simp [Nibble.mask, Hex.noBits, Hex.allBits] at mask
    | fixed other => exact congrArg Nibble.fixed bits

private theorem join_inj {high low otherHigh otherLow : Fin 16}
    (same : Hex.join high low = Hex.join otherHigh otherLow) : high = otherHigh ∧ low = otherLow := by
  have highs := congrArg Hex.highHalf same
  have lows := congrArg Hex.lowHalf same
  rw [Hex.highHalf_join, Hex.highHalf_join] at highs
  rw [Hex.lowHalf_join, Hex.lowHalf_join] at lows
  exact ⟨highs, lows⟩

theorem cell_eq_of_mask_value {left right : Cell} (mask : left.mask = right.mask)
    (value : left.maskedValue = right.maskedValue) : left = right := by
  obtain ⟨highMask, lowMask⟩ := join_inj mask
  obtain ⟨highBits, lowBits⟩ := join_inj value
  have high : left.high = right.high := nibble_eq_of_mask_bits highMask highBits
  have low : left.low = right.low := nibble_eq_of_mask_bits lowMask lowBits
  exact Cell.ext high low

theorem cells_eq_of_masks_values {left right : List Cell}
    (masks : left.map Cell.mask = right.map Cell.mask)
    (values : left.map Cell.maskedValue = right.map Cell.maskedValue) : left = right := by
  induction left generalizing right with
  | nil => exact (List.map_eq_nil_iff.mp masks.symm).symm
  | cons cell rest ih =>
    cases right with
    | nil => cases masks
    | cons other others =>
      obtain ⟨headMask, tailMasks⟩ := List.cons.inj masks
      obtain ⟨headValue, tailValues⟩ := List.cons.inj values
      rw [cell_eq_of_mask_value headMask headValue, ih tailMasks tailValues]

/-- Patterns are equal exactly if they match the same data, exactly if their
masks and values agree, and exactly if they are written alike in upper or in
lower case. -/
theorem equal_iff_indistinguishable (left right : Pattern) :
    ((left == right) = true ↔ ∀ data, left.matchesFront data = right.matchesFront data) ∧
    ((left == right) = true ↔ left.mask = right.mask ∧ left.values = right.values) ∧
    ∀ letters, (left == right) = true ↔ left.text letters = right.text letters := by
  rw [beq_iff_eq]
  refine ⟨⟨?_, ?_⟩, ⟨?_, ?_⟩, fun letters => ⟨?_, ?_⟩⟩
  · rintro rfl data
    rfl
  · intro same
    refine Pattern.ext_cells (cells_eq_of_covers fun data => ?_)
    rw [← matchesFront_iff, ← matchesFront_iff, same data]
  · rintro rfl
    exact ⟨rfl, rfl⟩
  · rintro ⟨masks, values⟩
    exact Pattern.ext_cells (cells_eq_of_masks_values masks values)
  · rintro rfl
    rfl
  · intro same
    have read := WrittenForm.ofChars_chars letters left
    rw [String.ofList_injective same, WrittenForm.ofChars_chars] at read
    exact (Except.ok.inj read).symm

end HexPattern.MatchingSemantics
