import HexPattern.Proofs.MatchingSemantics

/-! Matching by masks and values. A scanner that has only the two byte strings
cuts each byte of the data down to the mask of its place and compares what is
left with the value. Cutting down a byte cuts down its halves, so this is the
comparison that the cells make. -/
namespace HexPattern.MaskedComparison
open MatchingSemantics

/-- From the offset on, each byte under the mask of its place is the value of
that place. -/
def AgreesUnderMask (pattern : Pattern) (data : List UInt8) (offset : Nat) : Prop :=
  ∀ place < pattern.length, ∃ byte mask value, data[offset + place]? = some byte ∧
    pattern.mask[place]? = some mask ∧ pattern.values[place]? = some value ∧ byte &&& mask = value

/-- A mask of all bits compares the digit, and a mask of none lets every digit
pass. -/
theorem admits_iff_masked {nibble : Nibble} {digit : Fin 16} :
    Admits nibble digit ↔ digit &&& nibble.mask = nibble.bits := by
  have all : ∀ digit : Fin 16, digit &&& Hex.allBits = digit := by decide
  have none : ∀ digit : Fin 16, digit &&& Hex.noBits = Hex.noBits := by decide
  cases nibble with
  | any => simp [Admits, Nibble.mask, Nibble.bits, none]
  | fixed value => simp [Admits, Nibble.mask, Nibble.bits, all]

private theorem byte_eq_join_iff {byte : UInt8} {high low : Fin 16} :
    byte = Hex.join high low ↔ Hex.highHalf byte = high ∧ Hex.lowHalf byte = low := by
  constructor
  · rintro rfl
    exact ⟨Hex.highHalf_join high low, Hex.lowHalf_join high low⟩
  · rintro ⟨rfl, rfl⟩
    exact (Hex.join_halves byte).symm

theorem accepts_iff_masked {cell : Cell} {byte : UInt8} :
    cell.accepts byte = true ↔ byte &&& cell.mask = cell.maskedValue := by
  rw [cell_accepts_iff, admits_iff_masked, admits_iff_masked, Cell.maskedValue, byte_eq_join_iff,
    Hex.highHalf_and, Hex.lowHalf_and, Cell.mask, Hex.highHalf_join, Hex.lowHalf_join]

private theorem covers_iff_masked (cells : List Cell) (data : List UInt8) :
    Covers cells data ↔ ∀ place < cells.length, ∃ byte mask value, data[place]? = some byte ∧
      (cells.map Cell.mask)[place]? = some mask ∧
      (cells.map Cell.maskedValue)[place]? = some value ∧ byte &&& mask = value := by
  induction cells generalizing data with
  | nil => simp [Covers]
  | cons cell rest ih =>
    rw [List.length_cons, Nat.forall_lt_succ_left]
    cases data with
    | nil => simp [Covers]
    | cons byte data =>
      have front : (∃ here mask value, some byte = some here ∧ some cell.mask = some mask ∧
          some cell.maskedValue = some value ∧ here &&& mask = value) ↔
          byte &&& cell.mask = cell.maskedValue := by
        simp only [Option.some_inj, exists_and_left, exists_eq_left']
      simp only [Covers, ih data, accepts_iff_masked, List.map_cons, List.getElem?_cons_zero,
        List.getElem?_cons_succ, front]

/-- Where a pattern fits, it matches exactly if a scanner finds agreement. -/
theorem matchesAt_iff_masked {pattern : Pattern} {data : List UInt8} {offset : Nat} :
    pattern.matchesAt? data offset = some true ↔
      offset + pattern.length ≤ data.length ∧ AgreesUnderMask pattern data offset := by
  rw [matchesAt_iff, covers_iff_masked]
  simp only [List.getElem?_drop]
  rfl

private theorem nibble_mask_cases (nibble : Nibble) :
    nibble.mask = Hex.noBits ∨ nibble.mask = Hex.allBits := by
  cases nibble with
  | any => exact Or.inl rfl
  | fixed value => exact Or.inr rfl

theorem mask_mem (cell : Cell) : cell.mask ∈ [0x00, 0x0F, 0xF0, 0xFF] := by
  rw [Cell.mask]
  rcases nibble_mask_cases cell.high with high | high <;>
    rcases nibble_mask_cases cell.low with low | low <;>
      rw [high, low] <;> decide

/-- A value is what its mask leaves of it. -/
theorem maskedValue_outside_mask (cell : Cell) : cell.maskedValue &&& ~~~cell.mask = 0 := by
  have inside : cell.maskedValue &&& cell.mask = cell.maskedValue :=
    accepts_iff_masked.mp (accepts_maskedValue cell)
  rw [← inside, UInt8.and_assoc, UInt8.and_not_self, UInt8.and_zero]

/-- Masks and values, byte by byte, say the same as the pattern wherever it
fits. There are as many of each as the pattern covers bytes, a mask has all
bits or none in each half, no value has a bit outside its mask, and so the
values are matched themselves. -/
theorem masks_and_values_decide_matching (pattern : Pattern) :
    (∀ data offset, offset + pattern.length ≤ data.length →
      ∃ matched, pattern.matchesAt? data offset = some matched ∧
        (matched = true ↔ AgreesUnderMask pattern data offset)) ∧
    pattern.mask.length = pattern.length ∧ pattern.values.length = pattern.length ∧
    (∀ mask ∈ pattern.mask, mask ∈ [0x00, 0x0F, 0xF0, 0xFF]) ∧
    (∀ (place : Nat) (mask value : UInt8), pattern.mask[place]? = some mask →
      pattern.values[place]? = some value → value &&& ~~~mask = 0) ∧
    pattern.matchesFront pattern.values = true := by
  refine ⟨?_, List.length_map .., List.length_map .., ?_, ?_, ?_⟩
  · intro data offset fits
    have answered : pattern.matchesAt? data offset ≠ none := by
      intro unanswered
      have outside := Pattern.matchesAt?_eq_none_iff.mp unanswered
      omega
    obtain ⟨matched, found⟩ := Option.ne_none_iff_exists'.mp answered
    refine ⟨matched, found, ?_⟩
    have agrees : pattern.matchesAt? data offset = some true ↔
        offset + pattern.length ≤ data.length ∧ AgreesUnderMask pattern data offset :=
      matchesAt_iff_masked
    rw [found, Option.some_inj, and_iff_right fits] at agrees
    exact agrees
  · intro mask member
    obtain ⟨cell, -, rfl⟩ := List.mem_map.mp member
    exact mask_mem cell
  · intro place mask value maskHere valueHere
    rw [Pattern.mask, List.getElem?_map, Option.map_eq_some_iff] at maskHere
    rw [Pattern.values, List.getElem?_map, Option.map_eq_some_iff] at valueHere
    obtain ⟨cell, here, rfl⟩ := maskHere
    obtain ⟨same, alsoHere, rfl⟩ := valueHere
    rw [here, Option.some_inj] at alsoHere
    rw [← alsoHere]
    exact maskedValue_outside_mask cell
  · exact matchesFront_iff.mpr (covers_values pattern.cells)

end HexPattern.MaskedComparison
