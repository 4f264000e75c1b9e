import HexPattern.Pattern.Document
import HexPattern.Pattern.Recipe
import HexPattern.Proofs.FirstOpenCell
import HexPattern.Proofs.WrittenForm
import Mathlib.Tactic.TFAE

/-! Whether a pattern leaves anything open. The answer is stored when the
pattern is put together, and it can be found out again from the cells, from
their number, from the bytes, the mask and the written form. However the
pattern came about, all of these agree, so whoever relies on the stored answer
may use the others. -/
namespace HexPattern.OpenCells

/-- The ways in which a pattern comes about. -/
inductive MadeFrom : Pattern → Prop
  | text {text : String} {pattern : Pattern} (accepted : Pattern.ofText text = .ok pattern) :
      MadeFrom pattern
  | document {json : String} {pattern : Pattern} (accepted : Pattern.ofJson json = .ok pattern) :
      MadeFrom pattern
  | bytes (bytes : List UInt8) : MadeFrom (.ofBytes bytes)
  | cells (cells : List Cell) : MadeFrom (.ofCells cells)
  | recipe (steps : List Step) : MadeFrom (.ofRecipe steps)

variable {cells : List Cell} {pattern : Pattern}

theorem made_of_ofChars {text : List Char} (accepted : Pattern.ofChars text = .ok pattern) :
    ∃ cells, pattern = .ofCells cells := by
  rw [Pattern.ofChars, Reading.result] at accepted
  cases fault : (Reading.ofChars text).fault? with
  | some found => simp [fault] at accepted
  | none =>
    rw [fault] at accepted
    exact ⟨_, (Except.ok.inj accepted).symm⟩

private theorem ofChars_of_document {json : List Char}
    (accepted : Pattern.readDocument json = .ok pattern) :
    ∃ text, Pattern.ofChars text = .ok pattern := by
  unfold Pattern.readDocument at accepted
  split at accepted
  · cases accepted
  · rename_i text rest _
    split at accepted
    · cases accepted
    · rename_i read found
      refine ⟨text, ?_⟩
      unfold Json.readEnd at accepted
      split at accepted
      · rw [found]
        cases accepted
        rfl
      · cases accepted

/-- Whatever a pattern is made from, its cells are put together in one place. -/
theorem ofCells_of_made (made : MadeFrom pattern) : ∃ cells, pattern = .ofCells cells := by
  cases made with
  | text accepted => exact made_of_ofChars accepted
  | document accepted =>
    obtain ⟨text, read⟩ := ofChars_of_document accepted
    exact made_of_ofChars read
  | bytes bytes => exact ⟨bytes.map Cell.ofByte, rfl⟩
  | cells cells => exact ⟨cells, rfl⟩
  | recipe steps => exact ⟨steps.flatMap Step.cells, rfl⟩

theorem stored_iff : (Pattern.ofCells cells).hasWildcards = true ↔
    ∃ cell ∈ cells, cell.hasWildcard = true :=
  List.any_eq_true

theorem counted_iff : 0 < (Pattern.ofCells cells).wildcardCount ↔
    ∃ cell ∈ cells, cell.hasWildcard = true :=
  List.countP_pos_iff

/-- Reading off the bytes fails at the first open cell and nowhere else. -/
theorem cellBytes_fails_iff (index : Nat) : (∃ fault, Pattern.cellBytes index cells = .error fault) ↔
    ∃ cell ∈ cells, cell.hasWildcard = true := by
  simp only [FirstOpenCell.cellBytes_error_iff, ← FirstOpenCell.exists_firstOpen_iff]
  constructor
  · rintro ⟨_, place, first, -⟩
    exact ⟨place, first⟩
  · rintro ⟨place, first⟩
    exact ⟨_, place, first, rfl⟩

theorem mask_full_iff {cell : Cell} : cell.mask ≠ 0xFF ↔ cell.hasWildcard = true := by
  obtain ⟨high, low⟩ := cell
  cases high <;> cases low <;> simp [Cell.mask, Nibble.mask, Cell.hasWildcard, Nibble.isWildcard] <;>
    decide

theorem masked_iff : (∃ mask ∈ (Pattern.ofCells cells).mask, mask ≠ 0xFF) ↔
    ∃ cell ∈ cells, cell.hasWildcard = true := by
  constructor
  · rintro ⟨mask, member, notFull⟩
    obtain ⟨cell, here, rfl⟩ := List.mem_map.mp member
    exact ⟨cell, here, mask_full_iff.mp notFull⟩
  · rintro ⟨cell, here, wild⟩
    exact ⟨cell.mask, List.mem_map_of_mem here, mask_full_iff.mpr wild⟩

/-- Only an open nibble is written as a question mark. -/
theorem char_eq_mark_iff {letters : LetterCase} {nibble : Nibble} :
    nibble.char letters = '?' ↔ nibble.isWildcard = true := by
  constructor
  · intro mark
    have read := Nibble.ofChar?_char letters nibble
    rw [mark] at read
    cases read
    rfl
  · intro wild
    cases nibble with
    | any => rfl
    | fixed value => cases wild

theorem mark_mem_chars_iff (letters : LetterCase) (cell : Cell) :
    '?' ∈ cell.chars letters ↔ cell.hasWildcard = true := by
  simp only [Cell.chars, Cell.hasWildcard, List.mem_cons, List.not_mem_nil, or_false,
    Bool.or_eq_true, eq_comm (a := '?'), char_eq_mark_iff]

theorem mark_mem_written_iff {letters : LetterCase} :
    '?' ∈ ((Pattern.ofCells cells).text letters).toList ↔
      ∃ cell ∈ cells, cell.hasWildcard = true := by
  rw [WrittenForm.toList_text, WrittenForm.mem_chars_iff (by decide), Pattern.cells_ofCells]
  exact exists_congr fun cell => and_congr_right' (mark_mem_chars_iff letters cell)

/-- What is stored about a pattern is what its cells, bytes, mask and written
form show. -/
structure Consistent (pattern : Pattern) : Prop where
  digits : ∀ cell ∈ pattern.cells, ∀ half ∈ [cell.high, cell.low], ∀ value,
    half.value? = some value → value.val ≤ 15
  known_alike : [
    pattern.hasWildcards = true,
    ∃ cell ∈ pattern.cells, cell.hasWildcard = true,
    0 < pattern.wildcardCount,
    ∃ fault, pattern.toBytes = .error fault,
    ∃ mask ∈ pattern.mask, mask ≠ 0xFF,
    '?' ∈ (pattern.text .upper).toList,
    '?' ∈ (pattern.text .lower).toList].TFAE
  rebuilt : (Pattern.ofCells pattern.cells == pattern) = true

theorem consistent_ofCells (cells : List Cell) : Consistent (.ofCells cells) where
  digits := by
    intro cell _ half _ value _
    exact Nat.le_of_lt_succ value.isLt
  known_alike := by
    rw [Pattern.cells_ofCells]
    tfae_have 1 ↔ 2 := stored_iff
    tfae_have 3 ↔ 2 := counted_iff
    tfae_have 4 ↔ 2 := cellBytes_fails_iff 0
    tfae_have 5 ↔ 2 := masked_iff
    tfae_have 6 ↔ 2 := mark_mem_written_iff
    tfae_have 7 ↔ 2 := mark_mem_written_iff
    tfae_finish
  rebuilt := beq_self_eq_true _

/-- Exactly the patterns without open cells stand for bytes. -/
theorem toBytes_ok_iff : (∃ bytes, pattern.toBytes = .ok bytes) ↔ pattern.hasWildcards = false := by
  have fails : (∃ fault, pattern.toBytes = .error fault) ↔ pattern.hasWildcards = true := by
    rw [← Pattern.ofCells_cells pattern]
    exact (consistent_ofCells pattern.cells).known_alike.out 3 0
  cases found : pattern.toBytes with
  | error fault => simpa [found] using fails
  | ok bytes => simpa [found] using fails

/-- However a pattern came about, it is consistent. A half that is fixed by a
byte takes its lower four bits, so no byte is too large for it. -/
theorem consistent_of_made (made : MadeFrom pattern) :
    (∀ byte, ∃ value, Nibble.ofByte byte = .fixed value ∧ value.val = byte.toNat % 16) ∧
      Consistent pattern := by
  refine ⟨?_, ?_⟩
  · intro byte
    exact ⟨Hex.lowHalf byte, rfl, rfl⟩
  · obtain ⟨cells, rfl⟩ := ofCells_of_made made
    exact consistent_ofCells cells

theorem consistent_of_oversized_half :
    MadeFrom (.ofRecipe [.byte 0xC3, .wildcards 0, .high 0xFA]) ∧
      Consistent (.ofRecipe [.byte 0xC3, .wildcards 0, .high 0xFA]) :=
  ⟨.recipe _, (consistent_of_made (.recipe _)).2⟩

end HexPattern.OpenCells
