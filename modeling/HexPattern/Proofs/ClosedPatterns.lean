import HexPattern.Proofs.MatchingSemantics
import HexPattern.Proofs.OpenCells

/-! Patterns without open cells. Each of their cells is that of one byte, so such a
pattern is the pattern of one byte string and of no other. It stands for these
bytes and matches exactly the data that begin with them. Any other pattern stands
for no bytes, and what is said of it is where its first open cell is. -/
namespace HexPattern.ClosedPatterns
open FirstOpenCell MatchingSemantics

variable {cell : Cell} {cells : List Cell} {byte other : UInt8} {bytes data : List UInt8}
  {pattern : Pattern}

/-- Only the cell of a byte stands for that byte. -/
theorem value?_eq_some_iff : cell.value? = some byte ↔ cell = .ofByte byte := by
  constructor
  · intro found
    obtain ⟨high, low⟩ := cell
    cases high with
    | any => cases found
    | fixed high =>
      cases low with
      | any => cases found
      | fixed low =>
        rw [← Option.some.inj found, Cell.ofByte, Hex.highHalf_join, Hex.lowHalf_join]
  · rintro rfl
    exact Cell.value?_ofByte byte

theorem values_eq_some_iff : cells.map Cell.value? = bytes.map some ↔ cells = bytes.map Cell.ofByte := by
  induction cells generalizing bytes with
  | nil => cases bytes <;> simp
  | cons cell rest ih =>
    cases bytes with
    | nil => simp
    | cons byte bytes => simp only [List.map_cons, List.cons.injEq, value?_eq_some_iff, ih]

theorem toBytes_eq_ok_iff_eq_ofBytes : pattern.toBytes = .ok bytes ↔ pattern = .ofBytes bytes := by
  rw [toBytes_eq_ok_iff, values_eq_some_iff]
  constructor
  · intro cells
    exact Pattern.ext_cells cells
  · rintro rfl
    rfl

/-- A byte is known by its two halves. -/
theorem accepts_ofByte_iff : (Cell.ofByte byte).accepts other = true ↔ byte = other := by
  rw [cell_accepts_iff]
  constructor
  · rintro ⟨high, low⟩
    rw [← Hex.join_halves byte, ← Hex.join_halves other]
    exact congrArg₂ Hex.join high.symm low.symm
  · rintro rfl
    exact ⟨rfl, rfl⟩

theorem covers_ofBytes_iff : Covers (bytes.map Cell.ofByte) data ↔ bytes <+: data := by
  induction bytes generalizing data with
  | nil => simp [Covers]
  | cons byte bytes ih =>
    cases data with
    | nil => simp [Covers]
    | cons first rest => rw [List.map_cons, Covers, accepts_ofByte_iff, ih, List.cons_prefix_cons]

theorem matchesFront_ofBytes_iff : (Pattern.ofBytes bytes).matchesFront data = true ↔ bytes <+: data :=
  matchesFront_iff.trans covers_ofBytes_iff

/-- A pattern with an open cell has a first one, and that is where the way to its
bytes ends. -/
theorem toBytes_of_hasWildcards (wild : pattern.hasWildcards = true) :
    ∃ index, FirstOpen pattern.cells index ∧ pattern.toBytes = .error (.openCell index) := by
  rw [Pattern.hasWildcards_eq, List.any_eq_true] at wild
  obtain ⟨index, first⟩ := exists_firstOpen_iff.mpr wild
  exact ⟨index, first, toBytes_eq_error_iff.mpr ⟨index, first, rfl⟩⟩

/-- Byte strings and patterns without open cells are the same. From bytes to their
pattern and back nothing is lost, and a pattern stands for bytes exactly if it is
their pattern; then they are its values, and it matches what begins with them.
Otherwise the index of the first open cell is all there is to report. -/
theorem closed_patterns_are_byte_strings (pattern : Pattern) :
    (∀ bytes, (Pattern.ofBytes bytes).toBytes = .ok bytes ∧
      (Pattern.ofBytes bytes).hasWildcards = false) ∧
    (∀ bytes, pattern.toBytes = .ok bytes ↔ (pattern == Pattern.ofBytes bytes) = true) ∧
    (∀ bytes, pattern.toBytes = .ok bytes →
      bytes = pattern.values ∧ ∀ data, pattern.matchesFront data = true ↔ bytes <+: data) ∧
    (pattern.hasWildcards = true →
      ∃ index, FirstOpen pattern.cells index ∧ pattern.toBytes = .error (.openCell index)) ∧
    ∀ fault, pattern.toBytes = .error fault →
      ∃ index, FirstOpen pattern.cells index ∧ fault = .openCell index := by
  refine ⟨?_, ?_, ?_, toBytes_of_hasWildcards, ?_⟩
  · intro bytes
    have found := toBytes_ofBytes bytes
    exact ⟨found, OpenCells.toBytes_ok_iff.mp ⟨bytes, found⟩⟩
  · intro bytes
    rw [beq_iff_eq]
    exact toBytes_eq_ok_iff_eq_ofBytes
  · intro bytes found
    refine ⟨(values_of_toBytes found).symm, fun data => ?_⟩
    rw [toBytes_eq_ok_iff_eq_ofBytes.mp found]
    exact matchesFront_ofBytes_iff
  · intro fault failed
    exact toBytes_eq_error_iff.mp failed

end HexPattern.ClosedPatterns
