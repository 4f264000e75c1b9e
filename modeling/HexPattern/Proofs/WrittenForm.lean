import HexPattern.Proofs.ReaderSemantics

/-! The written form of a pattern reads back as that pattern, in either letter
case. Texts that stop between two cells can be put side by side, and each part
keeps its own cells; the written form is put together from the two characters
of each cell and from single spaces. -/
namespace HexPattern.WrittenForm
open Text (isBlank)
open ReaderSemantics

/-- The text gives exactly these cells and stops between two of them, so that
nothing in front of it or behind it can change them. -/
structure Spells (text : List Char) (cells : List Cell) : Prop where
  legible : ∀ c ∈ text, Legible c
  completes : completedBy none text = cells
  closed : pendingBy none text = none

theorem spells_nothing : Spells [] [] := ⟨by simp, rfl, rfl⟩

/-- Side by side, texts keep their cells. -/
theorem spells_append {front back : List Char} {frontCells backCells : List Cell}
    (inFront : Spells front frontCells) (behind : Spells back backCells) :
    Spells (front ++ back) (frontCells ++ backCells) := by
  refine ⟨?_, ?_, ?_⟩
  · intro c member
    rcases List.mem_append.mp member with member | member
    · exact inFront.legible c member
    · exact behind.legible c member
  · rw [completedBy_append, inFront.closed, inFront.completes, behind.completes]
  · rw [pendingBy_append, inFront.closed, behind.closed]

/-- A blank between two cells gives no cell. -/
theorem spells_blank {c : Char} (blank : isBlank c = true) : Spells [c] [] := by
  refine ⟨?_, ?_, ?_⟩
  · exact List.forall_mem_singleton.mpr (Or.inr (Or.inr blank))
  · simp [completedBy, completed, blank, halfCell]
  · simp [pendingBy, pendingAfter, blank]

/-- Two characters next to each other give one cell. -/
theorem spells_pair {high low : Char} (highLegible : Legible high) (lowLegible : Legible low)
    (highDark : isBlank high = false) (lowDark : isBlank low = false) :
    Spells [high, low] [⟨nibbleOf high, nibbleOf low⟩] := by
  refine ⟨?_, ?_, ?_⟩
  · exact List.forall_mem_cons.mpr ⟨highLegible, List.forall_mem_singleton.mpr lowLegible⟩
  · simp [completedBy, completed, pendingAfter, highDark, lowDark]
  · simp [pendingBy, pendingAfter, highDark, lowDark]

/-- What is spelled is read. -/
theorem ofChars_of_spells {text : List Char} {cells : List Cell} (spells : Spells text cells) :
    Pattern.ofChars text = .ok (.ofCells cells) := by
  rw [ofChars_legible spells.legible, spells.completes, spells.closed, halfCell, List.append_nil]

/-- The character of a nibble is legible, is no blank and stands for it. -/
theorem nibble_char_reads (letters : LetterCase) (nibble : Nibble) :
    Legible (nibble.char letters) ∧ isBlank (nibble.char letters) = false ∧
      nibbleOf (nibble.char letters) = nibble := by
  have read := Nibble.ofChar?_char letters nibble
  have legible : Legible (nibble.char letters) := by
    refine Decidable.byContradiction fun illegible => ?_
    rw [(illegible_refused illegible).2] at read
    cases read
  have dark : isBlank (nibble.char letters) = false := by
    cases nibble with
    | any => rfl
    | fixed value => cases letters <;> revert value <;> decide
  rw [ofChar_legible legible dark] at read
  exact ⟨legible, dark, Option.some.inj read⟩

theorem spells_cell (letters : LetterCase) (cell : Cell) : Spells (cell.chars letters) [cell] := by
  obtain ⟨highLegible, highDark, high⟩ := nibble_char_reads letters cell.high
  obtain ⟨lowLegible, lowDark, low⟩ := nibble_char_reads letters cell.low
  have spells := spells_pair highLegible lowLegible highDark lowDark
  rw [high, low] at spells
  exact spells

/-- Single spaces part the cells of a written pattern without being read. -/
theorem spells_written (letters : LetterCase) (cells : List Cell) :
    Spells ([' '].intercalate (cells.map (Cell.chars letters))) cells := by
  induction cells with
  | nil => exact spells_nothing
  | cons cell rest ih =>
    cases rest with
    | nil => simpa using spells_cell letters cell
    | cons next rest =>
      rw [List.map_cons, List.map_cons, List.intercalate_cons_cons]
      exact spells_append (spells_append (spells_cell letters cell) (spells_blank rfl)) ih

theorem ofChars_chars (letters : LetterCase) (pattern : Pattern) :
    Pattern.ofChars (pattern.chars letters) = .ok pattern := by
  rw [Pattern.chars, ofChars_of_spells (spells_written letters pattern.cells), Pattern.ofCells_cells]

/-- A character other than a space stands in the written form exactly if it
stands in a cell. -/
theorem mem_chars_iff {c : Char} {letters : LetterCase} {pattern : Pattern} (dark : c ≠ ' ') :
    c ∈ pattern.chars letters ↔ ∃ cell ∈ pattern.cells, c ∈ cell.chars letters := by
  rw [Pattern.chars]
  generalize pattern.cells = cells
  induction cells with
  | nil => simp
  | cons cell rest ih =>
    simp only [List.mem_cons, exists_eq_or_imp, ← ih]
    cases rest with
    | nil => simp
    | cons next rest => simp [List.intercalate_cons_cons, dark]

/-- A written pattern is made of nibbles and spaces. -/
theorem nibble_or_space_of_mem {c : Char} {letters : LetterCase} {pattern : Pattern}
    (member : c ∈ pattern.chars letters) : c = ' ' ∨ ∃ nibble : Nibble, c = nibble.char letters := by
  by_cases space : c = ' '
  · exact .inl space
  · obtain ⟨cell, -, inside⟩ := (mem_chars_iff space).mp member
    simp only [Cell.chars, List.mem_cons, List.not_mem_nil, or_false] at inside
    rcases inside with high | low
    · exact .inr ⟨cell.high, high⟩
    · exact .inr ⟨cell.low, low⟩

theorem toList_text (letters : LetterCase) (pattern : Pattern) :
    (pattern.text letters).toList = pattern.chars letters :=
  String.toList_ofList ..

/-- A change of characters that keeps the spaces changes the characters of the cells. -/
theorem map_chars {f : Char → Char} (keeps : f ' ' = ' ') (letters : LetterCase) (pattern : Pattern) :
    (pattern.chars letters).map f = [' '].intercalate
      (pattern.cells.map fun cell => [f (cell.high.char letters), f (cell.low.char letters)]) := by
  rw [Pattern.chars]
  generalize pattern.cells = cells
  induction cells with
  | nil => rfl
  | cons cell rest ih =>
    cases rest with
    | nil => simp [Cell.chars]
    | cons next rest =>
      rw [List.map_cons, List.map_cons] at ih
      rw [List.map_cons, List.map_cons, List.map_cons, List.map_cons, List.intercalate_cons_cons,
        List.intercalate_cons_cons, List.map_append, List.map_append, ih, List.map_singleton, keeps]
      rfl

/-- Bytes are written as the pattern that they alone match. -/
theorem bytesText_eq (letters : LetterCase) (bytes : List UInt8) :
    Hex.bytesText letters bytes = (Pattern.ofBytes bytes).text letters := by
  rw [Hex.bytesText, Pattern.text, Pattern.chars, Pattern.ofBytes, Pattern.cells_ofCells,
    List.map_map]
  rfl

/-- Bytes in hex read back as the pattern that they alone match. -/
theorem ofText_bytesText (letters : LetterCase) (bytes : List UInt8) :
    Pattern.ofText (Hex.bytesText letters bytes) = .ok (.ofBytes bytes) := by
  rw [bytesText_eq, Pattern.ofText, toList_text]
  exact ofChars_chars letters _

/-- However a pattern was put together, its written form reads back as the
whole pattern, what it says about open cells included. -/
theorem written_pattern_reads_back (letters : LetterCase) (pattern : Pattern) :
    Pattern.ofText (pattern.text letters) = .ok pattern := by
  rw [Pattern.ofText, Pattern.text, String.toList_ofList]
  exact ofChars_chars letters pattern

end HexPattern.WrittenForm
