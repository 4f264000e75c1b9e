import HexPattern.Proofs.WrittenForm

/-! The texts that patterns are written with. In one letter case they are the
sequences of two-character units with one space between neighbours, and no other
text is the written form of anything. Reading such a text and writing its pattern
again leaves it as it is; every other spelling that is accepted comes back as one
of them. So a text is normalised once and for all, and the letter case that it is
written in last is the one that it keeps. -/
namespace HexPattern.CanonicalTexts

/-- Reads a text and writes its pattern in one letter case. -/
def normalised (letters : LetterCase) (text : String) : Except Fault String :=
  (Pattern.ofText text).map (Pattern.text letters)

/-- A question mark, or a hex digit whose letter has the given case. -/
def IsUnitChar (letters : LetterCase) (c : Char) : Prop :=
  c = '?' ∨ ('0' ≤ c ∧ c ≤ '9') ∨
    match letters with
    | .upper => 'A' ≤ c ∧ c ≤ 'F'
    | .lower => 'a' ≤ c ∧ c ≤ 'f'

/-- One unit or more, a single space between neighbours. -/
inductive Units (letters : LetterCase) : List Char → Prop
  | last {high low : Char} (first : IsUnitChar letters high) (second : IsUnitChar letters low) :
      Units letters [high, low]
  | spaced {high low : Char} {rest : List Char} (first : IsUnitChar letters high)
      (second : IsUnitChar letters low) (more : Units letters rest) :
      Units letters (high :: low :: ' ' :: rest)

/-- Units with single spaces between them, or nothing at all. -/
def Canonical (letters : LetterCase) (text : List Char) : Prop := text = [] ∨ Units letters text

variable {letters : LetterCase} {text : List Char} {c : Char}

private theorem char_behind {start : Nat} (behind : start ≤ c.toNat) :
    Char.ofNat (start + (c.toNat - start)) = c := by
  rw [Nat.add_sub_cancel' behind, Char.ofNat_toNat]

/-- Each digit has one character in each letter case. -/
theorem digitChar_of_unitChar (digit : IsUnitChar letters c) (noMark : c ≠ '?') :
    ∃ value, Hex.digitChar letters value = c := by
  have decimal : '0' ≤ c ∧ c ≤ '9' ↔ 48 ≤ c.toNat ∧ c.toNat ≤ 57 := Iff.rfl
  have capital : 'A' ≤ c ∧ c ≤ 'F' ↔ 65 ≤ c.toNat ∧ c.toNat ≤ 70 := Iff.rfl
  have small : 'a' ≤ c ∧ c ≤ 'f' ↔ 97 ≤ c.toNat ∧ c.toNat ≤ 102 := Iff.rfl
  rcases digit.resolve_left noMark with here | here
  · rw [decimal] at here
    have below : c.toNat - 48 < 10 := by omega
    exact ⟨⟨c.toNat - 48, by omega⟩, (if_pos below).trans (char_behind here.1)⟩
  · cases letters with
    | upper =>
      rw [capital] at here
      have above : ¬ c.toNat - 55 < 10 := by omega
      exact ⟨⟨c.toNat - 55, by omega⟩, (if_neg above).trans (char_behind (by omega))⟩
    | lower =>
      rw [small] at here
      have above : ¬ c.toNat - 87 < 10 := by omega
      exact ⟨⟨c.toNat - 87, by omega⟩, (if_neg above).trans (char_behind (by omega))⟩

/-- Units are made of the characters that nibbles are written with. -/
theorem isUnitChar_iff : IsUnitChar letters c ↔ ∃ nibble : Nibble, nibble.char letters = c := by
  constructor
  · intro digit
    by_cases mark : c = '?'
    · exact ⟨.any, mark.symm⟩
    · obtain ⟨value, written⟩ := digitChar_of_unitChar digit mark
      exact ⟨.fixed value, written⟩
  · rintro ⟨nibble, rfl⟩
    cases nibble with
    | any => exact .inl rfl
    | fixed value =>
      right
      cases letters <;> revert value <;> decide

theorem isUnitChar_char (letters : LetterCase) (nibble : Nibble) :
    IsUnitChar letters (nibble.char letters) :=
  isUnitChar_iff.mpr ⟨nibble, rfl⟩

/-- Cells are written as units. -/
theorem units_of_cells (letters : LetterCase) (cell : Cell) (rest : List Cell) :
    Units letters ([' '].intercalate ((cell :: rest).map (Cell.chars letters))) := by
  have high := isUnitChar_char letters cell.high
  have low := isUnitChar_char letters cell.low
  induction rest generalizing cell with
  | nil => simpa [Cell.chars] using Units.last high low
  | cons next rest ih =>
    have more := ih next (isUnitChar_char letters next.high) (isUnitChar_char letters next.low)
    rw [List.map_cons] at more
    rw [List.map_cons, List.map_cons, List.intercalate_cons_cons]
    exact .spaced high low more

/-- Units are the written form of cells, of one cell each. -/
theorem cells_of_units (units : Units letters text) :
    ∃ cell rest, [' '].intercalate ((cell :: rest).map (Cell.chars letters)) = text := by
  induction units with
  | last first second =>
    obtain ⟨high, rfl⟩ := isUnitChar_iff.mp first
    obtain ⟨low, rfl⟩ := isUnitChar_iff.mp second
    exact ⟨⟨high, low⟩, [], by simp [Cell.chars]⟩
  | spaced first second more ih =>
    obtain ⟨high, rfl⟩ := isUnitChar_iff.mp first
    obtain ⟨low, rfl⟩ := isUnitChar_iff.mp second
    obtain ⟨next, rest, rfl⟩ := ih
    refine ⟨⟨high, low⟩, next :: rest, ?_⟩
    rw [List.map_cons, List.map_cons, List.intercalate_cons_cons]
    rfl

theorem written_iff_canonical :
    (∃ pattern : Pattern, pattern.chars letters = text) ↔ Canonical letters text := by
  constructor
  · rintro ⟨pattern, rfl⟩
    rw [Pattern.chars]
    cases pattern.cells with
    | nil => exact .inl rfl
    | cons cell rest => exact .inr (units_of_cells letters cell rest)
  · rintro (rfl | units)
    · exact ⟨.ofCells [], rfl⟩
    · obtain ⟨cell, rest, written⟩ := cells_of_units units
      exact ⟨.ofCells (cell :: rest), written⟩

/-- A written pattern keeps its pattern, so only its letters change. -/
theorem normalised_text (letters other : LetterCase) (pattern : Pattern) :
    normalised letters (pattern.text other) = .ok (pattern.text letters) := by
  rw [normalised, Pattern.ofText, WrittenForm.toList_text, WrittenForm.ofChars_chars]
  rfl

theorem text_eq_iff {pattern : Pattern} {text : String} :
    pattern.text letters = text ↔ pattern.chars letters = text.toList := by
  rw [← String.toList_inj, WrittenForm.toList_text]

/-- What is accepted is written as a pattern afterwards. -/
theorem written_of_normalised {text normal : String} (read : normalised letters text = .ok normal) :
    ∃ pattern : Pattern, pattern.text letters = normal := by
  rw [normalised] at read
  cases found : Pattern.ofText text with
  | error fault =>
    rw [found] at read
    cases read
  | ok pattern =>
    rw [found] at read
    exact ⟨pattern, Except.ok.inj read⟩

/-- Exactly the canonical texts are left as they are by reading and writing, and
exactly these are written forms at all. What has been normalised, in either letter
case, is normalised again as if it were the text that it came from, so doing it
twice is the same as doing it once. -/
theorem canonical_texts_stay (letters : LetterCase) (text : String) :
    (normalised letters text = .ok text ↔ Canonical letters text.toList) ∧
    ((∃ pattern : Pattern, pattern.text letters = text) ↔ Canonical letters text.toList) ∧
    ∀ other, (normalised other text >>= normalised letters) = normalised letters text := by
  have written : (∃ pattern : Pattern, pattern.text letters = text) ↔
      Canonical letters text.toList := by
    simp only [text_eq_iff, written_iff_canonical]
  refine ⟨⟨?_, ?_⟩, written, ?_⟩
  · intro stays
    exact written.mp (written_of_normalised stays)
  · intro canonical
    obtain ⟨pattern, rfl⟩ := written.mpr canonical
    exact normalised_text letters letters pattern
  · intro other
    unfold normalised
    cases Pattern.ofText text with
    | error fault => rfl
    | ok pattern => exact normalised_text letters other pattern

example : normalised .lower "A?\t ?b??D" = .ok "a? ?b ?? d?" := by
  cbv

end HexPattern.CanonicalTexts
