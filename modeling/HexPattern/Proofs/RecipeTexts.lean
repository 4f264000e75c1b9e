import HexPattern.Pattern.Recipe
import HexPattern.Proofs.LiteralBytes
import HexPattern.Proofs.TextSpellings
import HexPattern.Proofs.WrittenForm

/-! Recipes as texts. A step is written with pieces of two characters, one piece for
each byte that it adds: digits for what it fixes and question marks for what it
leaves open. Letters may have either case, and blanks may stand between the pieces or
be left out. Such a text is read as the pattern that the recipe gives. A half that
is asked for with a number above fifteen is written with the lower four bits of that
number, and these are what the recipe keeps of it. -/
namespace HexPattern.RecipeTexts
open Text (isBlank)
open LiteralBytes ReaderSemantics WrittenForm

/-- The hex digit with this value, its letter in either case. -/
def WritesDigit (value : Nat) (c : Char) : Prop := IsHexDigit c ∧ digitValue c = value

instance (value : Nat) (c : Char) : Decidable (WritesDigit value c) :=
  inferInstanceAs (Decidable (_ ∧ _))

/-- Both digits of a byte, the more significant one first. -/
def WritesByte (byte : UInt8) (piece : List Char) : Prop :=
  ∃ high low, piece = [high, low] ∧ WritesDigit (byte.toNat / 16) high ∧
    WritesDigit (byte.toNat % 16) low

/-- The pieces that a step is written with. A given cell is written as it is in
either case, and its two characters need not have the same. -/
inductive Pieces : Step → List (List Char) → Prop
  | byte {value : UInt8} {piece : List Char} (written : WritesByte value piece) :
      Pieces (.byte value) [piece]
  | bytes {values : List UInt8} {pieces : List (List Char)}
      (written : List.Forall₂ WritesByte values pieces) : Pieces (.bytes values) pieces
  | wildcard : Pieces .wildcard [['?', '?']]
  | wildcards (count : Nat) : Pieces (.wildcards count) (List.replicate count ['?', '?'])
  | high {value : UInt8} {c : Char} (written : WritesDigit (value.toNat % 16) c) :
      Pieces (.high value) [[c, '?']]
  | low {value : UInt8} {c : Char} (written : WritesDigit (value.toNat % 16) c) :
      Pieces (.low value) [['?', c]]
  | cell (added : Cell) (first second : LetterCase) :
      Pieces (.cell added) [[added.high.char first, added.low.char second]]

/-- Pieces in order with any blanks between them, in front of them and behind them. -/
inductive Spaced : List (List Char) → List Char → Prop
  | nothing (blanks : List Char) (blank : ∀ c ∈ blanks, isBlank c = true) : Spaced [] blanks
  | next (blanks piece : List Char) {pieces : List (List Char)} {text : List Char}
      (blank : ∀ c ∈ blanks, isBlank c = true) (later : Spaced pieces text) :
      Spaced (piece :: pieces) (blanks ++ piece ++ text)

/-- A text that writes the steps of a recipe one after the other. -/
def Writes (steps : List Step) (text : List Char) : Prop :=
  ∃ parts, List.Forall₂ Pieces steps parts ∧ Spaced parts.flatten text

/-- A character that is read as this nibble, in either half of a cell. -/
structure Stands (c : Char) (nibble : Nibble) : Prop where
  legible : Legible c
  dark : isBlank c = false
  read : nibbleOf c = nibble

variable {c high low : Char} {nibble highNibble lowNibble : Nibble} {byte : UInt8}
  {piece text : List Char} {pieces : List (List Char)} {cells : List Cell} {step : Step}

theorem stands_digit {value : Fin 16} (written : WritesDigit value.val c) :
    Stands c (.fixed value) := by
  obtain ⟨digit, valued⟩ := written
  obtain ⟨found, read, same⟩ := digit_value digit
  have here : found = value := Fin.ext (same.trans valued)
  refine ⟨.inl digit, TextSpellings.dark_of_digit digit, ?_⟩
  rw [nibbleOf, read, here]

theorem stands_mark : Stands '?' .any := ⟨.inr (.inl rfl), rfl, rfl⟩

theorem stands_char (letters : LetterCase) (nibble : Nibble) :
    Stands (nibble.char letters) nibble := by
  obtain ⟨legible, dark, read⟩ := nibble_char_reads letters nibble
  exact ⟨legible, dark, read⟩

/-- A piece is read as one cell, half by half. -/
theorem spells_piece (first : Stands high highNibble) (second : Stands low lowNibble) :
    Spells [high, low] [⟨highNibble, lowNibble⟩] := by
  have spells := spells_pair first.legible second.legible first.dark second.dark
  rw [first.read, second.read] at spells
  exact spells

theorem spells_byte (written : WritesByte byte piece) : Spells piece [Cell.ofByte byte] := by
  obtain ⟨high, low, rfl, first, second⟩ := written
  rw [← Hex.highHalf_val] at first
  rw [← Hex.lowHalf_val] at second
  exact spells_piece (stands_digit first) (stands_digit second)

/-- Each piece of a step is read as the cell that the step adds in its place. -/
theorem spells_pieces (written : Pieces step pieces) :
    List.Forall₂ (fun piece cell => Spells piece [cell]) pieces step.cells := by
  have one {piece : List Char} {cell : Cell} (spells : Spells piece [cell]) :
      List.Forall₂ (fun piece cell => Spells piece [cell]) [piece] [cell] := .cons spells .nil
  cases written with
  | byte written => exact one (spells_byte written)
  | bytes written =>
    rw [Step.cells, List.forall₂_map_right_iff]
    exact written.flip.imp fun _ _ => spells_byte
  | wildcard => exact one (spells_piece stands_mark stands_mark)
  | wildcards count =>
    rw [Step.cells]
    induction count with
    | zero => exact .nil
    | succ count ih => exact .cons (spells_piece stands_mark stands_mark) ih
  | high written => exact one (spells_piece (stands_digit written) stands_mark)
  | low written => exact one (spells_piece stands_mark (stands_digit written))
  | cell added first second =>
    exact one (spells_piece (stands_char first added.high) (stands_char second added.low))

theorem spells_blanks (blank : ∀ c ∈ text, isBlank c = true) : Spells text [] := by
  induction text with
  | nil => exact spells_nothing
  | cons c rest ih =>
    obtain ⟨here, later⟩ := List.forall_mem_cons.mp blank
    exact spells_append (spells_blank here) (ih later)

/-- Blanks between the pieces are not read, and where there are none each piece still
keeps its own cell. -/
theorem spells_spaced (spaced : Spaced pieces text)
    (read : List.Forall₂ (fun piece cell => Spells piece [cell]) pieces cells) :
    Spells text cells := by
  induction spaced generalizing cells with
  | nothing blanks blank =>
    cases read
    exact spells_blanks blank
  | next blanks piece blank later ih =>
    cases read with
    | cons here rest => exact spells_append (spells_append (spells_blanks blank) here) (ih rest)

/-- The pieces of a recipe give the cells of its steps, step by step. -/
theorem spells_recipe {steps : List Step} {parts : List (List (List Char))}
    (written : List.Forall₂ Pieces steps parts) :
    List.Forall₂ (fun piece cell => Spells piece [cell]) parts.flatten
      (steps.flatMap Step.cells) := by
  induction written with
  | nil => exact .nil
  | cons here later ih =>
    rw [List.flatten_cons, List.flatMap_cons]
    exact List.rel_append (spells_pieces here) ih

/-- Whatever letters and blanks a recipe is written with, its text is accepted and
read as the pattern of the recipe. -/
theorem recipe_text_reads_as_recipe {steps : List Step} {text : String}
    (written : Writes steps text.toList) : Pattern.ofText text = .ok (.ofRecipe steps) := by
  obtain ⟨parts, pieces, spaced⟩ := written
  exact ofChars_of_spells (spells_spaced spaced (spells_recipe pieces))

/-- Oversized halves, letters in both cases, and pieces with and without blanks. -/
theorem oversized_halves_in_mixed_letters :
    let steps : List Step := [.high 0x1F, .bytes [0xAB, 0x0C], .wildcards 2, .low 0x12,
      .cell ⟨.fixed 14, .any⟩, .byte 0xDE]
    let text := "f?aB\u30000c????\t\n?2E?dE "
    Writes steps text.toList ∧ Pattern.ofText text = .ok (.ofRecipe steps) := by
  intro steps text
  have written : Writes steps text.toList := by
    refine ⟨[[['f', '?']], [['a', 'B'], ['0', 'c']], [['?', '?'], ['?', '?']], [['?', '2']],
      [['E', '?']], [['d', 'E']]], ?_, ?_⟩
    · refine .cons (.high (by decide)) (.cons (.bytes ?_) (.cons (.wildcards 2)
        (.cons (.low (by decide)) (.cons (.cell ⟨.fixed 14, .any⟩ .upper .lower)
          (.cons (.byte ?_) .nil)))))
      · exact .cons ⟨'a', 'B', rfl, by decide, by decide⟩
          (.cons ⟨'0', 'c', rfl, by decide, by decide⟩ .nil)
      · exact ⟨'d', 'E', rfl, by decide, by decide⟩
    · have allBlank (blanks : List Char) (all : blanks.all isBlank = true) :
          ∀ c ∈ blanks, isBlank c = true := List.all_eq_true.mp all
      have characters : text.toList = ['f', '?', 'a', 'B', '\u3000', '0', 'c', '?', '?', '?', '?',
          '\t', '\n', '?', '2', 'E', '?', 'd', 'E', ' '] := by
        decide
      have tight := allBlank [] rfl
      rw [characters]
      exact .next [] _ tight (.next [] _ tight (.next ['\u3000'] _ (allBlank _ rfl)
        (.next [] _ tight (.next [] _ tight (.next ['\t', '\n'] _ (allBlank _ rfl)
          (.next [] _ tight (.next [] _ tight (.nothing [' '] (allBlank _ rfl)))))))))
  exact ⟨written, recipe_text_reads_as_recipe written⟩

end HexPattern.RecipeTexts
