import HexPattern.Pattern.Reader

/-! What the reader makes of a text, one character at a time. A character
that is no blank is dark. Between two characters the reader holds at most the
upper half of a cell. A legible character completes cells or leaves such a
half behind, whatever follows it; the first illegible character ends the
reading where it stands. `resume_append` follows the reader through any
legible stretch of text; accepted texts are told from refused ones by it. -/
namespace HexPattern.ReaderSemantics
open Text (isBlank)

/-- A hex digit as texts write it: a decimal digit, or one of six letters in
either case. -/
def IsHexDigit (c : Char) : Prop :=
  ('0' ≤ c ∧ c ≤ '9') ∨ ('A' ≤ c ∧ c ≤ 'F') ∨ ('a' ≤ c ∧ c ≤ 'f')

/-- A character that may stand in the text of a pattern. -/
def Legible (c : Char) : Prop := IsHexDigit c ∨ c = '?' ∨ isBlank c = true

instance : DecidablePred IsHexDigit := fun _ => inferInstanceAs (Decidable (_ ∨ _ ∨ _))

instance : DecidablePred Legible := fun _ => inferInstanceAs (Decidable (_ ∨ _ ∨ _))

/-- The nibble that a legible character stands for, if it is no blank. Only
the question mark is no digit. -/
def nibbleOf (c : Char) : Nibble :=
  match Hex.digit? c with
  | none => .any
  | some digit => .fixed digit

theorem isHexDigit_iff {c : Char} : IsHexDigit c ↔
    (48 ≤ c.toNat ∧ c.toNat ≤ 57) ∨ (65 ≤ c.toNat ∧ c.toNat ≤ 70) ∨ (97 ≤ c.toNat ∧ c.toNat ≤ 102) :=
  Iff.rfl

/-- Digits are read exactly where texts write them. -/
theorem digit_absent_iff {c : Char} : Hex.digit? c = none ↔ ¬ IsHexDigit c := by
  rw [isHexDigit_iff]
  unfold Hex.digit?
  dsimp only
  split
  · simp
    omega
  · split
    · simp
      omega
    · split
      · simp
        omega
      · simp
        omega

/-- A character of a cell is read as its nibble, in either half. -/
theorem ofChar_legible {c : Char} (legible : Legible c) (dark : isBlank c = false) :
    Nibble.ofChar? c = some (nibbleOf c) := by
  unfold Nibble.ofChar?
  split
  · rename_i mark
    subst mark
    rfl
  · rename_i other
    have digit : IsHexDigit c := by
      rcases legible with digit | mark | blank
      · exact digit
      · exact absurd mark other
      · simp [dark] at blank
    cases read : Hex.digit? c with
    | none => exact absurd digit (digit_absent_iff.mp read)
    | some value => simp [Nibble.ofHexChar?, nibbleOf, read]

/-- An illegible character is no blank and stands for no nibble. -/
theorem illegible_refused {c : Char} (illegible : ¬ Legible c) :
    isBlank c = false ∧ Nibble.ofChar? c = none := by
  simp only [Legible, not_or, Bool.not_eq_true] at illegible
  obtain ⟨noDigit, noMark, dark⟩ := illegible
  exact ⟨dark, by simp [Nibble.ofChar?, Nibble.ofHexChar?, noMark, digit_absent_iff.mpr noDigit]⟩

/-- Cells read before the rest of a reading. -/
def prepend (cells : List Cell) (reading : Reading) : Reading :=
  ⟨cells ++ reading.cells, reading.fault?⟩

@[simp] theorem prepend_nil (reading : Reading) : prepend [] reading = reading := by
  simp [prepend]

@[simp] theorem prepend_prepend (front back : List Cell) (reading : Reading) :
    prepend front (prepend back reading) = prepend (front ++ back) reading := by
  simp [prepend]

/-- The cell of which only the upper half is read, once it gets no lower half. -/
def halfCell : Option Nibble → List Cell
  | none => []
  | some high => [⟨high, .any⟩]

/-- Reading on from between two characters, where the upper half of a cell
may already be read. -/
def resume (pending : Option Nibble) (cursor : Cursor) : Reading :=
  match pending with
  | none => Reading.ofCursor cursor
  | some high =>
    match cursor.lowNibble with
    | .error fault => ⟨[], some fault⟩
    | .ok (low, next) => prepend [⟨high, low⟩] (Reading.ofCursor next)

variable {position : Nat} {pending : Option Nibble} {c : Char} {rest front : List Char}

theorem ofCursor_eq (cursor : Cursor) : Reading.ofCursor cursor =
    match cursor.nextCell with
    | .error fault => ⟨[], some fault⟩
    | .ok none => ⟨[], none⟩
    | .ok (some (cell, next)) => prepend [cell] (Reading.ofCursor next) := by
  rw [Reading.ofCursor]
  split <;> simp_all [prepend]

theorem skipBlanks_blank (blank : isBlank c = true) :
    Cursor.skipBlanks ⟨position, c :: rest⟩ = Cursor.skipBlanks ⟨position + 1, rest⟩ := by
  simp [Cursor.skipBlanks, blank]
  omega

theorem skipBlanks_dark (dark : isBlank c = false) :
    Cursor.skipBlanks ⟨position, c :: rest⟩ = ⟨position, c :: rest⟩ := by
  simp [Cursor.skipBlanks, dark]

private theorem ofCursor_blank (blank : isBlank c = true) :
    Reading.ofCursor ⟨position, c :: rest⟩ = Reading.ofCursor ⟨position + 1, rest⟩ := by
  have next : Cursor.nextCell ⟨position, c :: rest⟩ = Cursor.nextCell ⟨position + 1, rest⟩ := by
    unfold Cursor.nextCell
    rw [skipBlanks_blank blank]
  rw [ofCursor_eq, next, ← ofCursor_eq]

private theorem ofCursor_dark (dark : isBlank c = false) :
    Reading.ofCursor ⟨position, c :: rest⟩ =
      match Nibble.ofChar? c with
      | none => ⟨[], some (.unexpectedCharacter position c)⟩
      | some high => resume (some high) ⟨position + 1, rest⟩ := by
  rw [ofCursor_eq, Cursor.nextCell, skipBlanks_dark dark]
  cases read : Nibble.ofChar? c with
  | none => simp only [read]
  | some high =>
    simp only [read, resume]
    cases Cursor.lowNibble ⟨position + 1, rest⟩ with
    | error fault => rfl
    | ok found => rfl

/-- The two halves of a cell take the same characters: the lower one tells
the question mark from the digits only to leave it open. -/
private theorem lowNibble_dark (dark : isBlank c = false) :
    Cursor.lowNibble ⟨position, c :: rest⟩ =
      match Nibble.ofChar? c with
      | none => .error (.unexpectedCharacter position c)
      | some low => .ok (low, ⟨position + 1, rest⟩) := by
  by_cases mark : c = '?'
  · simp [Cursor.lowNibble, Nibble.ofChar?, mark]
  · cases read : Nibble.ofHexChar? c with
    | none => simp [Cursor.lowNibble, Nibble.ofChar?, dark, mark, read]
    | some low => simp [Cursor.lowNibble, Nibble.ofChar?, dark, mark, read]

/-- The cells that one more legible character completes. -/
def completed (pending : Option Nibble) (c : Char) : List Cell :=
  if isBlank c then halfCell pending
  else match pending with
    | none => []
    | some high => [⟨high, nibbleOf c⟩]

/-- What is read of the next cell after one more legible character. -/
def pendingAfter (pending : Option Nibble) (c : Char) : Option Nibble :=
  if isBlank c then none
  else match pending with
    | none => some (nibbleOf c)
    | some _ => none

/-- At the end of the text a half cell stays open. -/
theorem resume_end : resume pending ⟨position, []⟩ = ⟨halfCell pending, none⟩ := by
  have stop : Reading.ofCursor ⟨position, []⟩ = ⟨[], none⟩ := by
    rw [ofCursor_eq]
    rfl
  cases pending with
  | none => exact stop
  | some high => simp [resume, Cursor.lowNibble, stop, prepend, halfCell]

/-- An illegible character ends the reading in either half of a cell. -/
theorem resume_illegible (illegible : ¬ Legible c) :
    resume pending ⟨position, c :: rest⟩ = ⟨[], some (.unexpectedCharacter position c)⟩ := by
  obtain ⟨dark, refused⟩ := illegible_refused illegible
  cases pending with
  | none => rw [resume, ofCursor_dark dark, refused]
  | some high => simp only [resume, lowNibble_dark dark, refused]

/-- One legible character does the same to every text that goes on from it. -/
theorem resume_legible (legible : Legible c) :
    resume pending ⟨position, c :: rest⟩ =
      prepend (completed pending c) (resume (pendingAfter pending c) ⟨position + 1, rest⟩) := by
  by_cases blank : isBlank c = true
  · cases pending with
    | none => simp [completed, pendingAfter, blank, resume, halfCell, ofCursor_blank blank]
    | some high => simp [completed, pendingAfter, blank, resume, halfCell, Cursor.lowNibble]
  · have dark : isBlank c = false := by simpa using blank
    have read := ofChar_legible legible dark
    cases pending with
    | none => simp [completed, pendingAfter, dark, resume, ofCursor_dark dark, read]
    | some high => simp [completed, pendingAfter, dark, resume, lowNibble_dark dark, read]

/-- The cells that a legible stretch of text completes. -/
def completedBy (pending : Option Nibble) : List Char → List Cell
  | [] => []
  | c :: rest => completed pending c ++ completedBy (pendingAfter pending c) rest

/-- What is read of the next cell at the end of a legible stretch of text. -/
def pendingBy (pending : Option Nibble) (text : List Char) : Option Nibble :=
  text.foldl pendingAfter pending

theorem completedBy_append (pending : Option Nibble) (front back : List Char) :
    completedBy pending (front ++ back) =
      completedBy pending front ++ completedBy (pendingBy pending front) back := by
  induction front generalizing pending with
  | nil => rfl
  | cons c rest ih =>
    rw [List.cons_append, completedBy, completedBy, ih, List.append_assoc]
    rfl

theorem pendingBy_append (pending : Option Nibble) (front back : List Char) :
    pendingBy pending (front ++ back) = pendingBy (pendingBy pending front) back :=
  List.foldl_append

/-- A legible stretch of text gives its own cells, independently of what
follows, and hands on at most the upper half of a cell. -/
theorem resume_append (back : List Char) (legible : ∀ c ∈ front, Legible c) :
    resume pending ⟨position, front ++ back⟩ =
      prepend (completedBy pending front)
        (resume (pendingBy pending front) ⟨position + front.length, back⟩) := by
  -- the pending half changes with every character, so it is not fixed here
  induction front generalizing pending position with
  | nil => simp [completedBy, pendingBy]
  | cons c rest ih =>
    have head : Legible c := legible c (by simp)
    have tail : ∀ d ∈ rest, Legible d := fun d member => legible d (by simp [member])
    have place : position + 1 + rest.length = position + (c :: rest).length := by
      simp only [List.length_cons]
      omega
    rw [List.cons_append, resume_legible head, ih tail, place, prepend_prepend]
    rfl

/-- A text without illegible characters is read to its end. -/
theorem reading_of_legible {text : List Char} (legible : ∀ c ∈ text, Legible c) :
    Reading.ofChars text = ⟨completedBy none text ++ halfCell (pendingBy none text), none⟩ := by
  have run : resume none ⟨0, text ++ []⟩ = _ := resume_append [] legible
  rw [List.append_nil, resume_end] at run
  exact run

/-- Reading stops at the first illegible character. Half a cell in front of
it is lost, and nothing behind it is looked at. -/
theorem reading_of_illegible {found : Char} (back : List Char)
    (legible : ∀ c ∈ front, Legible c) (illegible : ¬ Legible found) :
    Reading.ofChars (front ++ found :: back) =
      ⟨completedBy none front, some (.unexpectedCharacter front.length found)⟩ := by
  have run : resume none ⟨0, front ++ found :: back⟩ = _ := resume_append (found :: back) legible
  rw [resume_illegible illegible, Nat.zero_add] at run
  simp only [prepend, List.append_nil] at run
  exact run

/-- Where a text first stops being the text of a pattern. Places are counted
in characters, however many bytes a character takes. -/
structure FirstIllegible (text : List Char) (position : Nat) (found : Char) : Prop where
  here : text[position]? = some found
  illegible : ¬ Legible found
  legibleBefore : ∀ c ∈ text.take position, Legible c

variable {text other : List Char} {found : Char}

/-- A text is legible throughout or has a first illegible character. -/
theorem legible_or_first_illegible (text : List Char) :
    (∀ c ∈ text, Legible c) ∨ ∃ position found, FirstIllegible text position found := by
  induction text with
  | nil => exact Or.inl (by simp)
  | cons c rest ih =>
    by_cases legible : Legible c
    · rcases ih with tail | ⟨position, found, first⟩
      · exact Or.inl (List.forall_mem_cons.mpr ⟨legible, tail⟩)
      · refine Or.inr ⟨position + 1, found, ?_, first.illegible, ?_⟩
        · simpa using first.here
        · rw [List.take_succ_cons]
          exact List.forall_mem_cons.mpr ⟨legible, first.legibleBefore⟩
    · exact Or.inr ⟨0, c, rfl, legible, by simp⟩

theorem first_illegible_split (first : FirstIllegible text position found) :
    (text.take position).length = position ∧
      text = text.take position ++ found :: text.drop (position + 1) := by
  obtain ⟨inside, same⟩ := List.getElem?_eq_some_iff.mp first.here
  refine ⟨by rw [List.length_take]; omega, ?_⟩
  rw [← same, ← List.drop_eq_getElem_cons inside, List.take_append_drop]

/-- Only the text up to and including the illegible character counts. -/
theorem first_illegible_of_same_front (first : FirstIllegible text position found)
    (same : other.take (position + 1) = text.take (position + 1)) :
    FirstIllegible other position found := by
  refine ⟨?_, first.illegible, ?_⟩
  · have here := congrArg (·[position]?) same
    simpa [List.getElem?_take, first.here] using here
  · have before := congrArg (List.take position) same
    rw [List.take_take, List.take_take, Nat.min_eq_left (by omega)] at before
    rw [before]
    exact first.legibleBefore

/-- Every legible text is accepted. -/
theorem ofChars_legible (legible : ∀ c ∈ text, Legible c) :
    Pattern.ofChars text =
      .ok (.ofCells (completedBy none text ++ halfCell (pendingBy none text))) := by
  rw [Pattern.ofChars, reading_of_legible legible]
  rfl

/-- The first illegible character is the one reported, at its own place. -/
theorem ofChars_first_illegible (first : FirstIllegible text position found) :
    Pattern.ofChars text = .error (.unexpectedCharacter position found) := by
  obtain ⟨length, split⟩ := first_illegible_split first
  rw [split, Pattern.ofChars,
    reading_of_illegible _ first.legibleBefore first.illegible, length]
  rfl

/-- An accepted text is legible throughout. -/
theorem legible_of_accepted {pattern : Pattern} (accepted : Pattern.ofChars text = .ok pattern) :
    ∀ c ∈ text, Legible c := by
  rcases legible_or_first_illegible text with legible | ⟨position, found, first⟩
  · exact legible
  · rw [ofChars_first_illegible first] at accepted
    cases accepted

/-- The pattern of an accepted text has the cells that the text completes, and
half a cell where the text breaks off. -/
theorem eq_of_accepted {text : List Char} {pattern : Pattern}
    (accepted : Pattern.ofChars text = .ok pattern) :
    pattern = .ofCells (completedBy none text ++ halfCell (pendingBy none text)) := by
  rw [ofChars_legible (legible_of_accepted accepted)] at accepted
  exact (Except.ok.inj accepted).symm

/-- An accepted text is read to its end. -/
theorem reading_of_accepted {pattern : Pattern} (accepted : Pattern.ofChars text = .ok pattern) :
    Reading.ofChars text = ⟨pattern.cells, none⟩ := by
  rw [reading_of_legible (legible_of_accepted accepted), eq_of_accepted accepted,
    Pattern.cells_ofCells]

/-- A refused text has a first illegible character. -/
theorem firstIllegible_of_refused {text : List Char} {fault : Fault}
    (refused : Pattern.ofChars text = .error fault) :
    ∃ position found, FirstIllegible text position found ∧
      fault = .unexpectedCharacter position found := by
  rcases legible_or_first_illegible text with legible | ⟨position, found, first⟩
  · rw [ofChars_legible legible] at refused
    cases refused
  · rw [ofChars_first_illegible first] at refused
    exact ⟨position, found, first, (Except.error.inj refused).symm⟩

/-- Exactly the texts of legible characters are accepted. Any other text is
refused with its first illegible character and the place of that character,
never for another reason, and whatever comes after it makes no difference. -/
theorem first_illegible_character_decides (text : String) :
    ((∃ pattern, Pattern.ofText text = .ok pattern) ↔ ∀ c ∈ text.toList, Legible c) ∧
    (∀ fault, Pattern.ofText text = .error fault ↔
      ∃ position found, FirstIllegible text.toList position found ∧
        fault = .unexpectedCharacter position found) ∧
    (∀ position found, FirstIllegible text.toList position found → ∀ other : String,
      other.toList.take (position + 1) = text.toList.take (position + 1) →
        Pattern.ofText other = .error (.unexpectedCharacter position found)) := by
  refine ⟨⟨?_, ?_⟩, ?_, ?_⟩
  · rintro ⟨pattern, accepted⟩
    exact legible_of_accepted accepted
  · intro legible
    exact ⟨_, ofChars_legible legible⟩
  · intro fault
    constructor
    · intro refused
      rcases legible_or_first_illegible text.toList with legible | ⟨position, found, first⟩
      · rw [Pattern.ofText, ofChars_legible legible] at refused
        cases refused
      · rw [Pattern.ofText, ofChars_first_illegible first] at refused
        cases refused
        exact ⟨position, found, first, rfl⟩
    · rintro ⟨position, found, first, rfl⟩
      exact ofChars_first_illegible first
  · intro position found first other same
    exact ofChars_first_illegible (first_illegible_of_same_front first same)

example : Pattern.ofText "A \u3000éG" = .error (.unexpectedCharacter 3 'é') := by
  cbv

end HexPattern.ReaderSemantics
