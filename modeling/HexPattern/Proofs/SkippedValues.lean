import HexPattern.Json.Skip
import HexPattern.Proofs.JsonValues

/-! Passing over a value ends where the value ends. The reader holds the open brackets
in a list and knows no nesting of its own, so the statement is about all brackets at
once: with any of them open, a value is passed over and they are as they were. The
proof follows the value, whose parts are passed over one after the other. -/
namespace HexPattern.SkippedValues
open Json JsonValues
open StringLiterals (skipBlanks_behind readPiece_plain readPiece_short readPiece_unit)

variable {text rest body piece blanks : List Char} {due other : Skip} {frame : Frame}
  {frames outer : List Frame} {elements : List Element} {parts : List Part}

/-- A piece of a literal is taken whole, and it does not close the literal. -/
theorem readPiece_of_piece (isPiece : IsPiece piece) (rest : List Char) :
    ∃ found, readPiece (piece ++ rest) = .ok (found, rest) ∧ found ≠ .close := by
  cases isPiece with
  | plain noQuote noBackslash noControl =>
    exact ⟨_, readPiece_plain noQuote noBackslash noControl, nofun⟩
  | short known => exact ⟨_, readPiece_short known, nofun⟩
  | unit unit => exact ⟨_, readPiece_unit unit, nofun⟩

theorem skipLiteral_piece (isPiece : IsPiece piece) (rest : List Char) :
    skipLiteral (piece ++ rest) = skipLiteral rest := by
  obtain ⟨found, read, open_⟩ := readPiece_of_piece isPiece rest
  rw [skipLiteral]
  split
  · rename_i failed
    cases failed.symm.trans read
  · rename_i closed
    cases closed.symm.trans read
    exact absurd rfl open_
  · rename_i taken
    cases taken.symm.trans read
    rfl

theorem skipLiteral_of_body (isBody : IsBody body) (rest : List Char) :
    skipLiteral (body ++ '"' :: rest) = .ok rest := by
  induction isBody with
  | nil =>
    rw [List.nil_append, skipLiteral]
    rfl
  | cons first others ih =>
    rw [List.append_assoc, skipLiteral_piece first]
    exact ih

theorem run_done (text : List Char) : Skip.run .done text = .ok text := by
  rw [Skip.run, dif_pos rfl]

theorem run_pending (pending : due ≠ .done) (text : List Char) :
    Skip.run due text = due.step text >>= fun found => Skip.run found.1 found.2 := by
  rw [Skip.run, dif_neg pending]
  split
  · rename_i failed
    simp only [failed]
    rfl
  · rename_i stepped
    simp only [stepped]
    rfl

theorem run_step {later : Skip} (pending : due ≠ .done) (stepped : due.step text = .ok (later, rest)) :
    Skip.run due text = Skip.run later rest := by
  rw [run_pending pending, stepped]
  rfl

/-- Two things that are due come to the same if the first step does. -/
theorem run_congr (pending : due ≠ .done) (alsoPending : other ≠ .done)
    (same : due.step text = other.step rest) : Skip.run due text = Skip.run other rest := by
  rw [run_pending pending, run_pending alsoPending, same]

theorem run_blanks (pending : due ≠ .done) (blank : Blank blanks) (text : List Char) :
    Skip.run due (blanks ++ text) = Skip.run due text := by
  apply run_congr pending pending
  cases due with
  | done => exact absurd rfl pending
  | value | first | key | colon | next => simp only [Skip.step, skipBlanks_behind blank]

/-- Nothing that is due inside a bracket is over. -/
theorem next_pending : Skip.after (frame :: outer) ≠ .done := nofun

/-- A text that is passed over where a value is due. -/
def Skips (text : List Char) : Prop :=
  ∀ frames blanks rest, Blank blanks → Ends rest →
    Skip.run (.value frames) (blanks ++ (text ++ rest)) = Skip.run (Skip.after frames) rest

/-- A value for which one step is enough. -/
theorem skips_of_step (stepped : ∀ frames rest, Ends rest →
    Skip.step (.value frames) (text ++ rest) = .ok (Skip.after frames, rest)) : Skips text := by
  intro frames blanks rest blank ends
  have pending : Skip.value frames ≠ .done := nofun
  rw [run_blanks pending blank]
  exact run_step pending (stepped frames rest ends)

/-- An element of a list is passed over like a value, and the blanks around it, too. -/
theorem skips_element {element : Element} (spaced : element.Spaced) (skips : Skips element.text)
    (ends : Ends rest) (frame : Frame) (outer : List Frame) :
    Skip.run (.value (frame :: outer)) (element.chars ++ rest) = Skip.run (.next frame outer) rest := by
  have closed : Ends (element.back ++ rest) := ends_blanks spaced.2 ends
  rw [Element.chars_append, skips (frame :: outer) element.front _ spaced.1 closed]
  exact run_blanks next_pending spaced.2 rest

theorem ends_comma (rest : List Char) : Ends (',' :: rest) := ends_cons rest (by decide)

theorem ends_closing (frame : Frame) (rest : List Char) : Ends (frame.closing :: rest) := by
  apply ends_cons
  cases frame with
  | list => decide
  | object => decide

/-- Where parts are behind commas, a number in front of them has ended. -/
theorem ends_behindCommas (frame : Frame) (parts : List (List Char)) (rest : List Char) :
    Ends (behindCommas parts ++ frame.closing :: rest) := by
  cases parts with
  | nil => exact ends_closing frame rest
  | cons first others => exact ends_comma _

theorem run_next_comma (text : List Char) (frame : Frame) (outer : List Frame) :
    Skip.run (.next frame outer) (',' :: text) = Skip.run (Skip.afterComma frame outer) text := by
  refine run_step nofun ?_
  rw [Skip.step, skipBlanks_shown _ (by decide), Skip.nextStep, if_pos rfl]

theorem shown_closing (frame : Frame) : isBlank frame.closing = false := by
  cases frame with
  | list => decide
  | object => decide

theorem run_next_closing (text : List Char) (frame : Frame) (outer : List Frame) :
    Skip.run (.next frame outer) (frame.closing :: text) = Skip.run (Skip.after outer) text := by
  have noComma : frame.closing ≠ ',' := by cases frame <;> decide
  refine run_step nofun ?_
  rw [Skip.step, skipBlanks_shown _ (shown_closing frame), Skip.nextStep, if_neg noComma, if_pos rfl]

theorem run_first_closing (text : List Char) (frame : Frame) (outer : List Frame) :
    Skip.run (.first frame outer) (frame.closing :: text) = Skip.run (Skip.after outer) text := by
  refine run_step nofun ?_
  rw [Skip.step, skipBlanks_shown _ (shown_closing frame)]
  exact if_pos rfl

/-- A text that is passed over where the key of a part is due. -/
theorem skips_part {part : Part} (spaced : part.Spaced) (key : IsBody part.body)
    (skips : Skips part.element.text) (ends : Ends rest) (outer : List Frame) :
    Skip.run (.key outer) (part.chars ++ rest) = Skip.run (.next .object outer) rest := by
  obtain ⟨inFront, behind, spacedElement⟩ := spaced
  have keyStepped : Skip.step (.key outer)
      ('"' :: (part.body ++ '"' :: (part.back ++ ':' :: (part.element.chars ++ rest)))) =
      .ok (.colon outer, part.back ++ ':' :: (part.element.chars ++ rest)) := by
    rw [Skip.step, skipBlanks_shown _ (by decide), Skip.keyStep, skipLiteral_of_body key]
    rfl
  have colonStepped : Skip.step (.colon outer) (':' :: (part.element.chars ++ rest)) =
      .ok (.value (.object :: outer), part.element.chars ++ rest) := by
    rw [Skip.step, skipBlanks_shown _ (by decide)]
    rfl
  have keyPending : Skip.key outer ≠ .done := nofun
  have colonPending : Skip.colon outer ≠ .done := nofun
  rw [Part.chars_append, run_blanks keyPending inFront, run_step keyPending keyStepped,
    run_blanks colonPending behind, run_step colonPending colonStepped]
  exact skips_element spacedElement skips ends .object outer

/-- Elements behind their commas are passed over one after the other. -/
theorem skips_elements (spaced : ∀ element ∈ elements, element.Spaced)
    (skips : ∀ element ∈ elements, Skips element.text) (rest : List Char) (outer : List Frame) :
    Skip.run (.next .list outer) (behindCommas (elements.map Element.chars) ++ ']' :: rest) =
      Skip.run (Skip.after outer) rest := by
  induction elements with
  | nil => exact run_next_closing rest .list outer
  | cons element others ih =>
    obtain ⟨spacedHere, spacedLater⟩ := List.forall_mem_cons.mp spaced
    obtain ⟨skipsHere, skipsLater⟩ := List.forall_mem_cons.mp skips
    have ends := ends_behindCommas .list (others.map Element.chars) rest
    rw [List.map_cons, behindCommas_cons, run_next_comma]
    exact (skips_element spacedHere skipsHere ends .list outer).trans (ih spacedLater skipsLater)

theorem skips_parts (spaced : ∀ part ∈ parts, part.Spaced) (keys : ∀ part ∈ parts, IsBody part.body)
    (skips : ∀ part ∈ parts, Skips part.element.text) (rest : List Char) (outer : List Frame) :
    Skip.run (.next .object outer) (behindCommas (parts.map Part.chars) ++ '\x7d' :: rest) =
      Skip.run (Skip.after outer) rest := by
  induction parts with
  | nil => exact run_next_closing rest .object outer
  | cons part others ih =>
    obtain ⟨spacedHere, spacedLater⟩ := List.forall_mem_cons.mp spaced
    obtain ⟨keyHere, keysLater⟩ := List.forall_mem_cons.mp keys
    obtain ⟨skipsHere, skipsLater⟩ := List.forall_mem_cons.mp skips
    have ends := ends_behindCommas .object (others.map Part.chars) rest
    rw [List.map_cons, behindCommas_cons, run_next_comma]
    exact (skips_part spacedHere keyHere skipsHere ends outer).trans
      (ih spacedLater keysLater skipsLater)

/-- A part whose first character that is no blank does not close the bracket. -/
def Opens (frame : Frame) (part : List Char) : Prop :=
  ∃ blanks c rest, part = blanks ++ c :: rest ∧ Blank blanks ∧ isBlank c = false ∧ c ≠ frame.closing

theorem opens_element {element : Element} (spaced : element.Spaced) (value : IsValue element.text) :
    Opens .list element.chars := by
  obtain ⟨c, rest, text, shown, notClosing⟩ := head_of_value value
  refine ⟨element.front, c, rest ++ element.back, ?_, spaced.1, shown, notClosing⟩
  rw [Element.chars, text]
  rfl

theorem opens_part {part : Part} (spaced : part.Spaced) : Opens .object part.chars :=
  ⟨part.front, '"', _, rfl, spaced.1, by decide, by decide⟩

theorem blank_append {more : List Char} (blank : Blank blanks) (alsoBlank : Blank more) :
    Blank (blanks ++ more) :=
  List.forall_mem_append.mpr ⟨blank, alsoBlank⟩

/-- What stands right behind the bracket is passed over as if a comma had come first. -/
theorem run_first_comma {part : List Char} (opens : Opens frame part) (blank : Blank blanks)
    (rest : List Char) : Skip.run (.first frame outer) (blanks ++ (part ++ rest)) =
      Skip.run (.next frame outer) (',' :: (part ++ rest)) := by
  obtain ⟨front, c, more, rfl, alsoBlank, shown, notClosing⟩ := opens
  have pending : Skip.first frame outer ≠ .done := nofun
  have later : Skip.afterComma frame outer ≠ .done := by cases frame <;> nofun
  rw [run_next_comma, List.append_assoc, List.cons_append, ← List.append_assoc,
    run_blanks pending (blank_append blank alsoBlank), run_blanks later alsoBlank]
  apply run_congr pending later
  have first : Skip.step (.first frame outer) (c :: (more ++ rest)) =
      Skip.firstStep frame outer (c :: (more ++ rest)) := by
    rw [Skip.step, skipBlanks_shown _ shown]
  rw [first]
  cases frame with
  | list =>
    rw [Skip.afterComma, Skip.step, skipBlanks_shown _ shown]
    exact if_neg notClosing
  | object =>
    rw [Skip.afterComma, Skip.step, skipBlanks_shown _ shown]
    exact if_neg notClosing

/-- All that stands between two brackets is passed over as if a comma had come first. -/
theorem run_first_joined {parts : List (List Char)} (opens : ∀ part ∈ parts, Opens frame part)
    (blank : Blank blanks) (rest : List Char) :
    Skip.run (.first frame outer) (blanks ++ (joined parts ++ frame.closing :: rest)) =
      Skip.run (.next frame outer) (behindCommas parts ++ frame.closing :: rest) := by
  cases parts with
  | nil =>
    have pending : Skip.first frame outer ≠ .done := nofun
    rw [joined, List.nil_append, run_blanks pending blank, run_first_closing]
    exact (run_next_closing rest frame outer).symm
  | cons part others =>
    rw [joined, List.append_assoc, run_first_comma (opens part List.mem_cons_self) blank,
      behindCommas_cons]

/-- The character that opens a bracket. -/
def opening : Frame → Char
  | .list => '['
  | .object => '\x7b'

theorem run_opening (frame : Frame) (frames : List Frame) (text : List Char) :
    Skip.run (.value frames) (opening frame :: text) = Skip.run (.first frame frames) text := by
  refine run_step nofun ?_
  cases frame with
  | list =>
    rw [Skip.step, skipBlanks_shown _ (by decide)]
    rfl
  | object =>
    rw [Skip.step, skipBlanks_shown _ (by decide)]
    rfl

/-- If the parts behind their commas are passed over, so is the bracket with all that it
encloses. -/
theorem skips_enclosed {parts : List (List Char)} (opens : ∀ part ∈ parts, Opens frame part)
    (blank : Blank blanks)
    (skips : ∀ rest outer, Skip.run (.next frame outer) (behindCommas parts ++ frame.closing :: rest) =
      Skip.run (Skip.after outer) rest) :
    Skips (opening frame :: (blanks ++ (joined parts ++ [frame.closing]))) := by
  intro frames front rest frontBlank ends
  have pending : Skip.value frames ≠ .done := nofun
  have split : opening frame :: (blanks ++ (joined parts ++ [frame.closing])) ++ rest =
      opening frame :: (blanks ++ (joined parts ++ frame.closing :: rest)) := by
    simp
  rw [run_blanks pending frontBlank, split, run_opening, run_first_joined opens blank]
  exact skips rest frames

/-- A number is told by its first character. -/
theorem valueStep_number {c : Char} (first : c = '-' ∨ c.isDigit = true) (rest : List Char) :
    Skip.valueStep frames (c :: rest) = (Skip.number (c :: rest)).map (Skip.after frames, ·) := by
  have apart (other : Char) : other ≠ '-' → other.isDigit = false → c ≠ other :=
    other_of_number first
  simp [Skip.valueStep, apart, first]

/-- Every value is passed over to its end, whatever brackets are open around it. -/
theorem skips_value (value : IsValue text) : Skips text := by
  induction value with
  | null =>
    apply skips_of_step
    intro frames rest ends
    rfl
  | true =>
    apply skips_of_step
    intro frames rest ends
    rfl
  | false =>
    apply skips_of_step
    intro frames rest ends
    rfl
  | number written =>
    apply skips_of_step
    intro frames rest ends
    have read := readNumeral_of_written written ends
    obtain ⟨c, more, rfl, first⟩ := head_of_written written
    have shown : isBlank c = false := shown_of_number first
    rw [List.cons_append, Skip.step, skipBlanks_shown _ shown, valueStep_number first, Skip.number,
      ← List.cons_append, read]
    rfl
  | @string body literal =>
    apply skips_of_step
    intro frames rest ends
    have skipped : skipLiteral (body ++ '"' :: rest) = .ok rest := skipLiteral_of_body literal rest
    rw [List.cons_append, List.append_assoc, Skip.step, skipBlanks_shown _ (by decide),
      Skip.valueStep, List.singleton_append, skipped]
    rfl
  | @list blanks elements blank spaced values ih =>
    have opens : ∀ part ∈ elements.map Element.chars, Opens .list part :=
      List.forall_mem_map.mpr fun element member => opens_element (spaced element member)
        (values element member)
    exact skips_enclosed opens blank (skips_elements spaced ih)
  | @object blanks parts blank spaced keys values ih =>
    have opens : ∀ part ∈ parts.map Part.chars, Opens .object part :=
      List.forall_mem_map.mpr fun part member => opens_part (spaced part member)
    exact skips_enclosed opens blank (skips_parts spaced keys ih)

/-- What is left after a value is all that stands behind it. -/
theorem skipValue_of_value (value : IsValue text) (blank : Blank blanks) (ends : Ends rest) :
    skipValue (blanks ++ (text ++ rest)) = .ok rest := by
  rw [skipValue, skips_value value [] blanks rest blank ends]
  exact run_done rest

end HexPattern.SkippedValues
