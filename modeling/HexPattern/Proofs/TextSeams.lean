import HexPattern.Proofs.RunReading
import Mathlib.Algebra.Group.Nat.Even

/-! Reading a text that is put together from two. What is wrong with the text in
front is found before the text behind is looked at. Where the text in front
stops between two cells, the text behind is read as if it stood alone, but for
the places of its characters. Elsewhere the seam goes through a cell, and that
cell is the only one that the text behind can change. -/
namespace HexPattern.TextSeams
open Text (isBlank)
open ReaderSemantics RunReading

/-- The texts that end where a cell ends: they have no characters, or a blank for
the last one, or as many in their last run as whole cells take. -/
inductive StopsBetweenCells : List Char → Prop
  | nothing : StopsBetweenCells []
  | blank {front : List Char} {c : Char} (blank : isBlank c = true) :
      StopsBetweenCells (front ++ [c])
  | run {text run : List Char} (last : (runs text).getLast? = some run) (even : Even run.length) :
      StopsBetweenCells text

variable {pending : Option Nibble} {text front back blanks stretch run : List Char} {c : Char}

/-- A blank settles what is in front of it. -/
theorem pendingBy_from_blank (blank : isBlank c = true) :
    pendingBy pending (front ++ c :: back) = pendingBy none back := by
  rw [pendingBy_append]
  simp [pendingBy, pendingAfter, blank]

/-- Characters without blanks fill whole cells if their number is even. -/
theorem pendingBy_even (dark : ∀ c ∈ text, isBlank c = false) (even : Even text.length) :
    pendingBy none text = none := by
  induction text using pairCells.induct with
  | case1 => rfl
  | case2 last => simp at even
  | case3 high low rest ih =>
    obtain ⟨highDark, lowDark, restDark⟩ :
        isBlank high = false ∧ isBlank low = false ∧ ∀ c ∈ rest, isBlank c = false := by
      simpa using dark
    have fewer : Even rest.length := by
      simpa [Nat.even_add_one] using even
    have filled : pendingBy none (high :: low :: rest) = pendingBy none rest := by
      simp [pendingBy, pendingAfter, highDark, lowDark]
    rw [filled, ih restDark fewer]

/-- A text has no blanks, or a last one. -/
theorem last_blank_splits (text : List Char) : (∀ c ∈ text, isBlank c = false) ∨
    ∃ front c stretch, text = front ++ c :: stretch ∧ isBlank c = true ∧
      ∀ d ∈ stretch, isBlank d = false := by
  induction text with
  | nil => exact .inl (by simp)
  | cons c rest ih =>
    rcases ih with dark | ⟨front, d, stretch, rfl, blank, dark⟩
    · cases blank : isBlank c with
      | true => exact .inr ⟨[], c, rest, rfl, blank, dark⟩
      | false => exact .inl (List.forall_mem_cons.mpr ⟨blank, dark⟩)
    · exact .inr ⟨c :: front, d, stretch, rfl, blank, dark⟩

/-- The last run of a text is what follows its last blank, if anything does. -/
private theorem pendingBy_of_last_run (dark : ∀ c ∈ stretch, isBlank c = false)
    (others : List (List Char)) (last : (others ++ runs stretch).getLast? = some run)
    (even : Even run.length) : pendingBy none stretch = none := by
  by_cases empty : stretch = []
  · rw [empty]
    rfl
  · rw [runs_of_dark dark empty, List.getLast?_concat, Option.some_inj] at last
    rw [← last] at even
    exact pendingBy_even dark even

/-- Where a text stops between two cells, nothing is left of a cell. -/
theorem pendingBy_of_stops (stops : StopsBetweenCells text) : pendingBy none text = none := by
  cases stops with
  | nothing => rfl
  | blank blank => exact pendingBy_from_blank blank
  | run last even =>
    rcases last_blank_splits text with dark | ⟨front, c, stretch, rfl, blank, dark⟩
    · exact pendingBy_of_last_run dark [] last even
    · rw [pendingBy_from_blank blank]
      rw [runs_append_blank blank] at last
      exact pendingBy_of_last_run dark _ last even

variable {pattern more whole : Pattern} {fault : Fault} {position : Nat} {found : Char}

theorem firstIllegible_append_left (first : FirstIllegible front position found) :
    FirstIllegible (front ++ back) position found := by
  obtain ⟨inside, -⟩ := List.getElem?_eq_some_iff.mp first.here
  exact first_illegible_of_same_front first (List.take_append_of_le_length inside)

/-- Legible characters in front move the first illegible one by their number. -/
theorem firstIllegible_append_right (legible : ∀ c ∈ front, Legible c)
    (first : FirstIllegible back position found) :
    FirstIllegible (front ++ back) (front.length + position) found := by
  refine ⟨?_, first.illegible, ?_⟩
  · rw [List.getElem?_append_right (Nat.le_add_right ..), Nat.add_sub_cancel_left]
    exact first.here
  · rw [List.take_length_add_append, List.forall_mem_append]
    exact ⟨legible, first.legibleBefore⟩

theorem ofChars_append_refused (refused : Pattern.ofChars front = .error fault) :
    Pattern.ofChars (front ++ back) = .error fault := by
  obtain ⟨position, found, first, rfl⟩ := firstIllegible_of_refused refused
  exact ofChars_first_illegible (firstIllegible_append_left first)

theorem ofChars_append_closed (accepted : Pattern.ofChars front = .ok pattern)
    (closed : pendingBy none front = none) (acceptedToo : Pattern.ofChars back = .ok more) :
    Pattern.ofChars (front ++ back) = .ok (pattern ++ more) := by
  have legible : ∀ c ∈ front ++ back, Legible c :=
    List.forall_mem_append.mpr ⟨legible_of_accepted accepted, legible_of_accepted acceptedToo⟩
  rw [ofChars_legible legible, completedBy_append, pendingBy_append, closed,
    eq_of_accepted accepted, eq_of_accepted acceptedToo, closed, List.append_assoc, halfCell,
    List.append_nil]
  rfl

theorem ofChars_append_refusedBehind (accepted : Pattern.ofChars front = .ok pattern)
    (refused : Pattern.ofChars back = .error fault) :
    ∃ position found, fault = .unexpectedCharacter position found ∧
      Pattern.ofChars (front ++ back) =
        .error (.unexpectedCharacter (front.length + position) found) := by
  obtain ⟨position, found, first, rfl⟩ := firstIllegible_of_refused refused
  have later := firstIllegible_append_right (legible_of_accepted accepted) first
  exact ⟨position, found, rfl, ofChars_first_illegible later⟩

/-- Blanks end the cell that is pending and bring no other. -/
theorem cells_of_blanks (pending : Option Nibble) (blank : ∀ c ∈ blanks, isBlank c = true) :
    completedBy pending blanks ++ halfCell (pendingBy pending blanks) = halfCell pending := by
  induction blanks generalizing pending with
  | nil => rfl
  | cons c rest ih =>
    obtain ⟨here, later⟩ := List.forall_mem_cons.mp blank
    have settled : completed pending c = halfCell pending ∧ pendingAfter pending c = none := by
      simp [completed, pendingAfter, here]
    have ended : pendingBy pending (c :: rest) = pendingBy none rest := by
      rw [pendingBy, List.foldl_cons, settled.2, pendingBy]
    rw [completedBy, ended, settled.1, settled.2, List.append_assoc, ih none later, halfCell,
      List.append_nil]

theorem ofChars_append_blanks (accepted : Pattern.ofChars text = .ok pattern)
    (blank : ∀ c ∈ blanks, isBlank c = true) : Pattern.ofChars (text ++ blanks) = .ok pattern := by
  have legible : ∀ c ∈ text ++ blanks, Legible c :=
    List.forall_mem_append.mpr
      ⟨legible_of_accepted accepted, fun c member => .inr (.inr (blank c member))⟩
  rw [ofChars_legible legible, completedBy_append, pendingBy_append, List.append_assoc,
    cells_of_blanks _ blank, ← eq_of_accepted accepted]

theorem stops_of_blanks (blank : ∀ c ∈ blanks, isBlank c = true) (nonempty : blanks ≠ []) :
    StopsBetweenCells (text ++ blanks) := by
  rw [← List.dropLast_concat_getLast nonempty, ← List.append_assoc]
  exact .blank (blank _ (List.getLast_mem nonempty))

/-- The cells that a text completes stay, whatever follows it. Its last cell may
be half of one. -/
theorem dropLast_prefix_of_append (accepted : Pattern.ofChars front = .ok pattern)
    (acceptedToo : Pattern.ofChars (front ++ back) = .ok whole) :
    pattern.cells.dropLast <+: whole.cells := by
  have kept : completedBy none front <+: whole.cells := by
    rw [eq_of_accepted acceptedToo, Pattern.cells_ofCells, completedBy_append, List.append_assoc]
    exact List.prefix_append _ _
  have cells : pattern.cells = completedBy none front ++ halfCell (pendingBy none front) := by
    rw [eq_of_accepted accepted, Pattern.cells_ofCells]
  refine List.IsPrefix.trans ?_ kept
  rw [cells]
  cases pendingBy none front with
  | none =>
    rw [halfCell, List.append_nil]
    exact List.dropLast_prefix _
  | some high => simp [halfCell]

/-- Reading goes on over a seam. A fault in front stays. Behind a text that stops
between two cells there are the cells of the other text, or its fault, moved by
the characters in front. Blanks at the end change nothing, and anything may
follow them. Wherever else the seam is, all cells but the last one in front of
it stay. -/
theorem reading_goes_on_over_seams (front back : String) :
    (∀ fault, Pattern.ofText front = .error fault →
      Pattern.ofText (front ++ back) = .error fault) ∧
    (∀ pattern, Pattern.ofText front = .ok pattern → StopsBetweenCells front.toList →
      (∀ more, Pattern.ofText back = .ok more →
        Pattern.ofText (front ++ back) = .ok (pattern ++ more)) ∧
      ∀ fault, Pattern.ofText back = .error fault → ∃ position found,
        fault = .unexpectedCharacter position found ∧
          Pattern.ofText (front ++ back) =
            .error (.unexpectedCharacter (front.length + position) found)) ∧
    (∀ pattern (blanks : String), Pattern.ofText front = .ok pattern →
      (∀ c ∈ blanks.toList, isBlank c = true) → blanks ≠ "" →
        Pattern.ofText (front ++ blanks) = .ok pattern ∧
        ∀ more, Pattern.ofText back = .ok more →
          Pattern.ofText (front ++ blanks ++ back) = .ok (pattern ++ more)) ∧
    ∀ pattern whole, Pattern.ofText front = .ok pattern →
      Pattern.ofText (front ++ back) = .ok whole → pattern.cells.dropLast <+: whole.cells := by
  simp only [Pattern.ofText, String.toList_append, ← String.length_toList]
  refine ⟨?_, ?_, ?_, ?_⟩
  · intro fault refused
    exact ofChars_append_refused refused
  · intro pattern accepted stops
    exact ⟨fun more => ofChars_append_closed accepted (pendingBy_of_stops stops),
      fun fault => ofChars_append_refusedBehind accepted⟩
  · intro pattern blanks accepted blank nonempty
    have behind := ofChars_append_blanks accepted blank
    have stops : StopsBetweenCells (front.toList ++ blanks.toList) :=
      stops_of_blanks blank (by simpa using nonempty)
    exact ⟨behind, fun more => ofChars_append_closed behind (pendingBy_of_stops stops)⟩
  · intro pattern whole accepted acceptedToo
    exact dropLast_prefix_of_append accepted acceptedToo

example : Pattern.ofText ("A5 ?" ++ "B\u2003C") = .ok (.ofCells
    [⟨.fixed 10, .fixed 5⟩, ⟨.any, .fixed 11⟩, ⟨.fixed 12, .any⟩]) := by
  cbv

end HexPattern.TextSeams
