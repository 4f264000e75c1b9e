import HexPattern.Proofs.RunReading
import Mathlib.Data.List.Forall2

/-! Spellings of a text that the reader does not tell apart. Letters may change their
case and blanks may be other blanks: the reader then goes through the same steps,
and what it refuses is the same character at the same place. How many blanks there
are between two runs makes no difference to the cells, as long as there are some,
nor do blanks at either end. -/
namespace HexPattern.TextSpellings
open Text (isBlank)
open ReaderSemantics RunReading

/-- Characters between which the reader makes no difference: a character and itself,
a hex digit in either case, and any two blanks. -/
inductive Alike : Char → Char → Prop
  | same (c : Char) : Alike c c
  | digits {c d : Char} (here : IsHexDigit c) (there : IsHexDigit d)
      (letter : c.toLower = d.toLower) : Alike c d
  | blanks {c d : Char} (here : isBlank c = true) (there : isBlank d = true) : Alike c d

/-- Blanks and nothing else. -/
def AllBlank (text : String) : Prop := ∀ c ∈ text.toList, isBlank c = true

variable {c d : Char} {left right text other front back blanks : List Char}
  {others : List Char} {pending : Option Nibble} {position : Nat} {pattern : Pattern}

theorem dark_of_digit (digit : IsHexDigit c) : isBlank c = false := by
  have ranges := isHexDigit_iff.mp digit
  simp only [isBlank, Bool.or_eq_false_iff, Bool.and_eq_false_iff, decide_eq_false_iff_not, beq_eq_false_iff_ne]
  omega

/-- Small letters are the digits that capital ones are. -/
theorem digit_toLower (digit : IsHexDigit c) : Hex.digit? c.toLower = Hex.digit? c := by
  have ranges := isHexDigit_iff.mp digit
  by_cases capital : 65 ≤ c.toNat ∧ c.toNat ≤ 90
  · have lowered : c.toLower.toNat = c.toNat + 32 := by
      have moved : c.toLower.val = c.val + 32 := congrArg Char.val (dif_pos capital)
      change c.toLower.val.toNat = c.val.toNat + 32
      rw [moved, UInt32.toNat_add]
      exact Nat.mod_eq_of_lt (Nat.lt_of_le_of_lt (Nat.add_le_add_right capital.2 32) (by decide))
    have small : c.toNat + 32 - 87 = c.toNat - 55 := by omega
    rw [Hex.digit?, Hex.digit?, lowered, small]
    rw [if_neg (by omega), if_neg (by omega), if_pos (by omega), if_neg (by omega),
      if_pos (by omega)]
  · have kept : c.toLower = c := dif_neg capital
    rw [kept]

theorem alike_blank (alike : Alike c d) : isBlank c = isBlank d := by
  cases alike with
  | same => rfl
  | digits here there _ => rw [dark_of_digit here, dark_of_digit there]
  | blanks here there => rw [here, there]

/-- What is read of a character, other than a blank, is read of one like it. -/
theorem alike_nibble (alike : Alike c d) (dark : isBlank c = false) : nibbleOf c = nibbleOf d := by
  cases alike with
  | same => rfl
  | digits here there letter =>
    rw [nibbleOf, nibbleOf, ← digit_toLower here, ← digit_toLower there, letter]
  | blanks here _ =>
    rw [dark] at here
    cases here

theorem alike_legible (alike : Alike c d) (legible : Legible c) : Legible d := by
  cases alike with
  | same => exact legible
  | digits _ there _ => exact .inl there
  | blanks _ there => exact .inr (.inr there)

/-- An illegible character is like no other. -/
theorem eq_of_alike_illegible (alike : Alike c d) (illegible : ¬ Legible c) : c = d := by
  cases alike with
  | same => rfl
  | digits here _ _ => exact absurd (.inl here) illegible
  | blanks here _ => exact absurd (.inr (.inr here)) illegible

/-- Characters that are alike do the same to what is pending. -/
theorem alike_step (pending : Option Nibble) (alike : Alike c d) :
    completed pending c = completed pending d ∧ pendingAfter pending c = pendingAfter pending d := by
  have blank := alike_blank alike
  cases here : isBlank c with
  | true => simp [completed, pendingAfter, ← blank, here]
  | false => simp [completed, pendingAfter, ← blank, here, alike_nibble alike here]

/-- The two readings go on side by side: up to an illegible character they hold the
same half of a cell at the same place, and there they end alike. -/
theorem resume_alike (alike : List.Forall₂ Alike left right) :
    resume pending ⟨position, left⟩ = resume pending ⟨position, right⟩ := by
  induction alike generalizing pending position with
  | nil => rfl
  | @cons c d left right head tail ih =>
    by_cases legible : Legible c
    · obtain ⟨sameCells, samePending⟩ := alike_step pending head
      rw [resume_legible legible, resume_legible (alike_legible head legible), sameCells,
        samePending, ih]
    · obtain rfl := eq_of_alike_illegible head legible
      rw [resume_illegible legible, resume_illegible legible]

theorem ofChars_alike (alike : List.Forall₂ Alike left right) :
    Pattern.ofChars left = Pattern.ofChars right := by
  have readings : resume none ⟨0, left⟩ = resume none ⟨0, right⟩ := resume_alike alike
  exact congrArg Reading.result readings

theorem runs_of_blanks (blank : ∀ c ∈ blanks, isBlank c = true) :
    runs (blanks ++ back) = runs back := by
  induction blanks with
  | nil => rfl
  | cons c rest ih =>
    obtain ⟨here, later⟩ := List.forall_mem_cons.mp blank
    have parted : runs ([] ++ c :: (rest ++ back)) = runs [] ++ runs (rest ++ back) :=
      runs_append_blank here
    exact parted.trans (ih later)

/-- Any blanks part the runs on their two sides. -/
theorem runs_around_blanks (blank : ∀ c ∈ blanks, isBlank c = true) (nonempty : blanks ≠ []) :
    runs (front ++ blanks ++ back) = runs front ++ runs back := by
  obtain ⟨c, rest, rfl⟩ := List.exists_cons_of_ne_nil nonempty
  obtain ⟨here, later⟩ := List.forall_mem_cons.mp blank
  rw [List.append_assoc, List.cons_append, runs_append_blank here, runs_of_blanks later]

theorem runs_before_blanks (blank : ∀ c ∈ blanks, isBlank c = true) :
    runs (front ++ blanks) = runs front := by
  by_cases empty : blanks = []
  · rw [empty, List.append_nil]
  · have parted : runs (front ++ blanks ++ []) = runs front ++ runs [] :=
      runs_around_blanks blank empty
    simpa [runs] using parted

/-- Only the runs of a text count, as long as nothing but blanks is new in it. -/
theorem accepted_of_same_runs (accepted : Pattern.ofChars text = .ok pattern)
    (known : ∀ c ∈ other, c ∈ text ∨ isBlank c = true) (same : runs other = runs text) :
    Pattern.ofChars other = .ok pattern := by
  have legible := legible_of_accepted accepted
  have legibleToo : ∀ c ∈ other, Legible c := by
    intro c member
    rcases known c member with inText | blank
    · exact legible c inText
    · exact .inr (.inr blank)
  rw [ofChars_eq_runs legibleToo, same, ← ofChars_eq_runs legible, accepted]

theorem accepted_with_other_blanks (blank : ∀ c ∈ blanks, isBlank c = true) (nonempty : blanks ≠ [])
    (blankToo : ∀ c ∈ others, isBlank c = true) (nonemptyToo : others ≠ [])
    (accepted : Pattern.ofChars (front ++ blanks ++ back) = .ok pattern) :
    Pattern.ofChars (front ++ others ++ back) = .ok pattern := by
  refine accepted_of_same_runs accepted (fun c member => ?_) ?_
  · simp only [List.mem_append] at member ⊢
    rcases member with (inFront | new) | inBack
    · exact .inl (.inl (.inl inFront))
    · exact .inr (blankToo c new)
    · exact .inl (.inr inBack)
  · rw [runs_around_blanks blankToo nonemptyToo, runs_around_blanks blank nonempty]

theorem accepted_behind_blanks_iff (blank : ∀ c ∈ blanks, isBlank c = true) :
    Pattern.ofChars (blanks ++ text) = .ok pattern ↔ Pattern.ofChars text = .ok pattern := by
  have same : runs (blanks ++ text) = runs text := runs_of_blanks blank
  constructor
  · intro accepted
    exact accepted_of_same_runs accepted (fun c member => .inl (List.mem_append_right _ member))
      same.symm
  · intro accepted
    refine accepted_of_same_runs accepted (fun c member => ?_) same
    exact (List.mem_append.mp member).symm.imp_right (blank c)

theorem accepted_before_blanks_iff (blank : ∀ c ∈ blanks, isBlank c = true) :
    Pattern.ofChars (text ++ blanks) = .ok pattern ↔ Pattern.ofChars text = .ok pattern := by
  have same : runs (text ++ blanks) = runs text := runs_before_blanks blank
  constructor
  · intro accepted
    exact accepted_of_same_runs accepted (fun c member => .inl (List.mem_append_left _ member))
      same.symm
  · intro accepted
    refine accepted_of_same_runs accepted (fun c member => ?_) same
    exact (List.mem_append.mp member).imp_right (blank c)

/-- Texts that are alike character by character are read in the same way: they have
the same pattern, or the same illegible character comes first and at the same place.
An accepted text keeps its pattern if a stretch of blanks is replaced by any other
blanks, and with blanks put in front of it or behind it or taken away there. -/
theorem spelling_makes_no_difference :
    (∀ left right : String, List.Forall₂ Alike left.toList right.toList →
      Pattern.ofText left = Pattern.ofText right) ∧
    (∀ (front blanks others back : String) (pattern : Pattern),
      AllBlank blanks → blanks ≠ "" → AllBlank others → others ≠ "" →
        Pattern.ofText (front ++ blanks ++ back) = .ok pattern →
          Pattern.ofText (front ++ others ++ back) = .ok pattern) ∧
    ∀ (text blanks : String) (pattern : Pattern), AllBlank blanks →
      (Pattern.ofText (blanks ++ text) = .ok pattern ↔ Pattern.ofText text = .ok pattern) ∧
      (Pattern.ofText (text ++ blanks) = .ok pattern ↔ Pattern.ofText text = .ok pattern) := by
  simp only [Pattern.ofText, String.toList_append]
  refine ⟨?_, ?_, ?_⟩
  · intro left right alike
    exact ofChars_alike alike
  · intro front blanks others back pattern blank nonempty blankToo nonemptyToo accepted
    exact accepted_with_other_blanks blank (by simpa using nonempty) blankToo
      (by simpa using nonemptyToo) accepted
  · intro text blanks pattern blank
    exact ⟨accepted_behind_blanks_iff blank, accepted_before_blanks_iff blank⟩

example : Pattern.ofText "a\u2003?\t0é" = Pattern.ofText "A ?\u30000é" := by
  cbv

end HexPattern.TextSpellings
