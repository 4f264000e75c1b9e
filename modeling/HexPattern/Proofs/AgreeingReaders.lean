import HexPattern.Proofs.SkippedValues

/-! What is read of a value does not depend on what stands behind it. Two texts that
begin with the same value are read alike: to the same result, with what is behind the
value left in each of them, or to failures of one cause. That is so for the reader of
literals, although it looks ahead behind the first half of a surrogate pair, because it
never looks beyond the closing quote. -/
namespace HexPattern.AgreeingReaders
open Json JsonValues
open StringLiterals

/-- Two readings that come to the same, the one with the first text left and the other
with the second. -/
inductive Agree {α : Type} (rest other : List Char) :
    Except Failure (α × List Char) → Except Failure (α × List Char) → Prop
  | ok (value : α) : Agree rest other (.ok (value, rest)) (.ok (value, other))
  | error {failure also : Failure} (same : failure.cause = also.cause) :
      Agree rest other (.error failure) (.error also)

variable {text rest other body piece digits : List Char} {value : Nat}

theorem agree_map {α β : Type} {first second : Except Failure (α × List Char)}
    (agree : Agree rest other first second) (f : α → β) :
    Agree rest other (first.map fun found => (f found.1, found.2))
      (second.map fun found => (f found.1, found.2)) := by
  cases agree with
  | ok value => exact .ok (f value)
  | error same => exact .error same

/-- Two readings that agree go on alike if what follows them agrees. -/
theorem agree_bind {α β : Type} {left right : List Char} {first second : Except Failure (α × List Char)}
    {next after : α × List Char → Except Failure (β × List Char)} (agree : Agree rest other first second)
    (later : ∀ value, first = .ok (value, rest) → Agree left right (next (value, rest)) (after (value, other))) :
    Agree left right (first >>= next) (second >>= after) := by
  cases agree with
  | ok value => exact later value rfl
  | error same => exact .error same

/-- Both texts are refused in the same way. -/
theorem agree_malformed {α : Type} (malformation : Malformation) (left right : List Char) :
    Agree rest other (malformed malformation left : Except Failure (α × List Char))
      (malformed malformation right) := .error rfl

theorem readLiteral_failed {failure : Failure} (failed : readLetter text = .error failure) :
    readLiteral text = .error failure := by
  rw [readLiteral]
  split
  · rename_i found
    exact congrArg Except.error (Except.error.inj (found.symm.trans failed))
  · rename_i closed
    cases closed.symm.trans failed
  · rename_i taken
    cases taken.symm.trans failed

theorem readLiteral_more {c : Char} (read : readLetter text = .ok (some c, rest)) :
    readLiteral text = (readLiteral rest).map fun found => (c :: found.1, found.2) := by
  cases others : readLiteral rest with
  | error failure =>
    rw [readLiteral]
    split
    · rename_i failed
      cases failed.symm.trans read
    · rename_i closed
      cases closed.symm.trans read
    · rename_i taken
      cases taken.symm.trans read
      rw [others]
      rfl
  | ok found => exact readLiteral_letter read others

/-- A literal from the character on that a code unit begins. -/
def readUnit (value : Nat) (text : List Char) : Except Failure (List Char × List Char) :=
  match completeCodeUnit value text with
  | .error failure => .error failure
  | .ok (c, rest) => (readLiteral rest).map fun found => (c :: found.1, found.2)

theorem readLiteral_unit (unit : CodeUnit digits value) (text : List Char) :
    readLiteral ('\\' :: 'u' :: (digits ++ text)) = readUnit value text := by
  have piece : readPiece ('\\' :: 'u' :: (digits ++ text)) = .ok (.codeUnit value, text) :=
    readPiece_unit unit
  cases completed : completeCodeUnit value text with
  | error failure =>
    have failed : readLetter ('\\' :: 'u' :: (digits ++ text)) = .error failure := by
      rw [readLetter, piece]
      simp only [completed]
      rfl
    rw [readLiteral_failed failed, readUnit, completed]
  | ok found =>
    have read : readLetter ('\\' :: 'u' :: (digits ++ text)) = .ok (some found.1, found.2) := by
      rw [readLetter, piece]
      simp only [completed]
      rfl
    rw [readLiteral_more read, readUnit, completed]

/-- A code unit that begins no pair is read by itself. -/
theorem agree_single (agree : Agree rest other (readLiteral (body ++ '"' :: rest))
      (readLiteral (body ++ '"' :: other))) (noLeading : isLeading value = false) :
    Agree rest other (readUnit value (body ++ '"' :: rest)) (readUnit value (body ++ '"' :: other)) := by
  unfold readUnit completeCodeUnit
  by_cases trailing : isTrailing value = true
  · simp only [if_pos trailing]
    exact agree_malformed ..
  · simp only [if_neg trailing, noLeading, Bool.false_eq_true, if_false]
    exact agree_map agree _

theorem not_trailing_of_leading (leading : isLeading value = true) : ¬ isTrailing value = true := by
  rw [isLeading_iff] at leading
  rw [isTrailing_iff]
  omega

/-- The first half of a pair wants the second half right behind it. -/
theorem readUnit_character (leading : isLeading value = true) {c : Char} (noBackslash : c ≠ '\\')
    (text : List Char) : readUnit value (c :: text) = malformed .brokenSurrogatePair (c :: text) := by
  have broken : completeCodeUnit value (c :: text) = malformed .brokenSurrogatePair (c :: text) := by
    unfold completeCodeUnit
    rw [if_neg (not_trailing_of_leading leading), if_pos leading]
    split
    · rename_i none
      cases none
    · rename_i same
      cases same
      exact absurd rfl noBackslash
    · rename_i same
      cases same
      exact absurd rfl noBackslash
    · rfl
  rw [readUnit, broken]
  rfl

theorem readUnit_escape (leading : isLeading value = true) {mark : Char} (noUnit : mark ≠ 'u')
    (text : List Char) :
    readUnit value ('\\' :: mark :: text) = malformed .brokenSurrogatePair ('\\' :: mark :: text) := by
  have broken : completeCodeUnit value ('\\' :: mark :: text) =
      malformed .brokenSurrogatePair ('\\' :: mark :: text) := by
    unfold completeCodeUnit
    rw [if_neg (not_trailing_of_leading leading), if_pos leading]
    split
    · rename_i none
      cases none
    · rename_i same
      cases same
    · rename_i same
      cases same
      exact absurd rfl noUnit
    · rfl
  rw [readUnit, broken]
  rfl

theorem readUnit_unit (leading : isLeading value = true) {second : Nat} (unit : CodeUnit digits second)
    (text : List Char) : readUnit value ('\\' :: 'u' :: (digits ++ text)) =
      if isTrailing second then
        (readLiteral text).map fun found => (joinSurrogates value second :: found.1, found.2)
      else malformed .loneSurrogate text := by
  have read : readCodeUnit (digits ++ text) = .ok (second, text) :=
    readCodeUnit_iff.mpr ⟨digits, unit, rfl⟩
  rw [readUnit, completeCodeUnit, if_neg (not_trailing_of_leading leading), if_pos leading]
  by_cases trailing : isTrailing second = true
  · simp only [read, if_pos trailing]
  · simp only [read, if_neg trailing]
    rfl

/-- A literal is read alike, and so it is behind the first half of a surrogate pair. -/
structure LiteralsAgree (body rest other : List Char) : Prop where
  whole : Agree rest other (readLiteral (body ++ '"' :: rest)) (readLiteral (body ++ '"' :: other))
  behindHalf {value : Nat} (leading : isLeading value = true) : Agree rest other
    (readUnit value (body ++ '"' :: rest)) (readUnit value (body ++ '"' :: other))

theorem literalsAgree_nil (rest other : List Char) : LiteralsAgree [] rest other where
  whole := by
    have closed : ∀ text, readLiteral ('"' :: text) = .ok ([], text) := fun text =>
      readLiteral_of_body .nil
    rw [List.nil_append, List.nil_append, closed, closed]
    exact .ok []
  behindHalf leading := by
    rw [List.nil_append, List.nil_append, readUnit_character leading (by decide),
      readUnit_character leading (by decide)]
    exact agree_malformed ..

/-- A piece that is a character of its own cannot be the second half of a pair. -/
theorem literalsAgree_letter {c : Char} (agree : LiteralsAgree body rest other)
    (read : ∀ text, readLetter (piece ++ text) = .ok (some c, text))
    (broken : ∀ {value : Nat}, isLeading value = true → ∀ text,
      readUnit value (piece ++ text) = malformed .brokenSurrogatePair (piece ++ text)) :
    LiteralsAgree (piece ++ body) rest other where
  whole := by
    rw [List.append_assoc, List.append_assoc, readLiteral_more (read _), readLiteral_more (read _)]
    exact agree_map agree.whole _
  behindHalf leading := by
    rw [List.append_assoc, List.append_assoc, broken leading, broken leading]
    exact agree_malformed ..

theorem literalsAgree_unit (agree : LiteralsAgree body rest other) (unit : CodeUnit digits value) :
    LiteralsAgree ('\\' :: 'u' :: digits ++ body) rest other where
  whole := by
    rw [List.append_assoc, List.append_assoc, List.cons_append, List.cons_append, List.cons_append,
      List.cons_append, readLiteral_unit unit, readLiteral_unit unit]
    cases leading : isLeading value with
    | true => exact agree.behindHalf leading
    | false => exact agree_single agree.whole leading
  behindHalf leading := by
    rw [List.append_assoc, List.append_assoc, List.cons_append, List.cons_append, List.cons_append,
      List.cons_append, readUnit_unit leading unit, readUnit_unit leading unit]
    by_cases trailing : isTrailing value = true
    · rw [if_pos trailing, if_pos trailing]
      exact agree_map agree.whole _
    · rw [if_neg trailing, if_neg trailing]
      exact agree_malformed ..

/-- Every literal is read alike, piece by piece. -/
theorem agree_literal (isBody : IsBody body) (rest other : List Char) :
    LiteralsAgree body rest other := by
  induction isBody with
  | nil => exact literalsAgree_nil rest other
  | cons first others ih =>
    cases first with
    | plain noQuote noBackslash noControl =>
      apply literalsAgree_letter ih
      · exact fun text => readLetter_of_spelling (.plain noQuote noBackslash noControl)
      · exact fun leading => readUnit_character leading noBackslash
    | @short mark c known =>
      have noUnit : mark ≠ 'u' := by
        rintro rfl
        simp [shortEscapes] at known
      apply literalsAgree_letter ih
      · exact fun text => readLetter_short known
      · exact fun leading => readUnit_escape leading noUnit
    | unit unit => exact literalsAgree_unit ih unit

/-- How the beginning of one value comes out in two texts. Of a list or an object only
the bracket is read. -/
inductive HeadsAgree (rest other : List Char) :
    Except Failure (Head × List Char) → Except Failure (Head × List Char) → Prop
  | whole {first second} (agree : Agree rest other first second) : HeadsAgree rest other first second
  | list (left right : List Char) : HeadsAgree rest other (.ok (.list, left)) (.ok (.list, right))
  | object (left right : List Char) : HeadsAgree rest other (.ok (.object, left)) (.ok (.object, right))

theorem readHeadHere_number {c : Char} (first : c = '-' ∨ c.isDigit = true) (rest : List Char) :
    readHeadHere (c :: rest) = (readNumber (c :: rest)).map fun found => (.number found.1, found.2) := by
  have apart (other : Char) : other ≠ '-' → other.isDigit = false → c ≠ other :=
    other_of_number first
  simp [readHeadHere, apart, first]

theorem readNumber_denoted {numeral : Numeral} {number : Number} (written : Written text numeral)
    (ends : Ends rest) (denoted : numeral.number? = some number) :
    readNumber (text ++ rest) = .ok (number, rest) := by
  simp only [readNumber, readNumeral_of_written written ends, denoted]

theorem readNumber_large {numeral : Numeral} (written : Written text numeral) (ends : Ends rest)
    (large : numeral.number? = none) :
    readNumber (text ++ rest) = .error ⟨.malformed .numberOutOfRange, rest⟩ := by
  simp only [readNumber, readNumeral_of_written written ends, large]

theorem agree_number {numeral : Numeral} (written : Written text numeral) (ends : Ends rest)
    (endsToo : Ends other) : Agree rest other (readNumber (text ++ rest)) (readNumber (text ++ other)) := by
  cases denoted : numeral.number? with
  | none =>
    rw [readNumber_large written ends denoted, readNumber_large written endsToo denoted]
    exact .error rfl
  | some number =>
    rw [readNumber_denoted written ends denoted, readNumber_denoted written endsToo denoted]
    exact .ok number

/-- The beginning of a value is read alike. -/
theorem heads_agree (value : IsValue text) (ends : Ends rest) (endsToo : Ends other) :
    HeadsAgree rest other (readHeadHere (text ++ rest)) (readHeadHere (text ++ other)) := by
  cases value with
  | null => exact .whole (.ok Head.null)
  | true => exact .whole (.ok (Head.boolean true))
  | false => exact .whole (.ok (Head.boolean false))
  | list => exact .list _ _
  | object => exact .object _ _
  | @string body literal =>
    have read : ∀ rest, readHeadHere ('"' :: (body ++ ['"']) ++ rest) =
        (readLiteral (body ++ '"' :: rest)).map fun found => (.string found.1, found.2) := by
      intro rest
      rw [List.cons_append, List.append_assoc]
      rfl
    rw [read, read]
    exact .whole (agree_map (agree_literal literal rest other).whole _)
  | number written =>
    have agree := agree_number written ends endsToo
    obtain ⟨c, more, rfl, first⟩ := head_of_written written
    rw [List.cons_append, List.cons_append, readHeadHere_number first, readHeadHere_number first]
    exact .whole (agree_map agree _)

/-- The beginning of a value behind blanks. -/
theorem readHead_of_value {blanks : List Char} (value : IsValue text) (blank : Blank blanks)
    (rest : List Char) : readHead (blanks ++ (text ++ rest)) = readHeadHere (text ++ rest) := by
  obtain ⟨c, more, rfl, shown, -⟩ := head_of_value value
  rw [readHead, List.cons_append, skipBlanks_to blank _ shown]

theorem readHead_number {numeral : Numeral} {blanks : List Char} (written : Written text numeral)
    (blank : Blank blanks) (rest : List Char) : readHead (blanks ++ (text ++ rest)) =
      (readNumber (text ++ rest)).map fun found => (.number found.1, found.2) := by
  rw [readHead_of_value (.number written) blank]
  obtain ⟨c, digits, rfl, first⟩ := head_of_written written
  rw [List.cons_append, readHeadHere_number first]

section

variable {first second : List Char}

theorem agree_byte (heads : HeadsAgree rest other (readHead first) (readHead second)) :
    Agree rest other (readByte first) (readByte second) := by
  unfold readByte
  generalize readHead first = one, readHead second = two at heads
  cases heads with
  | list => exact .error rfl
  | object => exact .error rfl
  | whole agree =>
    cases agree with
    | error same => exact .error same
    | ok head =>
      cases head with
      | number number =>
        cases number with
        | float => exact .error rfl
        | integer value =>
          dsimp only
          split
          · exact .ok _
          · exact .error rfl
      | null | boolean | string | list | object => exact .error rfl

theorem agree_boolean (heads : HeadsAgree rest other (readHead first) (readHead second)) :
    Agree rest other (readBoolean first) (readBoolean second) := by
  unfold readBoolean
  generalize readHead first = one, readHead second = two at heads
  cases heads with
  | list => exact .error rfl
  | object => exact .error rfl
  | whole agree =>
    cases agree with
    | error same => exact .error same
    | ok head =>
      cases head with
      | boolean value => exact .ok value
      | null | number | string | list | object => exact .error rfl

end

end HexPattern.AgreeingReaders
