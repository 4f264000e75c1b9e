import HexPattern.Proofs.StringLiterals
import Mathlib.Tactic.IntervalCases

/-! The values of JSON, as the grammar has them, without a reader: words, numbers,
literals, lists and objects, nested as deep as one likes. A number ends where it
cannot go on, so it is read in full whatever follows, unless that would go on with
it; everything else ends with a character of its own. -/
namespace HexPattern.JsonValues
open Json hiding digitValue
open StringLiterals (CodeUnit Body Spelling shortEscapes skipBlanks_behind)

/-- Nothing but blanks. -/
def Blank (text : List Char) : Prop := ∀ c ∈ text, isBlank c = true

/-- At least one decimal digit, and nothing else. -/
def Digits (text : List Char) : Prop := text ≠ [] ∧ ∀ c ∈ text, c.isDigit = true

/-- The digits in front of the point, without a needless zero. -/
def Whole (text : List Char) : Prop := Digits text ∧ (text.head? = some '0' → text = ['0'])

/-- A fraction, which need not be there. -/
inductive Fraction : List Char → Option (List Char) → Prop
  | absent : Fraction [] none
  | given {digits} (filled : Digits digits) : Fraction ('.' :: digits) (some digits)

/-- The sign of an exponent, and whether it is negative. -/
inductive Sign : List Char → Bool → Prop
  | absent : Sign [] false
  | plus : Sign ['+'] false
  | minus : Sign ['-'] true

/-- An exponent, which need not be there. -/
inductive Exponent : List Char → Option (Bool × List Char) → Prop
  | absent : Exponent [] none
  | given {mark sign negative digits} (isMark : mark = 'e' ∨ mark = 'E') (signed : Sign sign negative)
      (filled : Digits digits) : Exponent (mark :: (sign ++ digits)) (some (negative, digits))

/-- How a number is written. -/
inductive Written : List Char → Numeral → Prop
  | positive {whole fraction exponent fraction? exponent?} (first : Whole whole)
      (second : Fraction fraction fraction?) (third : Exponent exponent exponent?) :
      Written (whole ++ (fraction ++ exponent)) ⟨false, whole, fraction?, exponent?⟩
  | negative {whole fraction exponent fraction? exponent?} (first : Whole whole)
      (second : Fraction fraction fraction?) (third : Exponent exponent exponent?) :
      Written ('-' :: (whole ++ (fraction ++ exponent))) ⟨true, whole, fraction?, exponent?⟩

/-- The pieces of a literal. Any code unit is one, whether or not it makes a character. -/
inductive IsPiece : List Char → Prop
  | plain {c : Char} (noQuote : c ≠ '"') (noBackslash : c ≠ '\\') (noControl : 0x20 ≤ c.toNat) :
      IsPiece [c]
  | short {mark c : Char} (known : (mark, c) ∈ shortEscapes) : IsPiece ['\\', mark]
  | unit {digits : List Char} {value : Nat} (unit : CodeUnit digits value) :
      IsPiece ('\\' :: 'u' :: digits)

/-- What stands between the quotes of a literal. -/
inductive IsBody : List Char → Prop
  | nil : IsBody []
  | cons {piece body : List Char} (first : IsPiece piece) (others : IsBody body) :
      IsBody (piece ++ body)

/-- A part of a list, with what stands around its text. -/
structure Element where
  front : List Char
  text : List Char
  back : List Char

/-- The characters of an element. -/
def Element.chars (element : Element) : List Char := element.front ++ (element.text ++ element.back)

/-- There is nothing but blanks around the text. -/
def Element.Spaced (element : Element) : Prop := Blank element.front ∧ Blank element.back

/-- A part of an object: a key as it is spelled, and an element. -/
structure Part where
  front : List Char
  body : List Char
  back : List Char
  element : Element

/-- The characters of a part. -/
def Part.chars (part : Part) : List Char :=
  part.front ++ '"' :: (part.body ++ '"' :: (part.back ++ ':' :: part.element.chars))

/-- There is nothing but blanks around the key and the value. -/
def Part.Spaced (part : Part) : Prop :=
  Blank part.front ∧ Blank part.back ∧ part.element.Spaced

/-- Parts behind their commas. -/
def behindCommas (parts : List (List Char)) : List Char := parts.flatMap (',' :: ·)

/-- Parts with commas between them. -/
def joined : List (List Char) → List Char
  | [] => []
  | first :: others => first ++ behindCommas others

/-- The values of JSON. -/
inductive IsValue : List Char → Prop
  | null : IsValue ['n', 'u', 'l', 'l']
  | true : IsValue ['t', 'r', 'u', 'e']
  | false : IsValue ['f', 'a', 'l', 's', 'e']
  | number {text numeral} (written : Written text numeral) : IsValue text
  | string {body} (literal : IsBody body) : IsValue ('"' :: (body ++ ['"']))
  | list {blanks} {elements : List Element} (blank : Blank blanks)
      (spaced : ∀ element ∈ elements, element.Spaced)
      (values : ∀ element ∈ elements, IsValue element.text) :
      IsValue ('[' :: (blanks ++ (joined (elements.map Element.chars) ++ [']'])))
  | object {blanks} {parts : List Part} (blank : Blank blanks)
      (spaced : ∀ part ∈ parts, part.Spaced) (keys : ∀ part ∈ parts, IsBody part.body)
      (values : ∀ part ∈ parts, IsValue part.element.text) :
      IsValue ('\x7b' :: (blanks ++ (joined (parts.map Part.chars) ++ ['\x7d'])))

/-- A text that no number goes on with. -/
def Ends (rest : List Char) : Prop :=
  ∀ c ∈ rest.head?, c.isDigit = false ∧ c ≠ '.' ∧ c ≠ 'e' ∧ c ≠ 'E'

variable {text rest digits body blanks : List Char} {numeral : Numeral} {c : Char}

theorem behindCommas_cons (first : List Char) (others : List (List Char)) (rest : List Char) :
    behindCommas (first :: others) ++ rest = ',' :: (first ++ (behindCommas others ++ rest)) := by
  simp [behindCommas]

theorem Element.chars_append (element : Element) (rest : List Char) :
    element.chars ++ rest = element.front ++ (element.text ++ (element.back ++ rest)) := by
  simp [Element.chars]

theorem Part.chars_append (part : Part) (rest : List Char) :
    part.chars ++ rest =
      part.front ++ '"' :: (part.body ++ '"' :: (part.back ++ ':' :: (part.element.chars ++ rest))) := by
  simp [Part.chars]

theorem ends_cons (rest : List Char) (other : c.isDigit = false ∧ c ≠ '.' ∧ c ≠ 'e' ∧ c ≠ 'E') :
    Ends (c :: rest) := by
  rintro _ ⟨⟩
  exact other

theorem blank_nil : Blank [] := List.forall_mem_nil _

theorem blank_space : Blank [' '] := by simp [Blank, isBlank]

theorem blank_cases (blank : isBlank c = true) : c = ' ' ∨ c = '\n' ∨ c = '\t' ∨ c = '\r' := by
  simpa [isBlank, or_assoc] using blank

/-- The literals that spell a text are among all literals. -/
theorem isBody_of_body (spelled : Body body text) : IsBody body := by
  induction spelled with
  | nil => exact .nil
  | cons first others ih =>
    cases first with
    | plain noQuote noBackslash noControl => exact .cons (.plain noQuote noBackslash noControl) ih
    | short known => exact .cons (.short known) ih
    | unit unit => exact .cons (.unit unit) ih
    | pair large leading trailing =>
      rw [List.append_assoc]
      exact .cons (.unit leading) (.cons (.unit trailing) ih)

/-- Blanks end a number if what is behind them does. -/
theorem ends_blanks (blank : Blank blanks) (ends : Ends rest) : Ends (blanks ++ rest) := by
  cases blanks with
  | nil => exact ends
  | cons c blanks =>
    apply ends_cons
    rcases blank_cases (blank c List.mem_cons_self) with rfl | rfl | rfl | rfl
    · decide
    · decide
    · decide
    · decide

theorem skipBlanks_shown (rest : List Char) (shown : isBlank c = false) :
    skipBlanks (c :: rest) = c :: rest := by
  rw [skipBlanks, List.dropWhile_cons_of_neg]
  simp [shown]

/-- The blanks in front of a character are passed over. -/
theorem skipBlanks_to (blank : Blank blanks) (rest : List Char) (shown : isBlank c = false) :
    skipBlanks (blanks ++ c :: rest) = c :: rest := by
  rw [skipBlanks_behind blank, skipBlanks_shown rest shown]

theorem spanDigits_behind (all : ∀ c ∈ digits, c.isDigit = true)
    (ends : ∀ c ∈ rest.head?, c.isDigit = false) : spanDigits (digits ++ rest) = (digits, rest) := by
  have stops : rest.takeWhile Char.isDigit = [] ∧ rest.dropWhile Char.isDigit = rest := by
    cases rest with
    | nil => exact ⟨rfl, rfl⟩
    | cons c rest =>
      have other : ¬ c.isDigit = true := by simp [ends c rfl]
      exact ⟨List.takeWhile_cons_of_neg other, List.dropWhile_cons_of_neg other⟩
  rw [spanDigits, List.takeWhile_append_of_pos all, List.dropWhile_append_of_pos all, stops.1, stops.2,
    List.append_nil]

theorem readWhole_of_whole (whole : Whole text) (ends : ∀ c ∈ rest.head?, c.isDigit = false) :
    readWhole (text ++ rest) = .ok (text, rest) := by
  obtain ⟨⟨some, all⟩, noZero⟩ := whole
  unfold readWhole
  rw [spanDigits_behind all ends]
  dsimp only
  split
  · exact absurd rfl some
  · cases noZero rfl
    rfl
  · rfl

theorem exponent_head {exponent : List Char} {exponent?} (third : Exponent exponent exponent?)
    (ends : Ends rest) : ∀ c ∈ (exponent ++ rest).head?, c.isDigit = false ∧ c ≠ '.' := by
  cases third with
  | absent => exact fun c member => ⟨(ends c member).1, (ends c member).2.1⟩
  | given isMark =>
    rintro _ ⟨⟩
    rcases isMark with rfl | rfl
    · decide
    · decide

/-- Nothing that may stand behind the digits before the point goes on with them. -/
theorem fraction_head {fraction exponent : List Char} {fraction? exponent?}
    (second : Fraction fraction fraction?) (third : Exponent exponent exponent?) (ends : Ends rest) :
    ∀ c ∈ (fraction ++ (exponent ++ rest)).head?, c.isDigit = false := by
  cases second with
  | absent => exact fun c member => (exponent_head third ends c member).1
  | given =>
    rintro _ ⟨⟩
    decide

theorem readFraction_of_fraction {fraction : List Char} {fraction?}
    (second : Fraction fraction fraction?)
    (ends : ∀ c ∈ rest.head?, c.isDigit = false ∧ c ≠ '.') :
    readFraction (fraction ++ rest) = .ok (fraction?, rest) := by
  cases second with
  | absent =>
    rw [List.nil_append]
    unfold readFraction
    split
    · exact absurd rfl (ends '.' rfl).2
    · rfl
  | @given digits filled =>
    have some : digits.isEmpty = false := List.isEmpty_eq_false_iff.mpr filled.1
    rw [List.cons_append, readFraction, spanDigits_behind filled.2 fun c member => (ends c member).1]
    simp [some]

theorem readSign_of_sign {sign : List Char} {negative : Bool} (signed : Sign sign negative)
    (filled : Digits digits) : readSign (sign ++ (digits ++ rest)) = (negative, digits ++ rest) := by
  cases signed with
  | plus => rfl
  | minus => rfl
  | absent =>
    obtain ⟨some, all⟩ := filled
    cases digits with
    | nil => exact absurd rfl some
    | cons c digits =>
      have digit : c.isDigit = true := all c List.mem_cons_self
      rw [List.nil_append, List.cons_append]
      unfold readSign
      split
      · rename_i same
        cases same
        cases digit
      · rename_i same
        cases same
        cases digit
      · rfl

theorem readExponent_of_exponent {exponent : List Char} {exponent?}
    (third : Exponent exponent exponent?) (ends : Ends rest) :
    readExponent (exponent ++ rest) = .ok (exponent?, rest) := by
  cases third with
  | absent =>
    cases rest with
    | nil => rfl
    | cons c rest =>
      obtain ⟨-, -, lower, upper⟩ := ends c rfl
      simp [readExponent, lower, upper]
  | @given mark sign negative digits isMark signed filled =>
    have some : digits.isEmpty = false := List.isEmpty_eq_false_iff.mpr filled.1
    have read := spanDigits_behind filled.2 fun c member => (ends c member).1
    have direction : readSign (sign ++ (digits ++ rest)) = (negative, digits ++ rest) :=
      readSign_of_sign signed filled
    simp [readExponent, isMark, direction, read, some]

theorem readUnsigned_of_parts {whole fraction exponent : List Char} {fraction? exponent?}
    (negative : Bool) (first : Whole whole) (second : Fraction fraction fraction?)
    (third : Exponent exponent exponent?) (ends : Ends rest) :
    readUnsigned negative (whole ++ (fraction ++ (exponent ++ rest))) =
      .ok (⟨negative, whole, fraction?, exponent?⟩, rest) := by
  rw [readUnsigned, readWhole_of_whole first (fraction_head second third ends)]
  dsimp only
  rw [readFraction_of_fraction second (exponent_head third ends)]
  dsimp only
  rw [readExponent_of_exponent third ends]

theorem digit_of_whole (whole : Whole text) : ∃ c digits, text = c :: digits ∧ c.isDigit = true := by
  obtain ⟨⟨some, all⟩, -⟩ := whole
  obtain ⟨c, digits, rfl⟩ := List.exists_cons_of_ne_nil some
  exact ⟨c, digits, rfl, all c List.mem_cons_self⟩

/-- A number is read in full. -/
theorem readNumeral_of_written (written : Written text numeral) (ends : Ends rest) :
    readNumeral (text ++ rest) = .ok (numeral, rest) := by
  cases written with
  | negative first second third =>
    rw [List.cons_append, List.append_assoc, List.append_assoc, readNumeral,
      readUnsigned_of_parts true first second third ends]
  | positive first second third =>
    rw [List.append_assoc, List.append_assoc,
      ← readUnsigned_of_parts false first second third ends]
    obtain ⟨c, digits, rfl, digit⟩ := digit_of_whole first
    unfold readNumeral
    split
    · rename_i same
      cases same
      cases digit
    · rfl

/-- A number begins with its sign or a digit. -/
theorem head_of_written (written : Written text numeral) :
    ∃ c rest, text = c :: rest ∧ (c = '-' ∨ c.isDigit = true) := by
  cases written with
  | negative => exact ⟨'-', _, rfl, .inl rfl⟩
  | positive first =>
    obtain ⟨c, digits, rfl, digit⟩ := digit_of_whole first
    exact ⟨c, _, rfl, .inr digit⟩

/-- So no number begins with another character. -/
theorem other_of_number (first : c = '-' ∨ c.isDigit = true) {other : Char} (noSign : other ≠ '-')
    (noDigit : other.isDigit = false) : c ≠ other := by
  rintro rfl
  rcases first with sign | digit
  · exact noSign sign
  · exact Bool.eq_false_iff.mp noDigit digit

theorem shown_of_number (first : c = '-' ∨ c.isDigit = true) : isBlank c = false := by
  apply Bool.eq_false_iff.mpr
  intro blank
  rcases blank_cases blank with rfl | rfl | rfl | rfl
  · exact other_of_number first (by decide) (by decide) rfl
  · exact other_of_number first (by decide) (by decide) rfl
  · exact other_of_number first (by decide) (by decide) rfl
  · exact other_of_number first (by decide) (by decide) rfl

/-- A value begins with a character that is no blank, and that closes nothing. -/
theorem head_of_value (value : IsValue text) :
    ∃ c rest, text = c :: rest ∧ isBlank c = false ∧ c ≠ ']' := by
  cases value with
  | null => exact ⟨_, _, rfl, by decide, by decide⟩
  | true => exact ⟨_, _, rfl, by decide, by decide⟩
  | false => exact ⟨_, _, rfl, by decide, by decide⟩
  | string => exact ⟨_, _, rfl, by decide, by decide⟩
  | list => exact ⟨_, _, rfl, by decide, by decide⟩
  | object => exact ⟨_, _, rfl, by decide, by decide⟩
  | number written =>
    obtain ⟨c, rest, rfl, first⟩ := head_of_written written
    exact ⟨c, rest, rfl, shown_of_number first, other_of_number first (by decide) (by decide)⟩

/-- Only the numeral of zero begins with a zero. -/
theorem whole_toDigits (number : Nat) : Whole (Nat.toDigits 10 number) := by
  refine ⟨⟨Nat.toDigits_ne_nil, fun c member =>
    Nat.isDigit_of_mem_toDigits (by decide) (by decide) member⟩, ?_⟩
  induction number using Nat.strongRecOn with
  | ind number ih =>
    intro zero
    rw [Nat.toDigits_eq_if (by decide)] at zero ⊢
    split at zero
    · rename_i single
      rw [if_pos single]
      interval_cases number <;> simp_all
    · rename_i long
      have less : number / 10 < number := Nat.div_lt_self (by omega) (by decide)
      have front : (Nat.toDigits 10 (number / 10)).head? = some '0' := by
        rwa [List.head?_append_of_ne_nil _ Nat.toDigits_ne_nil] at zero
      have value := congrArg (Nat.ofDigitChars 10 · 0) (ih _ less front)
      simp only [Nat.ofDigitChars_ten_toDigits] at value
      have none : number / 10 = 0 := value
      omega

/-- A natural number in ordinary digits is a number of the grammar. -/
theorem written_toDigits (number : Nat) :
    Written (Nat.toDigits 10 number) ⟨false, Nat.toDigits 10 number, none, none⟩ := by
  have written := Written.positive (whole_toDigits number) .absent .absent
  rwa [List.append_nil, List.append_nil] at written

theorem digitsValue_toDigits (number : Nat) : digitsValue (Nat.toDigits 10 number) = number :=
  (Nat.ofDigitChars_eq_foldl).symm.trans Nat.ofDigitChars_ten_toDigits

end HexPattern.JsonValues
