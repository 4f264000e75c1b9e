import HexPattern.Fault
import HexPattern.Proofs.OffsetNumerals

/-! Quoting keeps all of a text. A reader takes a quoted text apart again: it looks at one
character after the other, stops at the closing quote, and leaves what is behind it. So a
message that quotes a text tells which text that was and where the quote ends, whatever
the text holds, quotes and backslashes included. -/
namespace HexPattern.QuotedTexts
open Offset (digit?)
open OffsetNumerals (digit_written)

/-- What a reader between quotes is about to meet. -/
inductive Expects where
  /-- A character of the text, or the closing quote. -/
  | letter
  /-- What stands behind a backslash. -/
  | escaped
  /-- The brace in front of a code point. -/
  | opening
  /-- One more digit of a code point, or the brace behind it. -/
  | digits (number : Nat)

/-- The character that one letter behind a backslash stands for. -/
def unescaped? (quote c : Char) : Option Char :=
  if c = '0' then some '\x00'
  else if c = 't' then some '\t'
  else if c = 'r' then some '\r'
  else if c = 'n' then some '\n'
  else if c = '\\' || c = quote then some c
  else none

/-- One character more in front of the text that was read. -/
def withFront (c : Char) (read : Option (List Char × List Char)) : Option (List Char × List Char) :=
  read.map fun (text, behind) => (c :: text, behind)

/-- Reads on to the closing quote: the text up to it, and what is behind it. -/
def readOn (quote : Char) : Expects → List Char → Option (List Char × List Char)
  | _, [] => none
  | .letter, c :: rest =>
    if c = quote then some ([], rest)
    else if c = '\\' then readOn quote .escaped rest
    else withFront c (readOn quote .letter rest)
  | .escaped, c :: rest =>
    if c = 'u' then readOn quote .opening rest
    else match unescaped? quote c with
      | none => none
      | some letter => withFront letter (readOn quote .letter rest)
  | .opening, c :: rest => if c = '\x7b' then readOn quote (.digits 0) rest else none
  | .digits number, c :: rest =>
    if c = '\x7d' then withFront (Char.ofNat number) (readOn quote .letter rest)
    else match digit? 16 c with
      | none => none
      | some digit => readOn quote (.digits (16 * number + digit)) rest

/-- Reads a quoted text and leaves what is behind it. -/
def unquote? (quote : Char) : List Char → Option (List Char × List Char)
  | [] => none
  | c :: rest => if c = quote then readOn quote .letter rest else none

/-- The message begins with these words, quotes the text, and goes on like this. -/
def Quotes (quote : Char) (message front : String) (text : List Char) (behind : String) : Prop :=
  ∃ shown, message.toList = front.toList ++ shown ∧
    unquote? quote shown = some (text, behind.toList)

/-- The quotes in use. -/
def IsQuote (c : Char) : Prop := c = '"' ∨ c = '\''

section

variable {quote : Char}

theorem readOn_digit (number : Nat) {digit : Nat} (small : digit < 16) (rest : List Char) :
    readOn quote (.digits number) (Nat.digitChar digit :: rest) =
      readOn quote (.digits (16 * number + digit)) rest := by
  have inside : Nat.digitChar digit ≠ '\x7d' := by
    interval_cases digit <;> decide
  rw [readOn, if_neg inside, digit_written small (Nat.le_refl 16)]

/-- The digits before the last one give the number without its last digit. -/
theorem readOn_digits (number : Nat) (rest : List Char) :
    readOn quote (.digits 0) (Nat.toDigits 16 number ++ rest) =
      readOn quote (.digits number) rest := by
  induction number using Nat.strongRecOn generalizing rest with
  | ind number ih =>
    rw [Nat.toDigits_eq_if (by decide)]
    split
    · rename_i single
      rw [List.singleton_append, readOn_digit 0 single, Nat.mul_zero, Nat.zero_add]
    · rename_i long
      have less : number / 16 < number := Nat.div_lt_self (by omega) (by decide)
      have last : number % 16 < 16 := Nat.mod_lt _ (by decide)
      rw [List.append_assoc, ih _ less, List.singleton_append, readOn_digit _ last,
        Nat.div_add_mod]

theorem readOn_backslash (mark : IsQuote quote) (rest : List Char) :
    readOn quote .letter ('\\' :: rest) = readOn quote .escaped rest := by
  rcases mark with rfl | rfl <;> rfl

/-- A character is written as a backslash and a letter, by its code point, or as it is. -/
theorem quotedChar_cases (mark : IsQuote quote) (c : Char) :
    (∃ letter ∈ ['0', 't', 'r', 'n', '\\', quote], Text.quotedChar quote c = ['\\', letter] ∧
      unescaped? quote letter = some c) ∨
    Text.quotedChar quote c = Text.codePointEscape c ∨
    (Text.quotedChar quote c = [c] ∧ Text.isInvisible c = false ∧ c ≠ '\\' ∧ c ≠ quote) := by
  unfold Text.quotedChar
  split
  · rename_i same
    exact .inl ⟨'0', by simp, rfl, by rw [same]; rfl⟩
  split
  · rename_i same
    exact .inl ⟨'t', by simp, rfl, by rw [same]; rfl⟩
  split
  · rename_i same
    exact .inl ⟨'r', by simp, rfl, by rw [same]; rfl⟩
  split
  · rename_i same
    exact .inl ⟨'n', by simp, rfl, by rw [same]; rfl⟩
  split
  · rename_i same
    simp only [Bool.or_eq_true, decide_eq_true_eq] at same
    rcases same with rfl | rfl
    · exact .inl ⟨'\\', by simp, rfl, rfl⟩
    · exact .inl ⟨c, by simp, rfl, by rcases mark with rfl | rfl <;> rfl⟩
  · rename_i plain
    simp only [Bool.or_eq_true, decide_eq_true_eq, not_or] at plain
    split
    · exact .inr (.inl rfl)
    · rename_i visible
      exact .inr (.inr ⟨rfl, by simpa using visible, plain⟩)

/-- What is written for a character is read as that character. -/
theorem readOn_quotedChar (mark : IsQuote quote) (c : Char) (rest : List Char) :
    readOn quote .letter (Text.quotedChar quote c ++ rest) =
      withFront c (readOn quote .letter rest) := by
  rcases quotedChar_cases mark c with ⟨letter, known, written, stands⟩ | written |
    ⟨written, -, noBackslash, noQuote⟩
  · have noCodePoint : letter ≠ 'u' := by
      rintro rfl
      rcases mark with rfl | rfl
      · exact absurd known (by decide)
      · exact absurd known (by decide)
    rw [written, List.cons_append, readOn_backslash mark, List.singleton_append, readOn,
      if_neg noCodePoint, stands]
  · rw [written, Text.codePointEscape, List.append_assoc, List.append_assoc, List.cons_append,
      readOn_backslash mark]
    calc readOn quote .escaped (['u', '\x7b'] ++ (Nat.toDigits 16 c.toNat ++ (['\x7d'] ++ rest)))
        = readOn quote (.digits 0) (Nat.toDigits 16 c.toNat ++ (['\x7d'] ++ rest)) := rfl
      _ = readOn quote (.digits c.toNat) (['\x7d'] ++ rest) := readOn_digits _ _
      _ = withFront (Char.ofNat c.toNat) (readOn quote .letter rest) := rfl
      _ = withFront c (readOn quote .letter rest) := by rw [Char.ofNat_toNat]
  · rw [written, List.singleton_append, readOn, if_neg noQuote, if_neg noBackslash]

/-- A quoted text reads back, whatever stands behind it. -/
theorem unquote?_quotedChars (mark : IsQuote quote) (text rest : List Char) :
    unquote? quote (Text.quotedChars quote text ++ rest) = some (text, rest) := by
  have inside : readOn quote .letter (text.flatMap (Text.quotedChar quote) ++ [quote] ++ rest) =
      some (text, rest) := by
    induction text with
    | nil => exact if_pos rfl
    | cons c letters ih =>
      rw [List.flatMap_cons, List.append_assoc, List.append_assoc, readOn_quotedChar mark,
        ← List.append_assoc, ih]
      rfl
  rw [Text.quotedChars, List.cons_append, unquote?, if_pos rfl, inside]

example : unquote? '"' "\"7\\\"\\u\x7b7f\x7d\": \"a\"".toList =
    some (['7', '"', '\x7f'], ": \"a\"".toList) := rfl

theorem quotes_between (mark : IsQuote quote) (front : String) (text : List Char)
    (behind : String) :
    Quotes quote (front ++ String.ofList (Text.quotedChars quote text) ++ behind) front text
      behind := by
  refine ⟨Text.quotedChars quote text ++ behind.toList, ?_, unquote?_quotedChars mark text _⟩
  simp [String.toList_append]

theorem quotes_before (mark : IsQuote quote) (front : String) (text : List Char)
    (behind more : String) :
    Quotes quote (front ++ String.ofList (Text.quotedChars quote text) ++ behind ++ more) front text
      (behind ++ more) := by
  rw [String.append_assoc]
  exact quotes_between mark front text (behind ++ more)

/-- Behind the same words a message quotes one text only, and goes on in one way only. -/
theorem Quotes.inj {message otherMessage front behind otherBehind : String}
    {text other : List Char} (quotes : Quotes quote message front text behind)
    (again : Quotes quote otherMessage front other otherBehind) (same : message = otherMessage) :
    text = other ∧ behind = otherBehind := by
  subst same
  obtain ⟨shown, split, read⟩ := quotes
  obtain ⟨otherShown, otherSplit, otherRead⟩ := again
  have alike : shown = otherShown := List.append_cancel_left (split.symm.trans otherSplit)
  rw [alike, otherRead, Option.some.injEq, Prod.mk.injEq] at read
  exact ⟨read.1.symm, String.toList_inj.mp read.2.symm⟩

/-- A message that quotes behind two beginnings has the shorter one in front of both. -/
theorem Quotes.fronts {message front other behind otherBehind : String}
    {text otherText : List Char} (quotes : Quotes quote message front text behind)
    (again : Quotes quote message other otherText otherBehind) :
    front.toList <+: other.toList ∨ other.toList <+: front.toList := by
  obtain ⟨shown, split, -⟩ := quotes
  obtain ⟨otherShown, otherSplit, -⟩ := again
  have begins : front.toList <+: message.toList := ⟨shown, split.symm⟩
  have alsoBegins : other.toList <+: message.toList := ⟨otherShown, otherSplit.symm⟩
  exact List.prefix_or_prefix_of_prefix begins alsoBegins

end

/-- A number is told by its decimal digits. -/
theorem number_of_text {number other : Nat} (same : toString number = toString other) :
    number = other := by
  have digits : Nat.toDigits 10 number = Nat.toDigits 10 other := by
    rw [← Nat.toList_repr, ← Nat.toList_repr]
    exact congrArg String.toList same
  calc number = Nat.ofDigitChars 10 (Nat.toDigits 10 number) 0 := Nat.ofDigitChars_ten_toDigits.symm
    _ = Nat.ofDigitChars 10 (Nat.toDigits 10 other) 0 := by rw [digits]
    _ = other := Nat.ofDigitChars_ten_toDigits

theorem quotes_unexpected (position : Nat) (found : Char) :
    Quotes '\'' (Fault.unexpectedCharacter position found).message
      "Invalid pattern: unexpected character " [found] (" at position " ++ toString position) :=
  quotes_before (.inr rfl) _ [found] _ _

/-- The letter that the words for a fault begin with. -/
def initial : Fault → Char
  | .unexpectedCharacter .. => 'I'
  | .openCell _ => 'P'
  | .noValue => 'M'

theorem head_append {front : String} {c : Char} (begins : front.toList.head? = some c)
    (behind : String) : (front ++ behind).toList.head? = some c := by
  rw [String.toList_append, List.head?_append, begins, Option.some_or]

theorem message_initial (fault : Fault) : fault.message.toList.head? = some (initial fault) := by
  cases fault with
  | unexpectedCharacter position found => exact head_append (head_append (head_append rfl _) _) _
  | openCell index => exact head_append (head_append rfl _) _
  | noValue => rfl

/-- The words for a fault tell which fault it is, and all that it is about. -/
theorem message_inj {fault other : Fault} (same : fault.message = other.message) :
    fault = other := by
  have initials : initial fault = initial other := by
    rw [← Option.some.injEq, ← message_initial, ← message_initial, same]
  cases fault with
  | unexpectedCharacter position found =>
    cases other with
    | unexpectedCharacter otherPosition otherFound =>
      obtain ⟨letters, behind⟩ := (quotes_unexpected position found).inj
        (quotes_unexpected otherPosition otherFound) same
      have numbers := (String.append_right_inj _).mp behind
      rw [number_of_text numbers, List.singleton_inj.mp letters]
    | openCell otherIndex => simp [initial] at initials
    | noValue => simp [initial] at initials
  | openCell index =>
    cases other with
    | unexpectedCharacter position found => simp [initial] at initials
    | openCell otherIndex =>
      have numbers := (String.append_right_inj _).mp ((String.append_left_inj _).mp same)
      rw [number_of_text numbers]
    | noValue => simp [initial] at initials
  | noValue =>
    cases other with
    | unexpectedCharacter position found => simp [initial] at initials
    | openCell otherIndex => simp [initial] at initials
    | noValue => rfl

end HexPattern.QuotedTexts
