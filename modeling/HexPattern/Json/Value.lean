import HexPattern.Json.Blank
import HexPattern.Json.Literal
import HexPattern.Json.Number

/-!
The beginnings of JSON values. A scalar is read in full, of a list or an object only the opening bracket.
Readers of bytes, booleans and strings are built on this: whatever begins a value of another kind is read
first and then refused by name.
-/

namespace HexPattern.Json

/-- What a value begins with. -/
inductive Head where
  | null
  | boolean (value : Bool)
  | number (value : Number)
  | string (letters : List Char)
  | list
  | object
deriving DecidableEq, Repr

/-- Reads the given word. -/
def readWord : List Char → List Char → Except Failure (List Char)
  | [], text => .ok text
  | _ :: _, [] => cutShort .value
  | letter :: word, c :: rest =>
    if c = letter then readWord word rest else malformed .expectedWord (c :: rest)

/-- Reads a number; a text that ends where a digit is due is cut short. -/
def readNumber (text : List Char) : Except Failure (Number × List Char) :=
  match readNumeral text with
  | .error [] => cutShort .value
  | .error rest => malformed .invalidNumber rest
  | .ok (numeral, rest) =>
    match numeral.number? with
    | some number => .ok (number, rest)
    | none => .error ⟨.malformed .numberOutOfRange, rest⟩

/-- Reads the beginning of a value that starts at the front of the text. -/
def readHeadHere (text : List Char) : Except Failure (Head × List Char) :=
  match text with
  | [] => cutShort .value
  | 'n' :: rest => (readWord ['u', 'l', 'l'] rest).map (.null, ·)
  | 't' :: rest => (readWord ['r', 'u', 'e'] rest).map (.boolean true, ·)
  | 'f' :: rest => (readWord ['a', 'l', 's', 'e'] rest).map (.boolean false, ·)
  | '"' :: rest => (readLiteral rest).map fun (letters, rest) => (.string letters, rest)
  | '[' :: rest => .ok (.list, rest)
  | '\x7b' :: rest => .ok (.object, rest)
  | c :: rest =>
    if c = '-' || c.isDigit then (readNumber (c :: rest)).map fun (n, rest) => (.number n, rest)
    else malformed .expectedValue (c :: rest)

/-- Reads the beginning of a value after blanks. -/
def readHead (text : List Char) : Except Failure (Head × List Char) := readHeadHere (skipBlanks text)

namespace Head

/-- How the beginning of a value is named among the values found. -/
def found : Head → Found
  | null => .null
  | boolean value => .boolean value
  | number value => value.found
  | string letters => .string (String.ofList letters)
  | list => .list
  | object => .object

/-- Refuses a value of the wrong kind. A bracket is not taken for read. -/
def refuse {α : Type} (head : Head) (wanted : Wanted) (rest : List Char) : Except Failure α :=
  .error ⟨.wrongKind head.found wanted,
    match head with
    | list => '[' :: rest
    | object => '\x7b' :: rest
    | _ => rest⟩

end Head

/-- Reads a byte: an integer from 0 to 255. -/
def readByte (text : List Char) : Except Failure (UInt8 × List Char) :=
  match readHead text with
  | .error failure => .error failure
  | .ok (.number (.integer value), rest) =>
    if 0 ≤ value ∧ value < 256 then .ok (UInt8.ofNat value.toNat, rest)
    else .error ⟨.outOfRange value, rest⟩
  | .ok (head, rest) => head.refuse .byte rest

/-- Reads a boolean. -/
def readBoolean (text : List Char) : Except Failure (Bool × List Char) :=
  match readHead text with
  | .error failure => .error failure
  | .ok (.boolean value, rest) => .ok (value, rest)
  | .ok (head, rest) => head.refuse .boolean rest

/-- Reads a string. -/
def readString (text : List Char) : Except Failure (List Char × List Char) :=
  match readHead text with
  | .error failure => .error failure
  | .ok (.string letters, rest) => .ok (letters, rest)
  | .ok (head, rest) => head.refuse .string rest

/-- Makes sure that only blanks are left. -/
def readEnd {α : Type} (value : α) (text : List Char) : Except Failure α :=
  match skipBlanks text with
  | [] => .ok value
  | rest => malformed .trailingCharacters rest

theorem readWord_le {word text rest : List Char} (h : readWord word text = .ok rest) :
    rest.length ≤ text.length := by
  induction word generalizing text with
  | nil =>
    simp only [readWord, Except.ok.injEq] at h
    simp [h]
  | cons letter word ih =>
    cases text with
    | nil => simp [readWord, cutShort] at h
    | cons c text =>
      unfold readWord at h
      split at h
      · have := ih h
        simp only [List.length_cons]
        omega
      · simp [malformed] at h

theorem readNumber_shorter {text rest : List Char} {number : Number}
    (h : readNumber text = .ok (number, rest)) : rest.length < text.length := by
  unfold readNumber at h
  split at h
  · simp [cutShort] at h
  · simp [malformed] at h
  · rename_i read
    split at h
    · simp only [Except.ok.injEq, Prod.mk.injEq] at h
      exact h.2 ▸ readNumeral_shorter read
    · simp at h

private theorem word_head_shorter {head : Head} {word text rest : List Char} {found : Head} {c : Char}
    (h : (readWord word text).map (head, ·) = .ok (found, rest)) : rest.length < (c :: text).length := by
  obtain ⟨after, read, equal⟩ := map_eq_ok_iff.mp h
  obtain ⟨rfl, rfl⟩ := Prod.mk.inj equal
  exact Nat.lt_succ_of_le (readWord_le read)

theorem readHeadHere_shorter {text rest : List Char} {head : Head}
    (h : readHeadHere text = .ok (head, rest)) : rest.length < text.length := by
  unfold readHeadHere at h
  split at h
  · simp [cutShort] at h
  · exact word_head_shorter h
  · exact word_head_shorter h
  · exact word_head_shorter h
  · obtain ⟨⟨letters, after⟩, read, equal⟩ := map_eq_ok_iff.mp h
    obtain ⟨rfl, rfl⟩ := Prod.mk.inj equal
    exact Nat.lt_succ_of_lt (readLiteral_shorter read)
  · simp only [Except.ok.injEq, Prod.mk.injEq] at h
    simp [← h.2]
  · simp only [Except.ok.injEq, Prod.mk.injEq] at h
    simp [← h.2]
  · split at h
    · obtain ⟨⟨number, after⟩, read, equal⟩ := map_eq_ok_iff.mp h
      obtain ⟨rfl, rfl⟩ := Prod.mk.inj equal
      exact readNumber_shorter read
    · simp [malformed] at h

theorem readHead_shorter {text rest : List Char} {head : Head}
    (h : readHead text = .ok (head, rest)) : rest.length < text.length :=
  Nat.lt_of_lt_of_le (readHeadHere_shorter h) (skipBlanks_length_le text)

theorem readByte_shorter {text rest : List Char} {byte : UInt8}
    (h : readByte text = .ok (byte, rest)) : rest.length < text.length := by
  unfold readByte at h
  split at h
  · simp at h
  · rename_i read
    split at h
    · simp only [Except.ok.injEq, Prod.mk.injEq] at h
      exact h.2 ▸ readHead_shorter read
    · simp at h
  · simp [Head.refuse] at h

theorem readBoolean_shorter {text rest : List Char} {value : Bool}
    (h : readBoolean text = .ok (value, rest)) : rest.length < text.length := by
  unfold readBoolean at h
  split at h
  · simp at h
  · rename_i read
    simp only [Except.ok.injEq, Prod.mk.injEq] at h
    exact h.2 ▸ readHead_shorter read
  · simp [Head.refuse] at h

end HexPattern.Json
