import HexPattern.Hex
import HexPattern.Json.Failure

/-!
String literals of JSON. A literal is read piece by piece, a piece being a character as it stands, a
short escape, or a code unit in hex; two code units that form a surrogate pair join into one character.
A reader that only passes over a literal does not ask whether its code units pair up.
-/

namespace HexPattern.Json

/-- What stands next in a string literal. -/
inductive Piece where
  /-- The closing quote. -/
  | close
  /-- A character, as it stands or by a short escape. -/
  | letter (c : Char)
  /-- A code unit by its four hex digits. -/
  | codeUnit (value : Nat)
deriving DecidableEq, Repr

/-- The characters that short escapes stand for. -/
def shortEscape? : Char → Option Char
  | '"' => some '"'
  | '\\' => some '\\'
  | '/' => some '/'
  | 'b' => some '\x08'
  | 'f' => some '\x0c'
  | 'n' => some '\n'
  | 'r' => some '\r'
  | 't' => some '\t'
  | _ => none

/-- The value of four hex digits. -/
def fourDigits? (a b c d : Char) : Option Nat := do
  let a ← Hex.digit? a
  let b ← Hex.digit? b
  let c ← Hex.digit? c
  let d ← Hex.digit? d
  return 4096 * a.val + 256 * b.val + 16 * c.val + d.val

/-- The number of bytes that characters take. -/
def byteCount (text : List Char) : Nat := (String.ofList text).utf8ByteSize

/-- Reads the four digits of a code unit. Fewer than four bytes are a text cut short. -/
def readCodeUnit (text : List Char) : Except Failure (Nat × List Char) :=
  match text with
  | a :: b :: c :: d :: rest =>
    match fourDigits? a b c d with
    | some value => .ok (value, rest)
    | none => malformed .invalidEscape text
  | _ => if byteCount text < 4 then cutShort .string else malformed .invalidEscape text

/-- Reads the next piece of a literal. -/
def readPiece : List Char → Except Failure (Piece × List Char)
  | [] => cutShort .string
  | '"' :: rest => .ok (.close, rest)
  | '\\' :: rest =>
    match rest with
    | [] => cutShort .string
    | 'u' :: digits => (readCodeUnit digits).map fun (value, rest) => (.codeUnit value, rest)
    | c :: after =>
      match shortEscape? c with
      | some letter => .ok (.letter letter, after)
      | none => malformed .invalidEscape rest
  | c :: rest =>
    if c.toNat < 0x20 then malformed .controlCharacter (c :: rest) else .ok (.letter c, rest)

/-- Whether a code unit is the first of a surrogate pair. -/
def isLeading (value : Nat) : Bool := 0xD800 ≤ value && value ≤ 0xDBFF

/-- Whether a code unit is the second of a surrogate pair. -/
def isTrailing (value : Nat) : Bool := 0xDC00 ≤ value && value ≤ 0xDFFF

/-- The character of a surrogate pair. -/
def joinSurrogates (leading trailing : Nat) : Char :=
  Char.ofNat (0x10000 + 0x400 * (leading - 0xD800) + (trailing - 0xDC00))

/-- The character that a code unit begins: itself, or what it forms with the code unit after it. -/
def completeCodeUnit (value : Nat) (text : List Char) : Except Failure (Char × List Char) :=
  if isTrailing value then malformed .loneSurrogate text
  else if isLeading value then
    match text with
    | [] => cutShort .string
    | ['\\'] => cutShort .string
    | '\\' :: 'u' :: digits =>
      match readCodeUnit digits with
      | .error failure => .error failure
      | .ok (trailing, rest) =>
        if isTrailing trailing then .ok (joinSurrogates value trailing, rest)
        else malformed .loneSurrogate rest
    | _ => malformed .brokenSurrogatePair text
  else .ok (Char.ofNat value, text)

/-- Reads the next character of a literal; there is none at the closing quote. -/
def readLetter (text : List Char) : Except Failure (Option Char × List Char) :=
  match readPiece text with
  | .error failure => .error failure
  | .ok (.close, rest) => .ok (none, rest)
  | .ok (.letter c, rest) => .ok (some c, rest)
  | .ok (.codeUnit value, rest) =>
    (completeCodeUnit value rest).map fun (c, rest) => (some c, rest)

theorem readCodeUnit_shorter {text rest : List Char} {value : Nat}
    (h : readCodeUnit text = .ok (value, rest)) : rest.length < text.length := by
  unfold readCodeUnit at h
  split at h
  · split at h
    · simp only [Except.ok.injEq, Prod.mk.injEq] at h
      simp [← h.2]
      omega
    · simp [malformed] at h
  · split at h <;> simp [cutShort, malformed] at h

theorem readPiece_shorter {text rest : List Char} {piece : Piece}
    (h : readPiece text = .ok (piece, rest)) : rest.length < text.length := by
  unfold readPiece at h
  split at h
  · simp [cutShort] at h
  · simp only [Except.ok.injEq, Prod.mk.injEq] at h
    simp [← h.2]
  · split at h
    · simp [cutShort] at h
    · obtain ⟨⟨value, after⟩, read, equal⟩ := map_eq_ok_iff.mp h
      have := readCodeUnit_shorter read
      obtain ⟨rfl, rfl⟩ := Prod.mk.inj equal
      simp only [List.length_cons]
      omega
    · split at h
      · simp only [Except.ok.injEq, Prod.mk.injEq] at h
        simp only [List.length_cons, ← h.2]
        omega
      · simp [malformed] at h
  · split at h
    · simp [malformed] at h
    · simp only [Except.ok.injEq, Prod.mk.injEq] at h
      simp [← h.2]

theorem completeCodeUnit_le {value : Nat} {text rest : List Char} {c : Char}
    (h : completeCodeUnit value text = .ok (c, rest)) : rest.length ≤ text.length := by
  unfold completeCodeUnit at h
  split at h
  · simp [malformed] at h
  · split at h
    · split at h
      · simp [cutShort] at h
      · simp [cutShort] at h
      · rename_i digits
        split at h
        · simp at h
        · rename_i trailing after read
          split at h
          · simp only [Except.ok.injEq, Prod.mk.injEq] at h
            have shorter : after.length < digits.length := readCodeUnit_shorter read
            simp only [List.length_cons, ← h.2]
            omega
          · simp [malformed] at h
      · simp [malformed] at h
    · simp only [Except.ok.injEq, Prod.mk.injEq] at h
      simp [h.2]

theorem readLetter_shorter {text rest : List Char} {c : Option Char}
    (h : readLetter text = .ok (c, rest)) : rest.length < text.length := by
  unfold readLetter at h
  split at h
  · simp at h
  · rename_i after read
    simp only [Except.ok.injEq, Prod.mk.injEq] at h
    exact h.2 ▸ readPiece_shorter read
  · rename_i letter after read
    simp only [Except.ok.injEq, Prod.mk.injEq] at h
    exact h.2 ▸ readPiece_shorter read
  · rename_i value after read
    obtain ⟨⟨letter, later⟩, completed, equal⟩ := map_eq_ok_iff.mp h
    have := completeCodeUnit_le completed
    have := readPiece_shorter read
    obtain ⟨rfl, rfl⟩ := Prod.mk.inj equal
    omega

/-- Reads a literal after its opening quote, up to and with the closing one. -/
def readLiteral (text : List Char) : Except Failure (List Char × List Char) :=
  match h : readLetter text with
  | .error failure => .error failure
  | .ok (none, rest) => .ok ([], rest)
  | .ok (some c, rest) =>
    have : rest.length < text.length := readLetter_shorter h
    match readLiteral rest with
    | .error failure => .error failure
    | .ok (letters, rest) => .ok (c :: letters, rest)
termination_by text.length

/-- Passes over a literal after its opening quote. -/
def skipLiteral (text : List Char) : Except Failure (List Char) :=
  match h : readPiece text with
  | .error failure => .error failure
  | .ok (.close, rest) => .ok rest
  | .ok (_, rest) =>
    have : rest.length < text.length := readPiece_shorter h
    skipLiteral rest
termination_by text.length

theorem readLiteral_shorter {text rest letters : List Char}
    (h : readLiteral text = .ok (letters, rest)) : rest.length < text.length := by
  fun_induction readLiteral text generalizing letters rest with
  | case1 => simp at h
  | case2 text after read =>
    simp only [Except.ok.injEq, Prod.mk.injEq] at h
    exact h.2 ▸ readLetter_shorter read
  | case3 => simp at h
  | case4 text c after read shorter more next inner ih =>
    simp only [Except.ok.injEq, Prod.mk.injEq] at h
    have := ih inner
    rw [← h.2]
    omega

theorem skipLiteral_shorter {text rest : List Char} (h : skipLiteral text = .ok rest) :
    rest.length < text.length := by
  fun_induction skipLiteral text generalizing rest with
  | case1 => simp at h
  | case2 text after read =>
    simp only [Except.ok.injEq] at h
    exact h ▸ readPiece_shorter read
  | case3 text piece after notClose read shorter ih =>
    have := ih h
    omega

/-- One character inside a written literal: quotes, backslashes and controls are escaped. -/
def writtenChar (c : Char) : List Char :=
  if c = '"' then ['\\', '"']
  else if c = '\\' then ['\\', '\\']
  else if c = '\x08' then ['\\', 'b']
  else if c = '\x0c' then ['\\', 'f']
  else if c = '\n' then ['\\', 'n']
  else if c = '\r' then ['\\', 'r']
  else if c = '\t' then ['\\', 't']
  else if c.toNat < 0x20 then
    ['\\', 'u', '0', '0'] ++ Hex.byteChars .lower (UInt8.ofNat c.toNat)
  else [c]

/-- A text as a string literal. -/
def writeLiteral (text : List Char) : List Char := '"' :: (text.flatMap writtenChar ++ ['"'])

end HexPattern.Json
