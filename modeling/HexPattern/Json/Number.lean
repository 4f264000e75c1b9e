import HexPattern.Binary64
import HexPattern.Json.Failure

/-!
Numbers of JSON. The lexeme is read first: a sign, digits without a needless zero in front, and possibly
a fraction and an exponent. It denotes an integer of sixty-four bits when it has neither of the two and
fits, and a floating point number otherwise.
-/

namespace HexPattern.Json

/-- The parts of a written number. -/
structure Numeral where
  negative : Bool
  /-- The digits before the point. -/
  whole : List Char
  /-- The digits after the point, if there is one. -/
  fraction? : Option (List Char)
  /-- Whether the exponent is negative, and its digits. -/
  exponent? : Option (Bool × List Char)
deriving DecidableEq, Repr

/-- A number. -/
inductive Number where
  | integer (value : Int)
  | float (negative : Bool) (magnitude : Binary64)
deriving DecidableEq, Repr

/-- Divides a text after the digits in front. -/
def spanDigits (text : List Char) : List Char × List Char :=
  (text.takeWhile Char.isDigit, text.dropWhile Char.isDigit)

/-- Reads an optional fraction, or gives the text at which a digit is missing. -/
def readFraction (text : List Char) : Except (List Char) (Option (List Char) × List Char) :=
  match text with
  | '.' :: after =>
    let (digits, rest) := spanDigits after
    if digits.isEmpty then .error rest else .ok (some digits, rest)
  | _ => .ok (none, text)

/-- Reads an optional sign. -/
def readSign : List Char → Bool × List Char
  | '-' :: rest => (true, rest)
  | '+' :: rest => (false, rest)
  | text => (false, text)

/-- Reads an optional exponent, or gives the text at which a digit is missing. -/
def readExponent (text : List Char) : Except (List Char) (Option (Bool × List Char) × List Char) :=
  match text with
  | c :: after =>
    if c = 'e' || c = 'E' then
      let (negative, start) := readSign after
      let (digits, rest) := spanDigits start
      if digits.isEmpty then .error rest else .ok (some (negative, digits), rest)
    else .ok (none, text)
  | [] => .ok (none, text)

/-- Reads the digits before the point, or gives the text at which they go wrong. -/
def readWhole (text : List Char) : Except (List Char) (List Char × List Char) :=
  let (digits, rest) := spanDigits text
  match digits with
  | [] => .error rest
  | '0' :: more => if more.isEmpty then .ok (digits, rest) else .error (more ++ rest)
  | _ => .ok (digits, rest)

/-- Reads a number after its sign, or gives the text at which it goes wrong. -/
def readUnsigned (negative : Bool) (text : List Char) : Except (List Char) (Numeral × List Char) :=
  match readWhole text with
  | .error rest => .error rest
  | .ok (whole, rest) =>
    match readFraction rest with
    | .error rest => .error rest
    | .ok (fraction?, rest) =>
      match readExponent rest with
      | .error rest => .error rest
      | .ok (exponent?, rest) => .ok (⟨negative, whole, fraction?, exponent?⟩, rest)

/-- Reads a number, or gives the text at which it goes wrong. -/
def readNumeral (text : List Char) : Except (List Char) (Numeral × List Char) :=
  match text with
  | '-' :: rest => readUnsigned true rest
  | _ => readUnsigned false text

/-- The value of a decimal digit. -/
def digitValue (c : Char) : Nat := c.toNat - 48

/-- The value of a row of decimal digits. -/
def digitsValue (digits : List Char) : Nat :=
  digits.foldl (fun value c => 10 * value + digitValue c) 0

/-- Appends digits to a number as long as it keeps below `2 ^ 64`; gives the digits left over, too. -/
def gather (value : Nat) : List Char → Nat × List Char
  | [] => (value, [])
  | c :: rest =>
    let next := 10 * value + digitValue c
    if next < 2 ^ 64 then gather next rest else (value, c :: rest)

namespace Numeral

/-- The digits that are kept and the power of ten that belongs to them. Digits that do not fit are left
out: before the point they raise the power, after it they are dropped. -/
def significand (numeral : Numeral) : Nat × Int :=
  let (whole, left) := gather 0 numeral.whole
  let fraction := numeral.fraction?.getD []
  let (kept, dropped) := gather whole fraction
  let exponent : Int := match numeral.exponent? with
    | none => 0
    | some (negative, digits) =>
      if negative then -(digitsValue digits : Int) else digitsValue digits
  (kept, left.length - (fraction.length - dropped.length : Nat) + exponent)

/-- The floating point number denoted, if it is not too large. -/
def float? (numeral : Numeral) : Option Number :=
  let (significand, exponent) := numeral.significand
  (Binary64.ofDecimal? significand exponent).map (.float numeral.negative)

/-- The number denoted, if it is not too large. Minus zero is a floating point number. -/
def number? (numeral : Numeral) : Option Number :=
  let magnitude := digitsValue numeral.whole
  if numeral.fraction?.isSome || numeral.exponent?.isSome then numeral.float?
  else if numeral.negative then
    if 0 < magnitude ∧ magnitude ≤ Nat.pow 2 63 then some (.integer (-magnitude)) else numeral.float?
  else if magnitude < Nat.pow 2 64 then some (.integer magnitude) else numeral.float?

end Numeral

namespace Number

/-- How a number is named among the values found. -/
def found : Number → Found
  | integer value => .integer value
  | float negative magnitude => .float ((if negative then "-" else "") ++ magnitude.text)

end Number

theorem spanDigits_append (text : List Char) : (spanDigits text).1 ++ (spanDigits text).2 = text :=
  List.takeWhile_append_dropWhile

theorem spanDigits_length (text : List Char) :
    (spanDigits text).1.length + (spanDigits text).2.length = text.length := by
  rw [← List.length_append, spanDigits_append]

theorem readFraction_le {text rest : List Char} {fraction? : Option (List Char)}
    (h : readFraction text = .ok (fraction?, rest)) : rest.length ≤ text.length := by
  unfold readFraction at h
  split at h
  · rename_i after
    have := spanDigits_length after
    dsimp only at h
    split at h
    · simp at h
    · simp only [Except.ok.injEq, Prod.mk.injEq] at h
      simp only [List.length_cons, ← h.2]
      omega
  · simp only [Except.ok.injEq, Prod.mk.injEq] at h
    simp [h.2]

theorem readSign_le (text : List Char) : (readSign text).2.length ≤ text.length := by
  unfold readSign
  split <;> simp

theorem readExponent_le {text rest : List Char} {exponent? : Option (Bool × List Char)}
    (h : readExponent text = .ok (exponent?, rest)) : rest.length ≤ text.length := by
  unfold readExponent at h
  split at h
  · rename_i after
    have sign := readSign_le after
    have digits := spanDigits_length (readSign after).2
    split at h
    · dsimp only at h
      split at h
      · simp at h
      · simp only [Except.ok.injEq, Prod.mk.injEq] at h
        simp only [List.length_cons, ← h.2]
        omega
    · simp only [Except.ok.injEq, Prod.mk.injEq] at h
      simp [← h.2]
  · simp only [Except.ok.injEq, Prod.mk.injEq] at h
    simp [← h.2]

theorem readWhole_shorter {text rest whole : List Char}
    (h : readWhole text = .ok (whole, rest)) : rest.length < text.length := by
  have digits := spanDigits_length text
  unfold readWhole at h
  dsimp only at h
  split at h
  · simp at h
  · rename_i more front
    split at h
    · simp only [Except.ok.injEq, Prod.mk.injEq] at h
      rw [← h.2]
      simp only [front, List.length_cons] at digits
      omega
    · simp at h
  · rename_i notEmpty notZero
    have positive : (spanDigits text).1.length ≠ 0 := by
      intro none
      exact notEmpty (List.eq_nil_of_length_eq_zero none)
    simp only [Except.ok.injEq, Prod.mk.injEq] at h
    rw [← h.2]
    omega

theorem readUnsigned_shorter {negative : Bool} {text rest : List Char} {numeral : Numeral}
    (h : readUnsigned negative text = .ok (numeral, rest)) : rest.length < text.length := by
  unfold readUnsigned at h
  split at h
  · simp at h
  · rename_i wholeRead
    split at h
    · simp at h
    · rename_i fractionRead
      split at h
      · simp at h
      · rename_i exponentRead
        simp only [Except.ok.injEq, Prod.mk.injEq] at h
        have := readWhole_shorter wholeRead
        have := readFraction_le fractionRead
        have := readExponent_le exponentRead
        rw [← h.2]
        omega

theorem readNumeral_shorter {text rest : List Char} {numeral : Numeral}
    (h : readNumeral text = .ok (numeral, rest)) : rest.length < text.length := by
  unfold readNumeral at h
  split at h
  · have := readUnsigned_shorter h
    simp only [List.length_cons]
    omega
  · exact readUnsigned_shorter h

end HexPattern.Json
