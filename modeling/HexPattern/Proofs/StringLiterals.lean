import HexPattern.Json.Value
import HexPattern.Proofs.LiteralBytes
import Mathlib.Data.List.TakeWhile
import Mathlib.Tactic.SplitIfs

/-! String literals of JSON, as the grammar has them. A character is spelled as it
stands, by a short escape, by its number in four hex digits, or, if its number is
too large for that, by the two numbers of a surrogate pair. The reader takes exactly
these spellings, character by character, and so it reads a literal as the text that
the grammar says. What is written for a text is one of its spellings. -/
namespace HexPattern.StringLiterals
open Json hiding digitValue
open LiteralBytes (digitValue digitValue_lt digit_eq_some_iff digit_value)
open ReaderSemantics (IsHexDigit)

/-- What follows the backslash of a short escape, and the character that it stands
for. -/
def shortEscapes : List (Char × Char) :=
  [('"', '"'), ('\\', '\\'), ('/', '/'), ('b', '\x08'), ('f', '\x0c'), ('n', '\n'), ('r', '\r'),
    ('t', '\t')]

/-- Four hex digits in either case, the most significant one first. -/
structure CodeUnit (digits : List Char) (value : Nat) : Prop where
  four : digits.length = 4
  hex : ∀ c ∈ digits, IsHexDigit c
  value_eq : value = digits.foldl (fun number c => 16 * number + digitValue c) 0

/-- The spellings of a character inside a literal. -/
inductive Spelling : List Char → Char → Prop
  | plain {c : Char} (noQuote : c ≠ '"') (noBackslash : c ≠ '\\') (noControl : 0x20 ≤ c.toNat) :
      Spelling [c] c
  | short {mark c : Char} (known : (mark, c) ∈ shortEscapes) : Spelling ['\\', mark] c
  | unit {digits : List Char} {c : Char} (unit : CodeUnit digits c.toNat) :
      Spelling ('\\' :: 'u' :: digits) c
  | pair {leading trailing : List Char} {c : Char} (large : 0x10000 ≤ c.toNat)
      (first : CodeUnit leading (0xD800 + (c.toNat - 0x10000) / 0x400))
      (second : CodeUnit trailing (0xDC00 + (c.toNat - 0x10000) % 0x400)) :
      Spelling ('\\' :: 'u' :: leading ++ '\\' :: 'u' :: trailing) c

/-- What stands between the quotes of a literal for a text, spelled character by
character. -/
inductive Body : List Char → List Char → Prop
  | nil : Body [] []
  | cons {spelling body text : List Char} {c : Char} (first : Spelling spelling c)
      (others : Body body text) : Body (spelling ++ body) (c :: text)

variable {a b c d : Char} {text rest digits spelling body letters : List Char} {value : Nat}

theorem fourDigits_iff : fourDigits? a b c d = some value ↔ CodeUnit [a, b, c, d] value := by
  have positional : [a, b, c, d].foldl (fun number c => 16 * number + digitValue c) 0 =
      4096 * digitValue a + 256 * digitValue b + 16 * digitValue c + digitValue d := by
    simp only [List.foldl_cons, List.foldl_nil]
    omega
  constructor
  · intro read
    simp only [fourDigits?, Option.bind_eq_bind, Option.bind_eq_some_iff, digit_eq_some_iff] at read
    obtain ⟨da, ⟨ha, sa⟩, db, ⟨hb, sb⟩, dc, ⟨hc, sc⟩, dd, ⟨hd, sd⟩, total⟩ := read
    refine ⟨rfl, by simp [ha, hb, hc, hd], ?_⟩
    rw [positional, ← sa, ← sb, ← sc, ← sd]
    exact (Option.some.inj total).symm
  · rintro ⟨-, hex, total⟩
    simp only [List.forall_mem_cons] at hex
    obtain ⟨da, ra, sa⟩ := digit_value hex.1
    obtain ⟨db, rb, sb⟩ := digit_value hex.2.1
    obtain ⟨dc, rc, sc⟩ := digit_value hex.2.2.1
    obtain ⟨dd, rd, sd⟩ := digit_value hex.2.2.2.1
    rw [total, positional, ← sa, ← sb, ← sc, ← sd]
    simp [fourDigits?, ra, rb, rc, rd]

/-- A code unit takes exactly four hex digits. -/
theorem readCodeUnit_iff : readCodeUnit text = .ok (value, rest) ↔
    ∃ digits, CodeUnit digits value ∧ text = digits ++ rest := by
  constructor
  · intro read
    unfold readCodeUnit at read
    split at read
    · rename_i a b c d after
      split at read
      · rename_i found four
        simp only [Except.ok.injEq, Prod.mk.injEq] at read
        obtain ⟨rfl, rfl⟩ := read
        exact ⟨[a, b, c, d], fourDigits_iff.mp four, rfl⟩
      · cases read
    · split at read <;> cases read
  · rintro ⟨digits, unit, rfl⟩
    obtain ⟨a, b, c, d, rfl⟩ := List.length_eq_four.mp unit.four
    simp [readCodeUnit, fourDigits_iff.mpr unit]

/-- Four digits go up to sixteen bits. -/
theorem codeUnit_lt (unit : CodeUnit digits value) : value < 0x10000 := by
  obtain ⟨four, hex, total⟩ := unit
  obtain ⟨a, b, c, d, rfl⟩ := List.length_eq_four.mp four
  simp only [List.forall_mem_cons] at hex
  have la := digitValue_lt hex.1
  have lb := digitValue_lt hex.2.1
  have lc := digitValue_lt hex.2.2.1
  have ld := digitValue_lt hex.2.2.2.1
  simp only [List.foldl_cons, List.foldl_nil] at total
  omega

/-- No character has the number of a surrogate, and none is larger than two of them
can say. -/
theorem toNat_ranges (c : Char) :
    c.toNat < 0xD800 ∨ (0xE000 ≤ c.toNat ∧ c.toNat < 0x110000) := by
  have valid : c.toNat < 0xD800 ∨ (0xDFFF < c.toNat ∧ c.toNat < 0x110000) := c.valid
  omega

theorem toNat_ofNat (valid : value < 0xD800 ∨ (0xE000 ≤ value ∧ value < 0x110000)) :
    (Char.ofNat value).toNat = value := by
  have char : value.isValidChar := valid
  rw [Char.ofNat, dif_pos char]
  rfl

theorem joinSurrogates_of_char (large : 0x10000 ≤ c.toNat) :
    joinSurrogates (0xD800 + (c.toNat - 0x10000) / 0x400) (0xDC00 + (c.toNat - 0x10000) % 0x400) =
      c := by
  have number : 0x10000 + 0x400 * (0xD800 + (c.toNat - 0x10000) / 0x400 - 0xD800) +
      (0xDC00 + (c.toNat - 0x10000) % 0x400 - 0xDC00) = c.toNat := by omega
  rw [joinSurrogates, number, Char.ofNat_toNat]

theorem toNat_joinSurrogates {leading trailing : Nat} (first : 0xD800 ≤ leading ∧ leading ≤ 0xDBFF)
    (second : 0xDC00 ≤ trailing ∧ trailing ≤ 0xDFFF) :
    (joinSurrogates leading trailing).toNat =
      0x10000 + 0x400 * (leading - 0xD800) + (trailing - 0xDC00) := by
  rw [joinSurrogates]
  exact toNat_ofNat (by omega)

theorem readPiece_plain (noQuote : c ≠ '"') (noBackslash : c ≠ '\\') (noControl : 0x20 ≤ c.toNat) :
    readPiece (c :: rest) = .ok (.letter c, rest) := by
  have shown : ¬ c.toNat < 0x20 := Nat.not_lt.mpr noControl
  unfold readPiece
  split <;> simp_all

theorem readPiece_short {known : Char × Char} (member : known ∈ shortEscapes) :
    readPiece ('\\' :: known.1 :: rest) = .ok (.letter known.2, rest) := by
  revert known
  simp only [shortEscapes, List.forall_mem_cons]
  exact ⟨rfl, rfl, rfl, rfl, rfl, rfl, rfl, rfl, by simp⟩

theorem readPiece_unit (unit : CodeUnit digits value) :
    readPiece ('\\' :: 'u' :: (digits ++ rest)) = .ok (.codeUnit value, rest) := by
  have read : readCodeUnit (digits ++ rest) = .ok (value, rest) :=
    readCodeUnit_iff.mpr ⟨digits, unit, rfl⟩
  simp [readPiece, read, Except.map]

theorem isLeading_iff : isLeading value = true ↔ 0xD800 ≤ value ∧ value ≤ 0xDBFF := by
  simp [isLeading]

theorem isTrailing_iff : isTrailing value = true ↔ 0xDC00 ≤ value ∧ value ≤ 0xDFFF := by
  simp [isTrailing]

theorem completeCodeUnit_single (single : value < 0xD800 ∨ 0xE000 ≤ value) :
    completeCodeUnit value rest = .ok (Char.ofNat value, rest) := by
  have noTrailing : ¬ isTrailing value = true := by
    rw [isTrailing_iff]
    omega
  have noLeading : ¬ isLeading value = true := by
    rw [isLeading_iff]
    omega
  unfold completeCodeUnit
  rw [if_neg noTrailing, if_neg noLeading]

theorem completeCodeUnit_pair {leading trailing : Nat} (first : isLeading leading = true)
    (second : isTrailing trailing = true) (unit : CodeUnit digits trailing) :
    completeCodeUnit leading ('\\' :: 'u' :: (digits ++ rest)) =
      .ok (joinSurrogates leading trailing, rest) := by
  have noTrailing : ¬ isTrailing leading = true := by
    rw [isLeading_iff] at first
    rw [isTrailing_iff]
    omega
  have read : readCodeUnit (digits ++ rest) = .ok (trailing, rest) :=
    readCodeUnit_iff.mpr ⟨digits, unit, rfl⟩
  rw [completeCodeUnit, if_neg noTrailing, if_pos first]
  simp only [read]
  rw [if_pos second]

/-- A code unit is completed by itself, or by the second half of a surrogate pair. -/
theorem completeCodeUnit_cases (completed : completeCodeUnit value text = .ok (c, rest)) :
    ((value < 0xD800 ∨ 0xE000 ≤ value) ∧ c = Char.ofNat value ∧ text = rest) ∨
    ∃ trailing digits, isLeading value = true ∧ isTrailing trailing = true ∧
      CodeUnit digits trailing ∧ text = '\\' :: 'u' :: (digits ++ rest) ∧
      c = joinSurrogates value trailing := by
  unfold completeCodeUnit at completed
  split at completed
  · cases completed
  · rename_i noTrailing
    split at completed
    · rename_i first
      split at completed
      · cases completed
      · cases completed
      · rename_i after
        split at completed
        · cases completed
        · rename_i trailing later read
          split at completed
          · rename_i second
            simp only [Except.ok.injEq, Prod.mk.injEq] at completed
            obtain ⟨rfl, rfl⟩ := completed
            obtain ⟨digits, unit, rfl⟩ := readCodeUnit_iff.mp read
            exact .inr ⟨trailing, digits, first, second, unit, rfl, rfl⟩
          · cases completed
      · cases completed
    · rename_i noLeading
      rw [isTrailing_iff] at noTrailing
      rw [isLeading_iff] at noLeading
      simp only [Except.ok.injEq, Prod.mk.injEq] at completed
      exact .inl ⟨by omega, completed.1.symm, completed.2⟩

theorem shortEscape_mem {mark : Char} (known : shortEscape? mark = some c) :
    (mark, c) ∈ shortEscapes := by
  unfold shortEscape? at known
  split at known <;> cases known <;> simp [shortEscapes]

/-- The pieces of a literal are its closing quote, a character that has a spelling,
and a code unit. -/
theorem readPiece_cases {piece : Piece} (read : readPiece text = .ok (piece, rest)) :
    (piece = .close ∧ text = '"' :: rest) ∨
    (∃ c spelling, piece = .letter c ∧ Spelling spelling c ∧ text = spelling ++ rest) ∨
    ∃ value digits, piece = .codeUnit value ∧ CodeUnit digits value ∧
      text = '\\' :: 'u' :: (digits ++ rest) := by
  unfold readPiece at read
  split at read
  · cases read
  · simp only [Except.ok.injEq, Prod.mk.injEq] at read
    exact .inl ⟨read.1.symm, by rw [read.2]⟩
  · split at read
    · cases read
    · obtain ⟨⟨value, after⟩, unitRead, same⟩ := map_eq_ok_iff.mp read
      obtain ⟨rfl, rfl⟩ := Prod.mk.inj same
      obtain ⟨digits, unit, rfl⟩ := readCodeUnit_iff.mp unitRead
      exact .inr (.inr ⟨value, digits, rfl, unit, rfl⟩)
    · rename_i mark after _
      split at read
      · rename_i meant known
        simp only [Except.ok.injEq, Prod.mk.injEq] at read
        obtain ⟨rfl, rfl⟩ := read
        exact .inr (.inl ⟨meant, _, rfl, .short (shortEscape_mem known), rfl⟩)
      · cases read
  · rename_i c after noQuote noBackslash
    split at read
    · cases read
    · rename_i noControl
      simp only [Except.ok.injEq, Prod.mk.injEq] at read
      obtain ⟨rfl, rfl⟩ := read
      exact .inr (.inl ⟨c, [c], rfl, .plain noQuote noBackslash (Nat.not_lt.mp noControl), rfl⟩)

theorem readLetter_short {known : Char × Char} (member : known ∈ shortEscapes) :
    readLetter ('\\' :: known.1 :: rest) = .ok (some known.2, rest) := by
  rw [readLetter, readPiece_short member]

theorem readLetter_pair (rest : List Char) {leading trailing : List Char} {first second : Nat}
    (firstUnit : CodeUnit leading first) (secondUnit : CodeUnit trailing second)
    (isFirst : isLeading first = true) (isSecond : isTrailing second = true) :
    readLetter ('\\' :: 'u' :: leading ++ '\\' :: 'u' :: trailing ++ rest) =
      .ok (some (joinSurrogates first second), rest) := by
  have joined : completeCodeUnit first ('\\' :: 'u' :: (trailing ++ rest)) =
      .ok (joinSurrogates first second, rest) :=
    completeCodeUnit_pair isFirst isSecond secondUnit
  rw [List.append_assoc, List.cons_append, List.cons_append, readLetter, readPiece_unit firstUnit]
  simp [joined, Except.map]

/-- The reader takes every spelling of a character, whatever follows it. -/
theorem readLetter_of_spelling (spelled : Spelling spelling c) :
    readLetter (spelling ++ rest) = .ok (some c, rest) := by
  have ranges := toNat_ranges c
  cases spelled with
  | plain noQuote noBackslash noControl =>
    rw [List.singleton_append, readLetter, readPiece_plain noQuote noBackslash noControl]
  | @short mark c known =>
    exact readLetter_short known
  | @unit digits c unit =>
    have single : completeCodeUnit c.toNat rest = .ok (c, rest) := by
      rw [completeCodeUnit_single (by omega), Char.ofNat_toNat]
    rw [List.cons_append, List.cons_append, readLetter, readPiece_unit unit]
    simp [single, Except.map]
  | @pair leading trailing c large first second =>
    have read := readLetter_pair rest first second (isLeading_iff.mpr (by omega))
      (isTrailing_iff.mpr (by omega))
    rw [joinSurrogates_of_char large] at read
    exact read

/-- What the reader takes for a character is one of its spellings. -/
theorem spelling_of_readLetter (read : readLetter text = .ok (some c, rest)) :
    ∃ spelling, Spelling spelling c ∧ text = spelling ++ rest := by
  unfold readLetter at read
  split at read
  · cases read
  · cases read
  · rename_i letter after piece
    simp only [Except.ok.injEq, Prod.mk.injEq, Option.some_inj] at read
    obtain ⟨rfl, rfl⟩ := read
    obtain ⟨closed, -⟩ | ⟨_, spelling, same, spelled, split⟩ | ⟨_, _, other, -⟩ :=
      readPiece_cases piece
    · cases closed
    · cases same
      exact ⟨spelling, spelled, split⟩
    · cases other
  · rename_i value after piece
    obtain ⟨⟨letter, later⟩, complete, same⟩ := map_eq_ok_iff.mp read
    cases same
    obtain ⟨closed, -⟩ | ⟨_, _, other, -⟩ | ⟨_, digits, same, unit, split⟩ := readPiece_cases piece
    · cases closed
    · cases other
    · cases same
      obtain ⟨single, rfl, rfl⟩ | ⟨trailing, more, first, second, secondUnit, rfl, joined⟩ :=
        completeCodeUnit_cases complete
      · have bound := codeUnit_lt unit
        have number : (Char.ofNat value).toNat = value := toNat_ofNat (by omega)
        exact ⟨_, .unit (number.symm ▸ unit), split⟩
      · rw [isLeading_iff] at first
        rw [isTrailing_iff] at second
        have number := toNat_joinSurrogates first second
        rw [← joined] at number
        have leadingValue : value = 0xD800 + (c.toNat - 0x10000) / 0x400 := by omega
        have trailingValue : trailing = 0xDC00 + (c.toNat - 0x10000) % 0x400 := by omega
        refine ⟨_, .pair (by omega) (leadingValue ▸ unit) (trailingValue ▸ secondUnit), ?_⟩
        rw [split, List.append_assoc]
        rfl

theorem close_of_readLetter (read : readLetter text = .ok (none, rest)) : text = '"' :: rest := by
  unfold readLetter at read
  split at read
  · cases read
  · rename_i after piece
    simp only [Except.ok.injEq, Prod.mk.injEq, true_and] at read
    obtain ⟨-, split⟩ | ⟨_, _, other, -⟩ | ⟨_, _, other, -⟩ := readPiece_cases piece
    · rw [split, read]
    · cases other
    · cases other
  · cases read
  · obtain ⟨found, -, same⟩ := map_eq_ok_iff.mp read
    cases same

theorem readLiteral_letter (read : readLetter text = .ok (some c, rest))
    (others : readLiteral rest = .ok (letters, body)) :
    readLiteral text = .ok (c :: letters, body) := by
  rw [readLiteral]
  split
  · rename_i failed
    cases failed.symm.trans read
  · rename_i closed
    cases closed.symm.trans read
  · rename_i found
    cases found.symm.trans read
    rw [others]

/-- A literal that spells a text is read as that text, up to its closing quote. -/
theorem readLiteral_of_body (spelled : Body body letters) :
    readLiteral (body ++ '"' :: rest) = .ok (letters, rest) := by
  induction spelled with
  | nil =>
    rw [List.nil_append, readLiteral]
    rfl
  | @cons spelling body text c first others ih =>
    rw [List.append_assoc]
    exact readLiteral_letter (readLetter_of_spelling first) ih

/-- What is read of a literal is what it spells. -/
theorem body_of_readLiteral (read : readLiteral text = .ok (letters, rest)) :
    ∃ body, Body body letters ∧ text = body ++ '"' :: rest := by
  fun_induction readLiteral text generalizing letters rest with
  | case1 => cases read
  | case2 text after close =>
    simp only [Except.ok.injEq, Prod.mk.injEq] at read
    obtain ⟨rfl, rfl⟩ := read
    exact ⟨[], .nil, close_of_readLetter close⟩
  | case3 => cases read
  | case4 text c after letterRead shorter more next inner ih =>
    simp only [Except.ok.injEq, Prod.mk.injEq] at read
    obtain ⟨rfl, rfl⟩ := read
    obtain ⟨spelling, spelled, rfl⟩ := spelling_of_readLetter letterRead
    obtain ⟨body, others, rfl⟩ := ih inner
    exact ⟨spelling ++ body, .cons spelled others, (List.append_assoc ..).symm⟩

theorem skipBlanks_behind {blanks : List Char} (blank : ∀ c ∈ blanks, isBlank c = true) :
    skipBlanks (blanks ++ rest) = skipBlanks rest :=
  List.dropWhile_append_of_pos blank

/-- Only a quote begins a string. -/
theorem literal_of_readHeadHere (read : readHeadHere text = .ok (.string letters, rest)) :
    ∃ after, text = '"' :: after ∧ readLiteral after = .ok (letters, rest) := by
  have other : ∀ {α : Type} {found : Except Failure α} {head : α → Head × List Char},
      (∀ value, (head value).1 ≠ .string letters) → found.map head ≠ .ok (.string letters, rest) := by
    intro α found head apart mapped
    obtain ⟨value, -, same⟩ := map_eq_ok_iff.mp mapped
    exact apart value (congrArg Prod.fst same)
  unfold readHeadHere at read
  split at read
  · cases read
  · exact absurd read (other fun _ => Head.noConfusion)
  · exact absurd read (other fun _ => Head.noConfusion)
  · exact absurd read (other fun _ => Head.noConfusion)
  · rename_i after
    obtain ⟨⟨found, later⟩, literal, same⟩ := map_eq_ok_iff.mp read
    cases same
    exact ⟨after, rfl, literal⟩
  · cases read
  · cases read
  · split at read
    · exact absurd read (other fun _ => Head.noConfusion)
    · cases read

theorem literal_of_readString (read : readString text = .ok (letters, rest)) :
    ∃ after, skipBlanks text = '"' :: after ∧ readLiteral after = .ok (letters, rest) := by
  unfold readString at read
  split at read
  · cases read
  · rename_i found after head
    cases read
    exact literal_of_readHeadHere head
  · cases read

/-- A string is a literal behind blanks. -/
theorem readString_iff : readString text = .ok (letters, rest) ↔
    ∃ blanks body, (∀ c ∈ blanks, isBlank c = true) ∧ Body body letters ∧
      text = blanks ++ '"' :: (body ++ '"' :: rest) := by
  constructor
  · intro read
    obtain ⟨after, behind, literal⟩ := literal_of_readString read
    obtain ⟨body, spelled, rfl⟩ := body_of_readLiteral literal
    refine ⟨text.takeWhile isBlank, body, fun c member => List.mem_takeWhile_imp member, spelled, ?_⟩
    rw [← behind]
    exact List.takeWhile_append_dropWhile.symm
  · rintro ⟨blanks, body, blank, spelled, rfl⟩
    have behind : skipBlanks (blanks ++ '"' :: (body ++ '"' :: rest)) = '"' :: (body ++ '"' :: rest) := by
      rw [skipBlanks_behind blank]
      rfl
    have head : readHead (blanks ++ '"' :: (body ++ '"' :: rest)) = .ok (.string letters, rest) := by
      rw [readHead, behind]
      simp only [readHeadHere, readLiteral_of_body spelled]
      rfl
    rw [readString, head]

theorem readEnd_iff {α : Type} {found wanted : α} :
    readEnd found text = .ok wanted ↔ (∀ c ∈ text, isBlank c = true) ∧ found = wanted := by
  have empty : skipBlanks text = [] ↔ ∀ c ∈ text, isBlank c = true := List.dropWhile_eq_nil_iff
  rw [← empty]
  unfold readEnd
  split
  · rename_i ended
    simp [ended]
  · rename_i notEmpty
    rw [iff_false_intro notEmpty]
    simp [malformed]

/-- What is written for a character is one of its spellings. -/
theorem spelling_writtenChar (c : Char) : Spelling (writtenChar c) c := by
  have escape : ∀ known ∈ shortEscapes, c = known.2 → Spelling ['\\', known.1] c := by
    rintro known member rfl
    exact .short member
  unfold writtenChar
  split_ifs with quote backslash backspace formFeed lineFeed carriageReturn tab control
  · exact escape ('"', '"') (by decide) quote
  · exact escape ('\\', '\\') (by decide) backslash
  · exact escape ('b', '\x08') (by decide) backspace
  · exact escape ('f', '\x0c') (by decide) formFeed
  · exact escape ('n', '\n') (by decide) lineFeed
  · exact escape ('r', '\r') (by decide) carriageReturn
  · exact escape ('t', '\t') (by decide) tab
  · have low : (Hex.lowHalf (UInt8.ofNat c.toNat)).val = c.toNat % 16 := by
      simp [Hex.lowHalf, UInt8.toNat_ofNat']
    have high : (Hex.highHalf (UInt8.ofNat c.toNat)).val = c.toNat / 16 := by
      simp [Hex.highHalf, UInt8.toNat_ofNat']
      omega
    have digits : fourDigits? '0' '0' (Hex.digitChar .lower (Hex.highHalf (UInt8.ofNat c.toNat)))
        (Hex.digitChar .lower (Hex.lowHalf (UInt8.ofNat c.toNat))) = some c.toNat := by
      have zero : Hex.digit? '0' = some Hex.noBits := by decide
      simp [fourDigits?, zero, Hex.noBits, low, high]
      omega
    exact .unit (fourDigits_iff.mp digits)
  · exact .plain quote backslash (Nat.not_lt.mp control)

theorem body_of_written (text : List Char) : Body (text.flatMap writtenChar) text := by
  induction text with
  | nil => exact .nil
  | cons c rest ih => exact .cons (spelling_writtenChar c) ih

/-- A text that is written as it is spells itself. -/
theorem body_of_plain {text : List Char} (plain : text.flatMap writtenChar = text) : Body text text := by
  have written := body_of_written text
  rwa [plain] at written

end HexPattern.StringLiterals
