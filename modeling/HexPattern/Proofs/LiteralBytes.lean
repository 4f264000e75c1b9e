import HexPattern.Proofs.CommandRuns
import HexPattern.Proofs.FirstOpenCell
import HexPattern.Proofs.RunReading
import Mathlib.Algebra.Group.Nat.Even
import Mathlib.Data.List.Basic

/-! From a text to the bytes that it spells. They are there exactly if the runs of
the text are made of pairs of digits; then each pair is a byte, the more
significant digit first. Otherwise what is reported is how many pairs of digits
come before the first unit that leaves something open, be it a question mark or
a digit without a partner. So this can be told from the text alone, and it
decides which texts a test takes for its buffer. -/
namespace HexPattern.LiteralBytes
open Text (isBlank)
open CommandRuns FirstOpenCell ReaderSemantics RunReading Session

/-- A run cut up from its start: two characters for each cell, and one for the
last cell of a run of odd length. -/
def cut : List Char → List (List Char)
  | [] => []
  | [last] => [[last]]
  | high :: low :: rest => [high, low] :: cut rest

/-- The characters of each cell of a text, in order. -/
def units (text : List Char) : List (List Char) := (runs text).flatMap cut

/-- Two hex digits. -/
def IsPair (unit : List Char) : Prop :=
  ∃ high low, unit = [high, low] ∧ IsHexDigit high ∧ IsHexDigit low

/-- A question mark among the characters, or one character alone. -/
def IsOpen (unit : List Char) : Prop := '?' ∈ unit ∨ ∃ last, unit = [last]

/-- Pairs of digits come first, as many as the index says, and then something
open. -/
structure FirstOpenUnit (text : List Char) (index : Nat) : Prop where
  here : ∃ unit, (units text)[index]? = some unit ∧ IsOpen unit
  pairsBefore : ∀ unit ∈ (units text).take index, IsPair unit

/-- The number that a hex digit stands for. -/
def digitValue (c : Char) : Nat :=
  if c ≤ '9' then c.toNat - '0'.toNat
  else if c ≤ 'F' then 10 + (c.toNat - 'A'.toNat)
  else 10 + (c.toNat - 'a'.toNat)

/-- Digits read in pairs, the more significant one first. -/
def pairBytes : List Char → List UInt8
  | high :: low :: rest => UInt8.ofNat (16 * digitValue high + digitValue low) :: pairBytes rest
  | _ => []

/-- What a text of a pattern spells: bytes, or the place of the first unit that is
open. -/
inductive Literal (text : List Char) : Except Fault (List UInt8) → Prop
  | bytes (noMark : '?' ∉ text) (even : ∀ run ∈ runs text, Even run.length) :
      Literal text (.ok ((runs text).flatMap pairBytes))
  | openUnit {index : Nat} (first : FirstOpenUnit text index) :
      Literal text (.error (.openCell index))

/-- The cell that a unit gives. -/
def unitCell : List Char → Cell
  | [last] => ⟨nibbleOf last, .any⟩
  | [high, low] => ⟨nibbleOf high, nibbleOf low⟩
  | _ => .any

variable {text run unit : List Char} {c high low : Char} {index : Nat}

theorem flatten_cut (run : List Char) : (cut run).flatten = run := by
  induction run using cut.induct with
  | case1 => rfl
  | case2 last => rfl
  | case3 high low rest ih => simp [cut, ih]

/-- The units are all of the text but its blanks. -/
theorem flatten_units (text : List Char) :
    (units text).flatten = text.filter fun c => !isBlank c := by
  rw [← flatten_runs, units]
  induction runs text with
  | nil => rfl
  | cons run rest ih => rw [List.flatMap_cons, List.flatten_append, flatten_cut, ih, List.flatten_cons]

theorem shape_of_mem_cut (member : unit ∈ cut run) :
    (∃ last, unit = [last]) ∨ ∃ high low, unit = [high, low] := by
  induction run using cut.induct with
  | case1 => cases member
  | case2 last => exact .inl ⟨last, List.mem_singleton.mp member⟩
  | case3 high low rest ih =>
    rcases List.mem_cons.mp member with here | later
    · exact .inr ⟨high, low, here⟩
    · exact ih later

/-- A run of odd length ends with a unit of one character, and no other run has
one. -/
theorem even_iff_cut (run : List Char) :
    Even run.length ↔ ∀ unit ∈ cut run, ¬ ∃ last, unit = [last] := by
  induction run using cut.induct with
  | case1 => simp [cut]
  | case2 last => simp [cut]
  | case3 high low rest ih =>
    have two : ¬ ∃ last, [high, low] = [last] := by simp
    rw [cut, List.forall_mem_cons, and_iff_right two, ← ih]
    simp [Nat.even_add_one]

theorem pairCells_eq_cut (run : List Char) : pairCells run = (cut run).map unitCell := by
  induction run using cut.induct with
  | case1 => rfl
  | case2 last => rfl
  | case3 high low rest ih => rw [pairCells, cut, List.map_cons, ih]; rfl

/-- A legible text is read unit by unit. -/
theorem ofChars_eq_units (legible : ∀ c ∈ text, Legible c) :
    Pattern.ofChars text = .ok (.ofCells ((units text).map unitCell)) := by
  rw [ofChars_eq_runs legible, units, List.map_flatMap, funext pairCells_eq_cut]

/-- The characters of units are dark and come from the text. -/
theorem dark_of_mem_unit (member : unit ∈ units text) (inside : c ∈ unit) :
    c ∈ text ∧ isBlank c = false := by
  have shown : c ∈ (units text).flatten := List.mem_flatten.mpr ⟨unit, member, inside⟩
  rw [flatten_units] at shown
  simpa using shown

theorem mark_mem_iff : '?' ∈ text ↔ ∃ unit ∈ units text, '?' ∈ unit := by
  have dark : isBlank '?' = false := by decide
  rw [← List.mem_flatten, flatten_units, List.mem_filter]
  simp [dark]

/-- The digit of a character is the number that it stands for. -/
theorem digit_value (digit : IsHexDigit c) :
    ∃ value, Hex.digit? c = some value ∧ value.val = digitValue c := by
  have ranges := isHexDigit_iff.mp digit
  have nine : c ≤ '9' ↔ c.toNat ≤ 57 := Iff.rfl
  have six : c ≤ 'F' ↔ c.toNat ≤ 70 := Iff.rfl
  have zero : '0'.toNat = 48 ∧ 'A'.toNat = 65 ∧ 'a'.toNat = 97 := by decide
  unfold Hex.digit? digitValue
  simp only [nine, six, zero]
  rcases ranges with decimal | upper | lower
  · refine ⟨_, if_pos decimal, ?_⟩
    rw [if_pos decimal.2, Fin.val_ofNat]
    omega
  · have noDecimal : ¬ (48 ≤ c.toNat ∧ c.toNat ≤ 57) := by omega
    refine ⟨_, (if_neg noDecimal).trans (if_pos upper), ?_⟩
    rw [if_neg (by omega), if_pos upper.2, Fin.val_ofNat]
    omega
  · have noDecimal : ¬ (48 ≤ c.toNat ∧ c.toNat ≤ 57) := by omega
    have noUpper : ¬ (65 ≤ c.toNat ∧ c.toNat ≤ 70) := by omega
    refine ⟨_, (if_neg noDecimal).trans ((if_neg noUpper).trans (if_pos lower)), ?_⟩
    rw [if_neg (by omega), if_neg (by omega), Fin.val_ofNat]
    omega

/-- A character is read as a digit exactly if it is one, and as its number. -/
theorem digit_eq_some_iff {digit : Fin 16} :
    Hex.digit? c = some digit ↔ IsHexDigit c ∧ digit.val = digitValue c := by
  constructor
  · intro read
    have hex : IsHexDigit c := by
      refine Decidable.byContradiction fun other => ?_
      rw [digit_absent_iff.mpr other] at read
      cases read
    obtain ⟨found, foundRead, same⟩ := digit_value hex
    rw [read, Option.some_inj] at foundRead
    exact ⟨hex, foundRead ▸ same⟩
  · rintro ⟨hex, same⟩
    obtain ⟨found, foundRead, foundSame⟩ := digit_value hex
    rw [foundRead, Option.some_inj]
    exact Fin.ext (foundSame.trans same.symm)

theorem digitValue_lt (hex : IsHexDigit c) : digitValue c < 16 := by
  obtain ⟨digit, -, same⟩ := digit_value hex
  exact same ▸ digit.isLt

/-- Two digits are the halves of one byte. -/
theorem value_of_pair (highDigit : IsHexDigit high) (lowDigit : IsHexDigit low) :
    (unitCell [high, low]).value? =
      some (UInt8.ofNat (16 * digitValue high + digitValue low)) := by
  obtain ⟨highValue, highRead, highSame⟩ := digit_value highDigit
  obtain ⟨lowValue, lowRead, lowSame⟩ := digit_value lowDigit
  rw [← highSame, ← lowSame]
  simp [unitCell, nibbleOf, highRead, lowRead, Cell.value?, Hex.join]

/-- Only a question mark stands for an open nibble. -/
theorem nibbleOf_mark_or_digit (legible : Legible c) (dark : isBlank c = false) :
    (c = '?' ∧ (nibbleOf c).isWildcard = true) ∨ IsHexDigit c := by
  rcases legible with digit | mark | blank
  · exact .inr digit
  · refine .inl ⟨mark, ?_⟩
    rw [mark]
    rfl
  · rw [dark] at blank
    cases blank

/-- A unit of a legible text is a pair of digits, whose cell has a value, or it is
open like its cell. -/
theorem pair_or_open (legible : ∀ c ∈ text, Legible c) (member : unit ∈ units text) :
    (IsPair unit ∧ (unitCell unit).hasWildcard = false) ∨
      (IsOpen unit ∧ (unitCell unit).hasWildcard = true) := by
  have nibbles : ∀ c ∈ unit, (c = '?' ∧ (nibbleOf c).isWildcard = true) ∨ IsHexDigit c := by
    intro c inside
    obtain ⟨fromText, dark⟩ := dark_of_mem_unit member inside
    exact nibbleOf_mark_or_digit (legible c fromText) dark
  obtain ⟨run, -, inRun⟩ := List.mem_flatMap.mp member
  rcases shape_of_mem_cut inRun with ⟨last, rfl⟩ | ⟨high, low, rfl⟩
  · exact .inr ⟨.inr ⟨last, rfl⟩, by simp [unitCell, Cell.hasWildcard, Nibble.isWildcard]⟩
  · rcases nibbles high (by simp) with ⟨mark, wild⟩ | highDigit
    · exact .inr ⟨.inl (by simp [mark]), by simp [unitCell, Cell.hasWildcard, wild]⟩
    · rcases nibbles low (by simp) with ⟨mark, wild⟩ | lowDigit
      · exact .inr ⟨.inl (by simp [mark]), by simp [unitCell, Cell.hasWildcard, wild]⟩
      · refine .inl ⟨⟨high, low, rfl, highDigit, lowDigit⟩, ?_⟩
        have valued : (unitCell [high, low]).value? ≠ none := by
          rw [value_of_pair highDigit lowDigit]
          exact Option.some_ne_none _
        rwa [Ne, Cell.value?_eq_none_iff, Bool.not_eq_true] at valued

theorem not_open_of_pair (pair : IsPair unit) : ¬ IsOpen unit := by
  obtain ⟨high, low, rfl, highDigit, lowDigit⟩ := pair
  have noDigit : ¬ IsHexDigit '?' := by decide
  rintro (mark | ⟨last, same⟩)
  · simp only [List.mem_cons, List.not_mem_nil, or_false] at mark
    rcases mark with rfl | rfl
    · exact noDigit highDigit
    · exact noDigit lowDigit
  · simp at same

theorem closed_iff_pair (legible : ∀ c ∈ text, Legible c) (member : unit ∈ units text) :
    (unitCell unit).hasWildcard = false ↔ IsPair unit := by
  rcases pair_or_open legible member with ⟨pair, closed⟩ | ⟨isOpen, wild⟩
  · simp [pair, closed]
  · have noPair : ¬ IsPair unit := fun pair => not_open_of_pair pair isOpen
    simp [noPair, wild]

theorem wild_iff_open (legible : ∀ c ∈ text, Legible c) (member : unit ∈ units text) :
    (unitCell unit).hasWildcard = true ↔ IsOpen unit := by
  rcases pair_or_open legible member with ⟨pair, closed⟩ | ⟨isOpen, wild⟩
  · simp [not_open_of_pair pair, closed]
  · simp [isOpen, wild]

/-- The first open unit gives the first open cell. -/
theorem firstOpen_iff_unit (legible : ∀ c ∈ text, Legible c) :
    FirstOpen ((units text).map unitCell) index ↔ FirstOpenUnit text index := by
  have before : (∀ cell ∈ ((units text).map unitCell).take index, cell.hasWildcard = false) ↔
      ∀ unit ∈ (units text).take index, IsPair unit := by
    rw [← List.map_take, List.forall_mem_map]
    exact forall₂_congr fun unit member => closed_iff_pair legible (List.mem_of_mem_take member)
  constructor
  · rintro ⟨⟨cell, here, wild⟩, closed⟩
    rw [List.getElem?_map, Option.map_eq_some_iff] at here
    obtain ⟨unit, here, rfl⟩ := here
    have isOpen := (wild_iff_open legible (List.mem_of_getElem? here)).mp wild
    exact ⟨⟨unit, here, isOpen⟩, before.mp closed⟩
  · rintro ⟨⟨unit, here, isOpen⟩, pairs⟩
    have wild := (wild_iff_open legible (List.mem_of_getElem? here)).mpr isOpen
    refine ⟨⟨unitCell unit, ?_, wild⟩, before.mpr pairs⟩
    rw [List.getElem?_map, here, Option.map_some]

/-- Nothing is open exactly if there is no question mark and no run of odd length. -/
theorem none_open_iff (text : List Char) :
    (∀ unit ∈ units text, ¬ IsOpen unit) ↔
      '?' ∉ text ∧ ∀ run ∈ runs text, Even run.length := by
  have even : (∀ run ∈ runs text, Even run.length) ↔
      ∀ unit ∈ units text, ¬ ∃ last, unit = [last] := by
    rw [units, List.forall_mem_flatMap]
    exact forall₂_congr fun run _ => even_iff_cut run
  rw [mark_mem_iff, even]
  simp only [IsOpen, not_or, not_exists, not_and, forall_and]

theorem values_of_run (pairs : ∀ unit ∈ cut run, IsPair unit) :
    ((cut run).map unitCell).map Cell.value? = (pairBytes run).map some := by
  induction run using cut.induct with
  | case1 => rfl
  | case2 last =>
    obtain ⟨high, low, same, -⟩ := pairs [last] (by simp [cut])
    simp at same
  | case3 high low rest ih =>
    obtain ⟨here, later⟩ := List.forall_mem_cons.mp pairs
    obtain ⟨_, _, same, highDigit, lowDigit⟩ := here
    cases same
    rw [cut, pairBytes, List.map_cons, List.map_cons, List.map_cons, ih later,
      value_of_pair highDigit lowDigit]

theorem values_of_pairs (pairs : ∀ unit ∈ units text, IsPair unit) :
    ((units text).map unitCell).map Cell.value? = ((runs text).flatMap pairBytes).map some := by
  rw [units, List.map_flatMap, List.map_flatMap, List.map_flatMap]
  refine List.flatMap_congr fun run member => values_of_run fun unit inside => ?_
  exact pairs unit (List.mem_flatMap.mpr ⟨run, member, inside⟩)

/-- What is read of a legible text is what it spells. -/
theorem toBytes_iff_literal (legible : ∀ c ∈ text, Legible c) (result : Except Fault (List UInt8)) :
    (Pattern.ofCells ((units text).map unitCell)).toBytes = result ↔ Literal text result := by
  have pairs : (∀ unit ∈ units text, IsPair unit) ↔
      '?' ∉ text ∧ ∀ run ∈ runs text, Even run.length := by
    rw [← none_open_iff]
    refine forall₂_congr fun unit member => ?_
    rw [← closed_iff_pair legible member, ← wild_iff_open legible member, Bool.not_eq_true]
  cases result with
  | ok bytes =>
    rw [toBytes_eq_ok_iff, Pattern.cells_ofCells]
    constructor
    · intro values
      have found : (Pattern.ofCells ((units text).map unitCell)).toBytes = .ok bytes :=
        toBytes_eq_ok_iff.mpr values
      have closed := closed_of_toBytes found
      have all : ∀ unit ∈ units text, IsPair unit := fun unit member =>
        (closed_iff_pair legible member).mp (closed _ (List.mem_map_of_mem member))
      rw [values_of_pairs all] at values
      rw [← List.map_injective_iff.mpr (Option.some_injective _) values]
      exact .bytes (pairs.mp all).1 (pairs.mp all).2
    · rintro ⟨noMark, even⟩
      exact values_of_pairs (pairs.mpr ⟨noMark, even⟩)
  | error fault =>
    rw [toBytes_eq_error_iff, Pattern.cells_ofCells]
    simp only [firstOpen_iff_unit legible]
    constructor
    · rintro ⟨index, first, rfl⟩
      exact .openUnit first
    · intro literal
      cases literal with
      | openUnit first => exact ⟨_, first, rfl⟩

theorem ofText_toBytes_iff {text : String} (legible : ∀ c ∈ text.toList, Legible c)
    (result : Except Fault (List UInt8)) :
    (Pattern.ofText text >>= Pattern.toBytes) = result ↔ Literal text.toList result := by
  rw [Pattern.ofText, ofChars_eq_units legible]
  exact toBytes_iff_literal legible result

section

variable {letters : LetterCase} {files : Files} {text given : String} {pattern : Pattern}
  {offset : Nat} {bytes : List UInt8} {failure : Failure}

/-- With bytes to compare, a test fails for want of room only. -/
theorem failure_of_bytes (accepted : Pattern.ofText given = .ok pattern) {held : Pattern}
    (read : Pattern.ofText text = .ok held) (found : held.toBytes = .ok bytes)
    (failed : (test letters files given (.hex text) offset).result = .error failure) :
    failure = .outOfBounds pattern.length offset bytes.length := by
  have buffered : BufferRun files (.hex text) _ := .text read found
  have ran := test_run letters files given (.hex text) offset
  generalize test letters files given (.hex text) offset = run at ran failed
  cases ran with
  | badPattern refused => cases refused.symm.trans accepted
  | noBuffer _ missing => cases bufferRun_unique missing buffered
  | outside readToo heldToo _ =>
    cases readToo.symm.trans accepted
    cases bufferRun_unique heldToo buffered
    exact (Except.error.inj failed).symm
  | compared _ _ _ _ => cases failed

/-- Without bytes, a test says which cell is the first open one. -/
theorem failure_of_open {fault : Fault} (accepted : Pattern.ofText given = .ok pattern)
    {held : Pattern} (read : Pattern.ofText text = .ok held) (noBytes : held.toBytes = .error fault) :
    (test letters files given (.hex text) offset).result = .error (.openBuffer fault) := by
  rw [test_eq (.noBuffer accepted (.openText read noBytes))]

end

/-- The runs of a legible text decide whether it spells bytes and which ones, and
otherwise how many pairs of digits come before the first open unit. A test with
such a text for its buffer then fails at most for want of room, or else says
which unit it is. -/
theorem runs_decide_literal_bytes {text : String} (legible : ∀ c ∈ text.toList, Legible c) :
    (∀ result, (Pattern.ofText text >>= Pattern.toBytes) = result ↔ Literal text.toList result) ∧
    ∀ (letters : LetterCase) (files : Files) (given : String) (pattern : Pattern) (offset : Nat),
      Pattern.ofText given = .ok pattern →
        let tested := (test letters files given (.hex text) offset).result
        (∀ bytes, Literal text.toList (.ok bytes) → ∀ failure, tested = .error failure →
          failure = .outOfBounds pattern.length offset bytes.length) ∧
        ∀ index, Literal text.toList (.error (.openCell index)) →
          ∃ failure, tested = .error failure ∧
            failure.message = "buffer must not contain wildcards: " ++ ("Pattern unit " ++
              toString index ++ " contains a wildcard and has no concrete value") := by
  have literal := ofText_toBytes_iff legible
  refine ⟨literal, ?_⟩
  intro letters files given pattern offset accepted tested
  have read : Pattern.ofText text = .ok _ := ofChars_eq_units legible
  rw [read] at literal
  refine ⟨?_, ?_⟩
  · intro bytes spelled failure failed
    exact failure_of_bytes accepted read ((literal _).mpr spelled) failed
  · intro index spelled
    exact ⟨_, failure_of_open accepted read ((literal _).mpr spelled), rfl⟩

theorem lone_digit_behind_two_pairs :
    let files : Files := fun _ => .error .notFound
    let text := "a5 0F\u30007"
    (∀ c ∈ text.toList, Legible c) ∧ Literal text.toList (.error (.openCell 2)) ∧
      ∃ failure, (test .upper files "?F" (.hex text) 1).result = .error failure ∧
        failure.message = "buffer must not contain wildcards: " ++ ("Pattern unit " ++
          toString 2 ++ " contains a wildcard and has no concrete value") := by
  intro files text
  have read : Pattern.ofText "a5 0F\u30007" = .ok (.ofCells
      [⟨.fixed 10, .fixed 5⟩, ⟨.fixed 0, .fixed 15⟩, ⟨.fixed 7, .any⟩]) := by
    cbv
  have legible := legible_of_accepted read
  have spelled : (Pattern.ofText text >>= Pattern.toBytes) = .error (.openCell 2) := by
    rw [read]
    rfl
  have accepted : Pattern.ofText "?F" = .ok (.ofCells [⟨.any, .fixed 15⟩]) := by cbv
  obtain ⟨literal, decided⟩ := runs_decide_literal_bytes legible
  have openUnit := (literal _).mp spelled
  exact ⟨legible, openUnit, (decided .upper files "?F" _ 1 accepted).2 2 openUnit⟩

end HexPattern.LiteralBytes
