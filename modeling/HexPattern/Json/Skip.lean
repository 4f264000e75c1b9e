import HexPattern.Json.Value

/-!
Passing over a value without keeping it. The open brackets are held in a list, so nesting has no limit,
and each step takes something off the text. Numbers and strings are checked for their form alone: any
magnitude and any code unit will do.
-/

namespace HexPattern.Json

/-- The kinds of open bracket. -/
inductive Frame where
  | list
  | object
deriving DecidableEq, Repr

/-- What is due next, with the open brackets around it, the innermost first. -/
inductive Skip where
  /-- Nothing: the value is complete. -/
  | done
  /-- A value. -/
  | value (frames : List Frame)
  /-- A first part of what the bracket encloses, or its end. -/
  | first (frame : Frame) (outer : List Frame)
  /-- A key of an object. -/
  | key (outer : List Frame)
  /-- The colon after a key. -/
  | colon (outer : List Frame)
  /-- A comma or the closing bracket. -/
  | next (frame : Frame) (outer : List Frame)
deriving DecidableEq, Repr

/-- The character that closes a bracket. -/
def Frame.closing : Frame → Char
  | list => ']'
  | object => '\x7d'

/-- What a text lacks that ends inside a bracket. -/
def Frame.unfinished : Frame → Unfinished
  | list => .list
  | object => .object

/-- What is wrong with a character that is neither a comma nor the closing bracket. -/
def Frame.expectedEnd : Frame → Malformation
  | list => .expectedListEnd
  | object => .expectedObjectEnd

namespace Skip

/-- What is due after a complete value. -/
def after : List Frame → Skip
  | [] => done
  | frame :: outer => next frame outer

/-- What is due after a comma inside a bracket. -/
def afterComma : Frame → List Frame → Skip
  | .list, outer => value (.list :: outer)
  | .object, outer => key outer

/-- Passes over the form of a number. -/
def number (text : List Char) : Except Failure (List Char) :=
  match readNumeral text with
  | .error rest => malformed .invalidNumber rest
  | .ok (_, rest) => .ok rest

/-- Passes over a scalar or an opening bracket. -/
def valueStep (frames : List Frame) (text : List Char) : Except Failure (Skip × List Char) :=
  match text with
  | [] => cutShort .value
  | 'n' :: rest => (readWord ['u', 'l', 'l'] rest).map (after frames, ·)
  | 't' :: rest => (readWord ['r', 'u', 'e'] rest).map (after frames, ·)
  | 'f' :: rest => (readWord ['a', 'l', 's', 'e'] rest).map (after frames, ·)
  | '"' :: rest => (skipLiteral rest).map (after frames, ·)
  | '[' :: rest => .ok (first .list frames, rest)
  | '\x7b' :: rest => .ok (first .object frames, rest)
  | c :: rest =>
    if c = '-' || c.isDigit then (number (c :: rest)).map (after frames, ·)
    else malformed .expectedValue (c :: rest)

/-- Passes over a key. -/
def keyStep (outer : List Frame) (text : List Char) : Except Failure (Skip × List Char) :=
  match text with
  | [] => cutShort .object
  | '"' :: rest => (skipLiteral rest).map (colon outer, ·)
  | c :: rest => malformed .keyNotString (c :: rest)

/-- Passes over a first part: the end of the bracket, or what would stand after a comma. -/
def firstStep (frame : Frame) (outer : List Frame) (text : List Char) :
    Except Failure (Skip × List Char) :=
  match text with
  | [] => cutShort frame.unfinished
  | c :: rest =>
    if c = frame.closing then .ok (after outer, rest)
    else match frame with
      | .list => valueStep (.list :: outer) (c :: rest)
      | .object => keyStep outer (c :: rest)

/-- Passes over the colon after a key. -/
def colonStep (outer : List Frame) (text : List Char) : Except Failure (Skip × List Char) :=
  match text with
  | [] => cutShort .object
  | ':' :: rest => .ok (value (.object :: outer), rest)
  | c :: rest => malformed .expectedColon (c :: rest)

/-- Passes over a comma or a closing bracket. -/
def nextStep (frame : Frame) (outer : List Frame) (text : List Char) :
    Except Failure (Skip × List Char) :=
  match text with
  | [] => cutShort frame.unfinished
  | c :: rest =>
    if c = ',' then .ok (afterComma frame outer, rest)
    else if c = frame.closing then .ok (after outer, rest)
    else malformed frame.expectedEnd (c :: rest)

/-- Passes over what is due. -/
def step (due : Skip) (text : List Char) : Except Failure (Skip × List Char) :=
  match due with
  | done => .ok (done, text)
  | value frames => valueStep frames (skipBlanks text)
  | first frame outer => firstStep frame outer (skipBlanks text)
  | key outer => keyStep outer (skipBlanks text)
  | colon outer => colonStep outer (skipBlanks text)
  | next frame outer => nextStep frame outer (skipBlanks text)

theorem number_shorter {text rest : List Char} (h : number text = .ok rest) :
    rest.length < text.length := by
  unfold number at h
  split at h
  · simp [malformed] at h
  · rename_i read
    simp only [Except.ok.injEq] at h
    exact h ▸ readNumeral_shorter read

private theorem map_shorter {read : Except Failure (List Char)} {bound : Nat} {due found : Skip}
    {rest : List Char} (h : read.map (due, ·) = .ok (found, rest))
    (shorter : ∀ after, read = .ok after → after.length < bound) : rest.length < bound := by
  obtain ⟨after, found, equal⟩ := map_eq_ok_iff.mp h
  obtain ⟨rfl, rfl⟩ := Prod.mk.inj equal
  exact shorter after found

private theorem word_shorter {word text : List Char} {c : Char} (after : List Char)
    (h : readWord word text = .ok after) : after.length < (c :: text).length :=
  Nat.lt_succ_of_le (readWord_le h)

private theorem literal_shorter {text : List Char} {c : Char} (after : List Char)
    (h : skipLiteral text = .ok after) : after.length < (c :: text).length :=
  Nat.lt_succ_of_lt (skipLiteral_shorter h)

theorem valueStep_shorter {frames : List Frame} {text rest : List Char} {due : Skip}
    (h : valueStep frames text = .ok (due, rest)) : rest.length < text.length := by
  unfold valueStep at h
  split at h
  · simp [cutShort] at h
  · exact map_shorter h word_shorter
  · exact map_shorter h word_shorter
  · exact map_shorter h word_shorter
  · exact map_shorter h literal_shorter
  · simp only [Except.ok.injEq, Prod.mk.injEq] at h
    simp [← h.2]
  · simp only [Except.ok.injEq, Prod.mk.injEq] at h
    simp [← h.2]
  · split at h
    · exact map_shorter h fun _ => number_shorter
    · simp [malformed] at h

theorem keyStep_shorter {outer : List Frame} {text rest : List Char} {due : Skip}
    (h : keyStep outer text = .ok (due, rest)) : rest.length < text.length := by
  unfold keyStep at h
  split at h
  · simp [cutShort] at h
  · exact map_shorter h literal_shorter
  · simp [malformed] at h

theorem firstStep_shorter {frame : Frame} {outer : List Frame} {text rest : List Char} {due : Skip}
    (h : firstStep frame outer text = .ok (due, rest)) : rest.length < text.length := by
  unfold firstStep at h
  split at h
  · simp [cutShort] at h
  · split at h
    · simp only [Except.ok.injEq, Prod.mk.injEq] at h
      simp [← h.2]
    · split at h
      · exact valueStep_shorter h
      · exact keyStep_shorter h

theorem colonStep_shorter {outer : List Frame} {text rest : List Char} {due : Skip}
    (h : colonStep outer text = .ok (due, rest)) : rest.length < text.length := by
  unfold colonStep at h
  split at h
  · simp [cutShort] at h
  · simp only [Except.ok.injEq, Prod.mk.injEq] at h
    simp [← h.2]
  · simp [malformed] at h

theorem nextStep_shorter {frame : Frame} {outer : List Frame} {text rest : List Char} {due : Skip}
    (h : nextStep frame outer text = .ok (due, rest)) : rest.length < text.length := by
  unfold nextStep at h
  split at h
  · simp [cutShort] at h
  · split at h
    · simp only [Except.ok.injEq, Prod.mk.injEq] at h
      simp [← h.2]
    · split at h
      · simp only [Except.ok.injEq, Prod.mk.injEq] at h
        simp [← h.2]
      · simp [malformed] at h

theorem step_shorter {due later : Skip} {text rest : List Char} (pending : due ≠ done)
    (h : step due text = .ok (later, rest)) : rest.length < text.length := by
  have blanks := skipBlanks_length_le text
  cases due with
  | done => exact absurd rfl pending
  | value frames => exact Nat.lt_of_lt_of_le (valueStep_shorter h) blanks
  | first frame outer => exact Nat.lt_of_lt_of_le (firstStep_shorter h) blanks
  | key outer => exact Nat.lt_of_lt_of_le (keyStep_shorter h) blanks
  | colon outer => exact Nat.lt_of_lt_of_le (colonStep_shorter h) blanks
  | next frame outer => exact Nat.lt_of_lt_of_le (nextStep_shorter h) blanks

/-- Passes over everything that is due. -/
def run (due : Skip) (text : List Char) : Except Failure (List Char) :=
  if pending : due = done then .ok text
  else
    match h : step due text with
    | .error failure => .error failure
    | .ok (later, rest) =>
      have : rest.length < text.length := step_shorter pending h
      run later rest
termination_by text.length

theorem run_le {due : Skip} {text rest : List Char} (h : run due text = .ok rest) :
    rest.length ≤ text.length := by
  fun_induction run due text with
  | case1 =>
    simp only [Except.ok.injEq] at h
    simp [h]
  | case2 => simp at h
  | case3 due text pending later after stepped shorter ih =>
    have := ih h
    omega

end Skip

/-- Passes over one value. -/
def skipValue (text : List Char) : Except Failure (List Char) := Skip.run (.value []) text

theorem skipValue_le {text rest : List Char} (h : skipValue text = .ok rest) :
    rest.length ≤ text.length :=
  Skip.run_le h

end HexPattern.Json
