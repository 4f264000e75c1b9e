import HexPattern.Json.Value

/-!
The frame of lists and objects: what separates elements and members, and where they end. A comma must be
followed by another part.
-/

namespace HexPattern.Json

/-- Where the reader of a list or an object stands. -/
inductive Place where
  /-- Right after the opening bracket. -/
  | opened
  /-- After an element or a member. -/
  | inside
deriving DecidableEq, Repr

/-- Goes to the next element of a list: gives the text where it begins, or none at the closing bracket. -/
def nextElement (place : Place) (text : List Char) : Except Failure (Option (List Char)) :=
  match place, skipBlanks text with
  | _, [] => cutShort .list
  | _, ']' :: _ => .ok none
  | .opened, start => .ok (some start)
  | .inside, ',' :: rest =>
    match skipBlanks rest with
    | [] => cutShort .value
    | ']' :: after => malformed .trailingComma (']' :: after)
    | start => .ok (some start)
  | .inside, rest => malformed .expectedListEnd rest

/-- Reads the closing bracket of a list that has no place for more elements. -/
def closeList (text : List Char) : Except Failure (List Char) :=
  match skipBlanks text with
  | [] => cutShort .list
  | ']' :: rest => .ok rest
  | rest => malformed .trailingCharacters rest

/-- Reads the key of the next member of an object; there is none at the closing bracket, which is read,
too. -/
def nextKey (place : Place) (text : List Char) : Except Failure (Option (List Char) × List Char) :=
  match place, skipBlanks text with
  | _, [] => cutShort .object
  | _, '\x7d' :: rest => .ok (none, rest)
  | .opened, '"' :: rest => (readLiteral rest).map fun (key, rest) => (some key, rest)
  | .opened, rest => malformed .keyNotString rest
  | .inside, ',' :: rest =>
    match skipBlanks rest with
    | [] => cutShort .value
    | '"' :: rest => (readLiteral rest).map fun (key, rest) => (some key, rest)
    | '\x7d' :: after => malformed .trailingComma ('\x7d' :: after)
    | other => malformed .keyNotString other
  | .inside, rest => malformed .expectedObjectEnd rest

/-- Reads the colon between a key and its value. -/
def readColon (text : List Char) : Except Failure (List Char) :=
  match skipBlanks text with
  | [] => cutShort .object
  | ':' :: rest => .ok rest
  | rest => malformed .expectedColon rest

private theorem key_shorter {text rest : List Char} {key : Option (List Char)} {bound : Nat}
    (h : ((readLiteral text).map fun (key, rest) => (some key, rest)) = .ok (key, rest))
    (within : text.length ≤ bound) : rest.length < bound := by
  obtain ⟨⟨letters, after⟩, read, equal⟩ := map_eq_ok_iff.mp h
  have := readLiteral_shorter read
  obtain ⟨rfl, rfl⟩ := Prod.mk.inj equal
  omega

theorem nextKey_shorter {place : Place} {text rest : List Char} {key : Option (List Char)}
    (h : nextKey place text = .ok (key, rest)) : rest.length < text.length := by
  have blanks := skipBlanks_length_le text
  unfold nextKey at h
  split at h
  · simp [cutShort] at h
  · rename_i front
    simp only [Except.ok.injEq, Prod.mk.injEq] at h
    simp only [front, List.length_cons] at blanks
    rw [← h.2]
    omega
  · rename_i front
    simp only [front, List.length_cons] at blanks
    exact key_shorter h (by omega)
  · simp [malformed] at h
  · rename_i after front
    have inner := skipBlanks_length_le after
    simp only [front, List.length_cons] at blanks
    split at h
    · simp [cutShort] at h
    · rename_i literal
      simp only [literal, List.length_cons] at inner
      exact key_shorter h (by omega)
    · simp [malformed] at h
    · simp [malformed] at h
  · simp [malformed] at h

theorem readColon_shorter {text rest : List Char} (h : readColon text = .ok rest) :
    rest.length < text.length := by
  have blanks := skipBlanks_length_le text
  unfold readColon at h
  split at h
  · simp [cutShort] at h
  · rename_i front
    simp only [Except.ok.injEq] at h
    simp only [front, List.length_cons] at blanks
    rw [← h]
    omega
  · simp [malformed] at h

end HexPattern.Json
