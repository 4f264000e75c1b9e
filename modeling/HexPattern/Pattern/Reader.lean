import HexPattern.Pattern.Basic
import HexPattern.Text.Blank
import HexPattern.Log

/-!
Reading a pattern from text. The reader passes over blanks, takes one character for the upper half of a
cell and the next one for its lower half; a blank, a question mark or the end of the text in that place
leaves the lower half open, and the blank is used up. `nextCell_shorter` says that each cell read uses up
text, so reading ends. What the reader has to report is a function of what it has read: one record
for each cell, then one for the outcome.
-/

namespace HexPattern

/-- The text still to be read and the number of characters read before it. -/
structure Cursor where
  position : Nat
  rest : List Char
deriving DecidableEq, Repr

namespace Cursor

/-- Passes over the blanks in front. -/
def skipBlanks (cursor : Cursor) : Cursor :=
  { position := cursor.position + (cursor.rest.takeWhile Text.isBlank).length
    rest := cursor.rest.dropWhile Text.isBlank }

/-- Reads the lower half of a cell: a blank or the end of the text leaves it open. -/
def lowNibble (cursor : Cursor) : Except Fault (Nibble × Cursor) :=
  match cursor.rest with
  | [] => .ok (.any, cursor)
  | c :: rest =>
    if c = '?' || Text.isBlank c then .ok (.any, ⟨cursor.position + 1, rest⟩)
    else match Nibble.ofHexChar? c with
      | none => .error (.unexpectedCharacter cursor.position c)
      | some low => .ok (low, ⟨cursor.position + 1, rest⟩)

/-- Reads the next cell; there is none when only blanks are left. -/
def nextCell (cursor : Cursor) : Except Fault (Option (Cell × Cursor)) :=
  let start := cursor.skipBlanks
  match start.rest with
  | [] => .ok none
  | c :: rest =>
    match Nibble.ofChar? c with
    | none => .error (.unexpectedCharacter start.position c)
    | some high => (lowNibble ⟨start.position + 1, rest⟩).map fun (low, next) => some (⟨high, low⟩, next)

theorem lowNibble_rest_le {cursor next : Cursor} {low : Nibble}
    (h : cursor.lowNibble = .ok (low, next)) : next.rest.length ≤ cursor.rest.length := by
  unfold lowNibble at h
  split at h
  · simp only [Except.ok.injEq, Prod.mk.injEq] at h
    simp [← h.2]
  · rename_i atChar
    split at h
    · simp only [Except.ok.injEq, Prod.mk.injEq] at h
      simp [← h.2, atChar]
    · split at h
      · simp at h
      · simp only [Except.ok.injEq, Prod.mk.injEq] at h
        simp [← h.2, atChar]

theorem nextCell_shorter {cursor next : Cursor} {cell : Cell}
    (h : cursor.nextCell = .ok (some (cell, next))) : next.rest.length < cursor.rest.length := by
  unfold nextCell at h
  simp only at h
  split at h
  · simp at h
  · rename_i c rest atChar
    split at h
    · simp at h
    · cases low : lowNibble ⟨cursor.skipBlanks.position + 1, rest⟩ with
      | error fault => simp [low, Except.map] at h
      | ok found =>
        simp only [low, Except.map, Except.ok.injEq, Option.some.injEq, Prod.mk.injEq] at h
        have fromRest : found.2.rest.length ≤ rest.length := lowNibble_rest_le low
        have toRest : (c :: rest).length ≤ cursor.rest.length := by
          rw [← atChar]
          exact (List.dropWhile_sublist _).length_le
        simp only [List.length_cons] at toRest
        rw [← h.2]
        omega

end Cursor

/-- What reading a text gave: the cells read, and the fault that ended the reading, if one did. -/
structure Reading where
  cells : List Cell
  fault? : Option Fault
deriving DecidableEq, Repr

namespace Reading

/-- Reads cells until the text ends or a fault is met. -/
def ofCursor (cursor : Cursor) : Reading :=
  match h : cursor.nextCell with
  | .error fault => ⟨[], some fault⟩
  | .ok none => ⟨[], none⟩
  | .ok (some (cell, next)) =>
    have : next.rest.length < cursor.rest.length := Cursor.nextCell_shorter h
    let tail := ofCursor next
    ⟨cell :: tail.cells, tail.fault?⟩
termination_by cursor.rest.length

/-- Reads a whole text. -/
def ofChars (text : List Char) : Reading := ofCursor ⟨0, text⟩

/-- Reads a whole text. -/
def ofText (text : String) : Reading := ofChars text.toList

/-- The pattern read, unless there was a fault. -/
def result (reading : Reading) : Except Fault Pattern :=
  match reading.fault? with
  | some fault => .error fault
  | none => .ok (.ofCells reading.cells)

/-- Reports the cells, numbered from the given index on. -/
def cellRecords (index : Nat) : List Cell → List Log.Record
  | [] => []
  | cell :: rest =>
    ⟨.trace, .reader, "unit " ++ toString index ++ ": " ++ cell.text .upper⟩
      :: cellRecords (index + 1) rest

/-- Reports the outcome of reading a text. -/
def outcomeRecord (text : String) (reading : Reading) : Log.Record :=
  ⟨.debug, .reader,
    match reading.fault? with
    | some fault => "rejected pattern " ++ Text.quoted text ++ ": " ++ fault.message
    | none =>
      if reading.cells.isEmpty then "pattern " ++ Text.quoted text ++ " contains no units"
      else "parsed pattern " ++ Text.quoted text ++ " into " ++ toString reading.cells.length
        ++ " units"⟩

/-- Everything that reading a text reports, in order. -/
def records (text : String) (reading : Reading) : List Log.Record :=
  cellRecords 0 reading.cells ++ [reading.outcomeRecord text]

end Reading

namespace Pattern

/-- Reads a pattern from characters. -/
def ofChars (text : List Char) : Except Fault Pattern := (Reading.ofChars text).result

/-- Reads a pattern from a text. -/
def ofText (text : String) : Except Fault Pattern := ofChars text.toList

end Pattern

end HexPattern
