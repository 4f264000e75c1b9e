import HexPattern.Cell

/-!
A pattern is a sequence of cells, kept with the answer to whether any of them is open. It is laid over a
stretch of bytes of its own length and matches where each cell accepts its byte; where the stretch would
leave the data there is no answer at all, which `matchesAt?_eq_none_iff` says exactly. A pattern without
open cells stands for one sequence of bytes.
-/

namespace HexPattern

/-- A sequence of cells. -/
structure Pattern where
  /-- The cells in order. -/
  cells : List Cell
  /-- Whether some cell has an open half, found out once when the pattern is put together. -/
  hasWildcards : Bool
  hasWildcards_eq : hasWildcards = cells.any Cell.hasWildcard
deriving DecidableEq, Hashable, Repr

namespace Pattern

/-- The pattern with these cells. -/
def ofCells (cells : List Cell) : Pattern := ⟨cells, cells.any Cell.hasWildcard, rfl⟩

/-- The pattern that stands for exactly these bytes. -/
def ofBytes (bytes : List UInt8) : Pattern := ofCells (bytes.map Cell.ofByte)

/-- The cells of both patterns, one after the other. -/
def append (front back : Pattern) : Pattern := ofCells (front.cells ++ back.cells)

instance : Append Pattern := ⟨append⟩

/-- The cells of all patterns in order. -/
def concat (patterns : List Pattern) : Pattern := ofCells (patterns.flatMap cells)

/-- The number of bytes that the pattern covers. -/
def length (pattern : Pattern) : Nat := pattern.cells.length

/-- Whether the pattern covers no byte. -/
def isEmpty (pattern : Pattern) : Bool := pattern.cells.isEmpty

/-- The number of cells with an open half. -/
def wildcardCount (pattern : Pattern) : Nat := pattern.cells.countP Cell.hasWildcard

/-- The bits that each cell looks at. -/
def mask (pattern : Pattern) : List UInt8 := pattern.cells.map Cell.mask

/-- The values of those bits. -/
def values (pattern : Pattern) : List UInt8 := pattern.cells.map Cell.maskedValue

/-- Whether each cell accepts the byte in its place. -/
def acceptsWindow (pattern : Pattern) (window : List UInt8) : Bool :=
  (pattern.cells.zip window).all fun (cell, byte) => cell.accepts byte

/-- Lays the pattern over the data from the offset on, if it fits. -/
def matchesAt? (pattern : Pattern) (data : List UInt8) (offset : Nat) : Option Bool :=
  if offset + pattern.length ≤ data.length then
    some (pattern.acceptsWindow ((data.drop offset).take pattern.length))
  else none

/-- Whether the pattern fits at the front of the data and matches there. -/
def matchesFront (pattern : Pattern) (data : List UInt8) : Bool :=
  (pattern.matchesAt? data 0).getD false

/-- Every offset at which the pattern fits and matches, ascending. -/
def hits (pattern : Pattern) (data : List UInt8) : List Nat :=
  (List.range (data.length + 1)).filter fun offset => pattern.matchesAt? data offset == some true

/-- The bytes of the cells from the given index on, or the index of the first open cell. -/
def cellBytes (index : Nat) : List Cell → Except Fault (List UInt8)
  | [] => .ok []
  | cell :: rest =>
    match cell.value? with
    | none => .error (.openCell index)
    | some byte => (cellBytes (index + 1) rest).map (byte :: ·)

/-- The bytes that the pattern stands for. -/
def toBytes (pattern : Pattern) : Except Fault (List UInt8) := cellBytes 0 pattern.cells

/-- The cells from one index up to, but not including, another. -/
def slice? (pattern : Pattern) (first last : Nat) : Option Pattern :=
  if first ≤ last ∧ last ≤ pattern.length then
    some (ofCells ((pattern.cells.drop first).take (last - first)))
  else none

/-- The written form: two characters a cell, one space between neighbours. -/
def chars (letters : LetterCase) (pattern : Pattern) : List Char :=
  [' '].intercalate (pattern.cells.map (Cell.chars letters))

/-- The written form as a text. -/
def text (letters : LetterCase) (pattern : Pattern) : String := String.ofList (pattern.chars letters)

/-- The indexes at which a pattern stands that has not stood before. -/
def firstIndexes (patterns : List Pattern) : List Nat :=
  patterns.zipIdx.filterMap fun (pattern, index) =>
    if (patterns.take index).contains pattern then none else some index

@[simp] theorem cells_ofCells (cells : List Cell) : (ofCells cells).cells = cells := rfl

/-- The cells are all there is to a pattern: what it says about open cells follows from them. -/
@[ext] theorem ext_cells {left right : Pattern} (same : left.cells = right.cells) : left = right := by
  obtain ⟨leftCells, leftOpen, leftOpen_eq⟩ := left
  obtain ⟨rightCells, rightOpen, rightOpen_eq⟩ := right
  subst same leftOpen_eq rightOpen_eq
  rfl

@[simp] theorem ofCells_cells (pattern : Pattern) : ofCells pattern.cells = pattern := ext_cells rfl

theorem matchesAt?_eq_none_iff {pattern : Pattern} {data : List UInt8} {offset : Nat} :
    pattern.matchesAt? data offset = none ↔ data.length < offset + pattern.length := by
  simp [matchesAt?]

theorem matchesAt?_of_fits {pattern : Pattern} {data : List UInt8} {offset : Nat}
    (fits : offset + pattern.length ≤ data.length) : pattern.matchesAt? data offset =
      some (pattern.acceptsWindow ((data.drop offset).take pattern.length)) :=
  if_pos fits

theorem fits_of_matchesAt? {pattern : Pattern} {data : List UInt8} {offset : Nat} {matched : Bool}
    (answer : pattern.matchesAt? data offset = some matched) :
    offset + pattern.length ≤ data.length := by
  refine Nat.not_lt.mp fun outside => ?_
  rw [matchesAt?_eq_none_iff.mpr outside] at answer
  cases answer

@[simp] theorem length_append (front back : Pattern) :
    (front ++ back).length = front.length + back.length :=
  List.length_append

end Pattern

end HexPattern
