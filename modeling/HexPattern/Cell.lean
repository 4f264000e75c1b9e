import HexPattern.Fault
import HexPattern.Nibble

/-!
A cell of a pattern: two nibbles that together describe one byte. A cell without an open half stands for
exactly one byte, and `value?_ofByte` says that the cell of a byte stands for that byte.
-/

namespace HexPattern

/-- The description of one byte by its two halves. -/
@[ext] structure Cell where
  /-- The upper four bits. -/
  high : Nibble
  /-- The lower four bits. -/
  low : Nibble
deriving DecidableEq, Hashable, Repr

namespace Cell

/-- Accepts every byte. -/
def any : Cell := ⟨.any, .any⟩

/-- Accepts exactly one byte. -/
def ofByte (byte : UInt8) : Cell := ⟨.fixed (Hex.highHalf byte), .fixed (Hex.lowHalf byte)⟩

/-- Whether a half is open. -/
def hasWildcard (cell : Cell) : Bool := cell.high.isWildcard || cell.low.isWildcard

/-- Compares both halves of a byte. -/
def accepts (cell : Cell) (byte : UInt8) : Bool :=
  cell.high.accepts (byte >>> 4) && cell.low.accepts byte

/-- The only byte accepted, if both halves are fixed. -/
def value? (cell : Cell) : Option UInt8 :=
  match cell.high, cell.low with
  | .fixed high, .fixed low => some (Hex.join high low)
  | _, _ => none

/-- The only byte accepted; a cell with an open half has none. -/
def value (cell : Cell) : Except Fault UInt8 :=
  match cell.value? with
  | none => .error .noValue
  | some byte => .ok byte

/-- The bits of the byte that the cell looks at. -/
def mask (cell : Cell) : UInt8 := Hex.join cell.high.mask cell.low.mask

/-- The value of those bits, all others being zero. -/
def maskedValue (cell : Cell) : UInt8 := Hex.join cell.high.bits cell.low.bits

/-- The written form, the upper half first. -/
def chars (letters : LetterCase) (cell : Cell) : List Char :=
  [cell.high.char letters, cell.low.char letters]

/-- The written form as a text. -/
def text (letters : LetterCase) (cell : Cell) : String := String.ofList (cell.chars letters)

@[simp] theorem value?_ofByte (byte : UInt8) : (ofByte byte).value? = some byte := by
  simp [ofByte, value?]

theorem value?_eq_none_iff (cell : Cell) : cell.value? = none ↔ cell.hasWildcard = true := by
  rcases cell with ⟨high, low⟩
  cases high <;> cases low <;> simp [value?, hasWildcard, Nibble.isWildcard]

end Cell

end HexPattern
