import HexPattern.Pattern.Basic

/-!
Recipes: patterns put together step by step. `ofRecipe_append` says that following one recipe and then
another gives the two patterns one after the other.
-/

namespace HexPattern

/-- One step of a recipe. -/
inductive Step where
  /-- One byte. -/
  | byte (value : UInt8)
  /-- Bytes in order. -/
  | bytes (values : List UInt8)
  /-- One byte of any value. -/
  | wildcard
  /-- Bytes of any value. -/
  | wildcards (count : Nat)
  /-- A byte whose upper half has the lower four bits of the given value. -/
  | high (value : UInt8)
  /-- A byte whose lower half has the lower four bits of the given value. -/
  | low (value : UInt8)
  /-- A given cell. -/
  | cell (added : Cell)
deriving DecidableEq, Repr

/-- The cells that a step adds. -/
def Step.cells : Step → List Cell
  | byte value => [Cell.ofByte value]
  | bytes values => values.map Cell.ofByte
  | wildcard => [Cell.any]
  | wildcards count => List.replicate count Cell.any
  | high value => [⟨Nibble.ofByte value, .any⟩]
  | low value => [⟨.any, Nibble.ofByte value⟩]
  | cell added => [added]

namespace Pattern

/-- The pattern that a recipe gives. -/
def ofRecipe (steps : List Step) : Pattern := ofCells (steps.flatMap Step.cells)

/-- Adds the cells of one more step. -/
def addStep (pattern : Pattern) (step : Step) : Pattern := ofCells (pattern.cells ++ step.cells)

theorem ofRecipe_append (front back : List Step) :
    ofRecipe (front ++ back) = ofRecipe front ++ ofRecipe back :=
  congrArg ofCells List.flatMap_append

end Pattern

end HexPattern
