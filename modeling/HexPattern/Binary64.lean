/-!
Numbers in the double format, worked out in exact arithmetic. A number is a significand times a power of
two; a ratio is rounded to the nearest such number, a half going to the even significand. A number is
written with the fewest decimal digits that no other number of the format lies nearer to.
-/

namespace HexPattern

/-- A finite number of the double format without its sign, `significand * 2 ^ exponent`. -/
structure Binary64 where
  significand : Nat
  exponent : Int
deriving DecidableEq, Repr

namespace Binary64

/-- The number zero. -/
def zero : Binary64 := ⟨0, -1074⟩

/-- The ratio of two numbers divided by a power of two. -/
def scaled (numerator denominator : Nat) (exponent : Int) : Nat × Nat :=
  if 0 ≤ exponent then (numerator, denominator * Nat.pow 2 exponent.toNat)
  else (numerator * Nat.pow 2 (-exponent).toNat, denominator)

/-- The quotient rounded to the nearest integer, a half going to the even one. -/
def roundDiv (numerator denominator : Nat) : Nat :=
  let quotient := numerator / denominator
  let twice := 2 * (numerator % denominator)
  if twice > denominator ∨ (twice = denominator ∧ quotient % 2 = 1) then quotient + 1 else quotient

/-- The largest power of two that is not above a positive ratio, as its exponent. -/
def floorLog2 (numerator denominator : Nat) : Int :=
  let guess : Int := (Nat.log2 numerator : Int) - Nat.log2 denominator
  let (n, d) := scaled numerator denominator guess
  if d ≤ n then guess else guess - 1

/-- The number of the format nearest to a ratio, if the ratio is not too large for it. -/
def ofRatio? (numerator denominator : Nat) : Option Binary64 :=
  if numerator = 0 then some zero
  else
    let exponent := max (floorLog2 numerator denominator - 52) (-1074)
    let (n, d) := scaled numerator denominator exponent
    let significand := roundDiv n d
    let (significand, exponent) :=
      if significand = Nat.pow 2 53 then (Nat.pow 2 52, exponent + 1) else (significand, exponent)
    if exponent ≤ 971 then some ⟨significand, exponent⟩ else none

/-- The number as a ratio. -/
def toRatio (x : Binary64) : Nat × Nat :=
  if 0 ≤ x.exponent then (x.significand * Nat.pow 2 x.exponent.toNat, 1)
  else (x.significand, Nat.pow 2 (-x.exponent).toNat)

/-- The rounded product. -/
def mul? (x y : Binary64) : Option Binary64 :=
  ofRatio? (x.toRatio.1 * y.toRatio.1) (x.toRatio.2 * y.toRatio.2)

/-- The rounded quotient. -/
def div? (x y : Binary64) : Option Binary64 :=
  ofRatio? (x.toRatio.1 * y.toRatio.2) (x.toRatio.2 * y.toRatio.1)

/-- The number nearest to a power of ten. -/
def powerOfTen? (exponent : Nat) : Option Binary64 := ofRatio? (Nat.pow 10 exponent) 1

/-- A decimal significand times a power of ten, each operand and each result being rounded. Powers beyond
the range of the format are applied in two steps when they divide, and are refused when they multiply. -/
def ofDecimal? (significand : Nat) (exponent : Int) : Option Binary64 := do
  let x ← ofRatio? significand 1
  if 0 ≤ exponent then
    if exponent ≤ 308 then mul? x (← powerOfTen? exponent.toNat)
    else if x.significand = 0 then some x else none
  else
    let power := (-exponent).toNat
    if power ≤ 308 then div? x (← powerOfTen? power)
    else if power ≤ 616 then div? (← div? x (← powerOfTen? 308)) (← powerOfTen? (power - 308))
    else some zero

/-- The order of `a * 10 ^ decimal` and `b * 2 ^ binary`. -/
def compareScaled (a : Nat) (decimal : Int) (b : Nat) (binary : Int) : Ordering :=
  compare (a * Nat.pow 10 decimal.toNat * Nat.pow 2 (-binary).toNat)
    (b * Nat.pow 2 binary.toNat * Nat.pow 10 (-decimal).toNat)

/-- Whether a decimal reads back as the number: it lies between the midpoints to both neighbours, which
themselves count when the significand is even. -/
def readsBack (x : Binary64) (digits : Nat) (exponent : Int) : Bool :=
  let below := if x.significand = Nat.pow 2 52 ∧ -1074 < x.exponent then 1 else 2
  let low := compareScaled digits exponent (4 * x.significand - below) (x.exponent - 2)
  let high := compareScaled digits exponent (4 * x.significand + 2) (x.exponent - 2)
  if x.significand % 2 = 0 then low.isGE && high.isLE else low.isGT && high.isLT

/-- The multiple of a power of ten that reads back as the number and is nearest to it. -/
def nearest? (x : Binary64) (exponent : Int) : Option Nat :=
  let (n, d) := x.toRatio
  let floor := n * Nat.pow 10 (-exponent).toNat / (d * Nat.pow 10 exponent.toNat)
  match x.readsBack floor exponent, x.readsBack (floor + 1) exponent with
  | false, false => none
  | true, false => some floor
  | false, true => some (floor + 1)
  | true, true =>
    match compareScaled (2 * floor + 1) exponent (2 * x.significand) x.exponent with
    | .gt => some floor
    | .lt => some (floor + 1)
    | .eq => if floor % 2 = 0 then some floor else some (floor + 1)

/-- Tries ever finer powers of ten, the given number of times at most. -/
def shortestFrom (x : Binary64) (exponent : Int) : Nat → Nat × Int
  | 0 => (0, 0)
  | tries + 1 =>
    match x.nearest? exponent with
    | some digits => (digits, exponent)
    | none => shortestFrom x (exponent - 1) tries

/-- The shortest decimal that reads back as the number, as digits and a power of ten. -/
def shortest (x : Binary64) : Nat × Int := shortestFrom x 309 650

/-- The number in decimal: with a point where its leading digit stands at most sixteen places before or
five after the point, and with an exponent otherwise. -/
def text (x : Binary64) : String :=
  if x.significand = 0 then "0.0"
  else
    let (number, exponent) := x.shortest
    let digits := Nat.toDigits 10 number
    let point : Int := digits.length + exponent
    if 0 ≤ exponent ∧ point ≤ 16 then
      String.ofList (digits ++ List.replicate exponent.toNat '0') ++ ".0"
    else if 0 < point ∧ point ≤ 16 then
      String.ofList (digits.take point.toNat) ++ "." ++ String.ofList (digits.drop point.toNat)
    else if -5 < point ∧ point ≤ 0 then
      "0." ++ String.ofList (List.replicate (-point).toNat '0' ++ digits)
    else
      let fraction := if digits.length ≤ 1 then [] else '.' :: digits.drop 1
      let sign := if 0 < point then "+" else "-"
      String.ofList (digits.take 1 ++ fraction) ++ "e" ++ sign ++ toString (point - 1).natAbs

end Binary64

end HexPattern
