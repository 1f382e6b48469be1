import NetSurvey.Number.Decimal
import NetSurvey.Number.Shortest

/-!
# Numbers

A number is an integer or a double, and the two are kept apart: a time given as `3` stays an
integer. Where both meet, the integer is first taken to the nearest double.
-/

namespace NetSurvey

/-- An integer or a double. -/
inductive Number where
  | int (n : Int)
  | float (x : Float)
deriving Inhabited, Repr, DecidableEq

/-- Why a calculation has no result. -/
inductive ArithmeticError where
  /-- An integer is beyond every double. -/
  | integerTooLarge
  /-- The quotient of two integers is beyond every double. -/
  | quotientTooLarge
  /-- An infinite value has no whole part. -/
  | wholeOfInfinity
  /-- What is not a number has no whole part. -/
  | wholeOfNaN
deriving DecidableEq, Repr

/-- What is said about a calculation without a result. -/
def ArithmeticError.message : ArithmeticError → String
  | .integerTooLarge => "int too large to convert to float"
  | .quotientTooLarge => "integer division result too large for a float"
  | .wholeOfInfinity => "cannot convert float infinity to integer"
  | .wholeOfNaN => "cannot convert float NaN to integer"

namespace Number

/-- Doubles are written positionally from four places after the point up to sixteen before it, and
exponents have two digits at least. -/
def layout : Decimal.Layout := ⟨-4, 16, 2⟩

/-- The text of a number. -/
def text : Number → String
  | int n => toString n
  | float x => Decimal.renderFloat layout x

/-- Whether a number compares greater than zero. -/
def isPositive : Number → Bool
  | int n => 0 < n
  | float x => 0 < x

/-- Whether a number compares equal to zero. -/
def isZero : Number → Bool
  | int n => n == 0
  | float x => x == 0

/-- The nearest double. -/
def toFloat : Number → Except ArithmeticError Float
  | int n =>
    match Binary.ofInt? n with
    | some x => .ok x
    | none => .error .integerTooLarge
  | float x => .ok x

/-- The difference of two numbers. -/
def sub : Number → Number → Except ArithmeticError Number
  | int a, int b => .ok (int (a - b))
  | a, b => do return float ((← a.toFloat) - (← b.toFloat))

/-- A number with a fixed number of places. -/
def fixed (places : Nat) (a : Number) : Except ArithmeticError String := do
  return Decimal.fixed places (← a.toFloat)

/-- The quotient of an integer and a number, as a double. Two integers are divided exactly and
rounded once. -/
def quotient (n : Int) : Number → Except ArithmeticError Float
  | int d =>
    match Binary.nearest? ((n < 0) != (d < 0)) n.natAbs d.natAbs with
    | some x => .ok x
    | none => .error .quotientTooLarge
  | float d => do return (← (int n).toFloat) / d

/-- The whole part of a double. -/
def truncate (x : Float) : Except ArithmeticError Int :=
  match Binary.decode x with
  | .nan => .error .wholeOfNaN
  | .infinite _ => .error .wholeOfInfinity
  | .finite negative m e =>
    let w := Binary.wholePart m e
    .ok (if negative then -(w : Int) else w)

/-! ### Comparing -/

/-- How an integer stands to a finite double `m * 2 ^ e` or its negative. -/
def compareFinite (n : Int) (negative : Bool) (m : Nat) (e : Int) : Ordering :=
  let x : Int := if negative then -(m : Int) else m
  if 0 ≤ e then compare n (x * Nat.pow 2 e.toNat) else compare (n * Nat.pow 2 (-e).toNat) x

/-- How an integer stands to a double, exactly; nothing if the double is not a number. -/
def compareInt (n : Int) (x : Float) : Option Ordering :=
  match Binary.decode x with
  | .nan => none
  | .infinite negative => some (if negative then .gt else .lt)
  | .finite negative m e => some (compareFinite n negative m e)

/-- Whether a number is less than another one. What is not a number is never less. -/
def less : Number → Number → Bool
  | int a, int b => a < b
  | int a, float y => compareInt a y == some .lt
  | float x, int b => compareInt b x == some .gt
  | float x, float y => x < y

/-- Whether two numbers are equal. What is not a number is never equal. -/
def same : Number → Number → Bool
  | int a, int b => a == b
  | int a, float y => compareInt a y == some .eq
  | float x, int b => compareInt b x == some .eq
  | float x, float y => x == y

end Number

end NetSurvey
