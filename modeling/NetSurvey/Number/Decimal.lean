import NetSurvey.Number.Binary
import NetSurvey.Number.Integer
import NetSurvey.Text.Letter

/-!
# Decimal numerals and doubles

Reading: a decimal numeral with an optional fraction and exponent, or a word for an infinite value
or for what is not a number, gives the nearest double. Writing: with a fixed number of places.
-/

namespace NetSurvey.Decimal

open Text Binary

/-! ### Reading -/

/-- A decimal numeral taken apart: the value is `digits * 10 ^ exponent`, where `digits` is written
without leading zeros. -/
structure Numeral where
  digits : List Nat
  exponent : Int
deriving Repr

/-- Beyond this many places before or after the point a numeral is infinite or zero. -/
def placeLimit : Int := 400

/-- The double nearest to a numeral. -/
def Numeral.toFloat (negative : Bool) (n : Numeral) : Float :=
  let ds := n.digits.dropWhile (· == 0)
  let place : Int := ds.length + n.exponent
  if ds.isEmpty || place < -placeLimit then encode negative 0 minExponent
  else if placeLimit < place then infinity negative
  else
    let m := Integer.ofDigits ds
    if 0 ≤ n.exponent then nearest negative (m * Nat.pow 10 n.exponent.toNat) 1
    else nearest negative m (Nat.pow 10 (-n.exponent).toNat)

/-- Digits at the front, and what follows them. -/
def spanDigits (cs : Text) : List Nat × Text :=
  ((cs.takeWhile isAsciiDigit).filterMap digitValue?, cs.dropWhile isAsciiDigit)

/-- The exponent at the end of a numeral; no exponent counts as zero. -/
def exponent? : Text → Option Int
  | [] => some 0
  | c :: cs =>
    if c = 'e' ∨ c = 'E' then
      let (negative, cs) := Integer.splitSign cs
      match spanDigits cs with
      | (d :: ds, []) =>
        some (if negative then -(Integer.ofDigits (d :: ds) : Int) else Integer.ofDigits (d :: ds))
      | _ => none
    else none

/-- A numeral without a sign. -/
def numeral? (cs : Text) : Option Numeral := do
  let (whole, rest) := spanDigits cs
  let (fraction, rest) :=
    match rest with
    | .char '.' :: rest => spanDigits rest
    | rest => ([], rest)
  if whole.isEmpty && fraction.isEmpty then none
  else
    let e ← exponent? rest
    return ⟨whole ++ fraction, e - fraction.length⟩

/-- A double without padding: a sign, then a word or a numeral. -/
def ofText? (cs : Text) : Option Float :=
  let (negative, cs) := Integer.splitSign cs
  let word := lowered cs
  if word = "inf" ∨ word = "infinity" then some (infinity negative)
  else if word = "nan" then some notANumber
  else (numeral? cs).map (·.toFloat negative)

/-- Removes underscores, each of which has to stand between two ASCII digits. -/
def withoutUnderscores? : Text → Option Text
  | [] => some []
  | .char '_' :: _ => none
  | c :: .char '_' :: d :: cs =>
    if isAsciiDigit c && isAsciiDigit d then
      (withoutUnderscores? (d :: cs)).map (c :: ·)
    else none
  | c :: cs => (withoutUnderscores? cs).map (c :: ·)

/-- Writes a decimal digit of any script as the ASCII digit of its value. -/
def plainDigit (c : CodePoint) : CodePoint :=
  match digitValue? c with
  | some d => .ofNat (48 + d)
  | none => c

/-- Reads a double. Padding may surround it, its digits may be of any script, and single
underscores may stand between digits. -/
def read? (text : Text) : Option Float :=
  withoutUnderscores? ((trimBy isPadding text).map plainDigit) >>= ofText?

/-! ### Writing with fixed places -/

/-- The digits of a whole number with a point before the last `places` of them. -/
def withPoint (places n : Nat) : String :=
  let unit := Nat.pow 10 places
  let fraction := toString (n % unit)
  toString (n / unit) ++ "." ++
    String.ofList (List.replicate (places - fraction.length) '0') ++ fraction

/-- A double with a fixed number of places, a half going to the even neighbour. -/
def fixed (places : Nat) (x : Float) : String :=
  match decode x with
  | .nan => "nan"
  | .infinite negative => if negative then "-inf" else "inf"
  | .finite negative m e =>
    -- dividing by `2 ^ (-e)` makes `num / den` the value times `10 ^ places`
    let (num, den) := scaled (m * Nat.pow 10 places) 1 (-e)
    (if negative then "-" else "") ++ withPoint places (roundDiv num den)

end NetSurvey.Decimal
