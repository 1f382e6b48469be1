import NetSurvey.Number.Binary

/-!
# The fewest digits that read back

Among the decimals that are read as a given double, those with the fewest digits are looked for by
trying one digit, two digits and so on: on each grid of decimals only the two neighbours of the
value can be the nearest point, and the nearer of those that read back is taken. Seventeen digits
always suffice.
-/

namespace NetSurvey.Decimal

open Binary

/-- A decimal value `digits * 10 ^ exponent`. -/
structure Short where
  digits : Nat
  exponent : Int
deriving DecidableEq, Repr

/-- `n * 10 ^ k` over `d` as a quotient of whole numbers. -/
def shifted (n d : Nat) (k : Int) : Nat × Nat :=
  if 0 ≤ k then (n * Nat.pow 10 k.toNat, d) else (n, d * Nat.pow 10 (-k).toNat)

/-- A decimal reads back as a double when the double is the nearest one to it. -/
def Short.readsBack (s : Short) (m : Nat) (e : Int) : Bool :=
  let (n, d) := shifted s.digits 1 s.exponent
  match nearest? false n d with
  | some x => decode x == .finite false m e
  | none => false

/-- The number of decimal digits of a whole number. -/
def length (n : Nat) : Nat :=
  (Nat.toDigits 10 n).length

/-- Shift that makes every positive double greater than one. -/
def headroom : Nat := 340

/-- The place of the leading digit of a positive quotient: zero for the units. -/
def leadingPlace (n d : Nat) : Int :=
  (length (n * Nat.pow 10 headroom / d) : Int) - 1 - headroom

/-- The most digits that are ever needed. -/
def mostDigits : Nat := 17

/-- The decimal next to `n / d` on the grid of `10 ^ exponent` that reads back, the nearer one if
both neighbours do, and the even one if both are equally near. -/
def onGrid? (n d m : Nat) (e exponent : Int) : Option Short :=
  let (num, den) := shifted n d (-exponent)
  let below : Short := ⟨num / den, exponent⟩
  let above : Short := ⟨num / den + 1, exponent⟩
  let near : Short := ⟨roundDiv num den, exponent⟩
  match below.readsBack m e, above.readsBack m e with
  | true, true => some near
  | true, false => some below
  | false, true => some above
  | false, false => none

/-- Tries the grids from `tried + 1` digits on. -/
def searchGrids (n d m : Nat) (e place : Int) : (fuel tried : Nat) → Short
  | 0, tried => ⟨roundDiv (shifted n d (tried - place)).1 (shifted n d (tried - place)).2,
      place - tried⟩
  | fuel + 1, tried =>
    match onGrid? n d m e (place - tried) with
    | some s => s
    | none => searchGrids n d m e place fuel (tried + 1)

/-- The shortest decimal that reads back as the positive double `m * 2 ^ e`. -/
def shortest (m : Nat) (e : Int) : Short :=
  let (n, d) := scaled m 1 (-e)
  searchGrids n d m e (leadingPlace n d) mostDigits 0

/-- How a decimal is laid out. -/
structure Layout where
  /-- The least place of a leading digit that is still written positionally. -/
  leastPlace : Int
  /-- From this place on a leading digit is written with an exponent. -/
  firstExponent : Int
  /-- The fewest digits of a written exponent. -/
  exponentWidth : Nat

/-- Digits without trailing zeros. -/
def significant (n : Nat) : List Char :=
  ((Nat.toDigits 10 n).reverse.dropWhile (· == '0')).reverse

/-- Fills a number with zeros on the left. -/
def padded (width n : Nat) : List Char :=
  let ds := Nat.toDigits 10 n
  List.replicate (width - ds.length) '0' ++ ds

/-- The text of a positive decimal. -/
def Short.render (layout : Layout) (s : Short) : String :=
  let ds := significant s.digits
  let place : Int := (length s.digits : Int) - 1 + s.exponent
  if layout.leastPlace ≤ place ∧ place < layout.firstExponent then
    if place < 0 then
      String.ofList ('0' :: '.' :: List.replicate (-place - 1).toNat '0' ++ ds)
    else
      let whole := place.toNat + 1
      let fraction := ds.drop whole
      String.ofList (ds.take whole ++ List.replicate (whole - ds.length) '0' ++ '.' ::
        (if fraction.isEmpty then ['0'] else fraction))
  else
    let sign := if place < 0 then '-' else '+'
    let mantissa :=
      match ds with
      | [] => []
      | [c] => [c]
      | c :: cs => c :: '.' :: cs
    String.ofList (mantissa ++ 'e' :: sign :: padded layout.exponentWidth place.natAbs)

/-- A double with the fewest digits. -/
def renderFloat (layout : Layout) (x : Float) : String :=
  match decode x with
  | .nan => "nan"
  | .infinite negative => if negative then "-inf" else "inf"
  | .finite negative m e =>
    (if negative then "-" else "") ++
      (if m = 0 then "0.0" else (shortest m e).render layout)

end NetSurvey.Decimal
