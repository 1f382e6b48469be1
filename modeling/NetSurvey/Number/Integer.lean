import NetSurvey.Text.Blank
import NetSurvey.Text.Digit
import NetSurvey.Text.Quoted

/-!
# Integers in text

An integer may be surrounded by padding and carry a sign. Its digits may be of any script, and a
single underscore may stand between two digits. A numeral of more than 4300 digits is refused, and
this is noticed before what follows the numeral is looked at.
-/

namespace NetSurvey

open Text

/-- Why a text is not an integer. -/
inductive IntegerError where
  /-- The text does not have the form of an integer. -/
  | malformed (text : Text)
  /-- The numeral has too many digits. -/
  | tooLong (digits : Nat)
deriving DecidableEq, Repr

namespace Integer

/-- The most digits that a numeral may have, leading zeros counted. -/
def digitLimit : Nat := 4300

/-- How much of a malformed text a message shows, quotation marks included. -/
def shownLength : Nat := 200

/-- The digits of a numeral in which every underscore stands between two digits. -/
def digits? : Text → Option (List Nat)
  | [] => none
  | [c] => (digitValue? c).map ([·])
  | c :: .char '_' :: cs => do return (← digitValue? c) :: (← digits? cs)
  | c :: cs => do return (← digitValue? c) :: (← digits? cs)

/-- The number that decimal digits stand for, the first being the most significant. -/
def ofDigits (ds : List Nat) : Nat :=
  ds.foldl (fun n d => 10 * n + d) 0

/-- A sign at the front, and what follows it. -/
def splitSign : Text → Bool × Text
  | .char '-' :: cs => (true, cs)
  | .char '+' :: cs => (false, cs)
  | cs => (false, cs)

/-- A code point that may belong to a numeral. -/
def isNumeralChar (c : CodePoint) : Bool :=
  isDecimalDigit c || c = '_'

/-- Reads an integer. -/
def read (text : Text) : Except IntegerError Int :=
  let (negative, cs) := splitSign (text.dropWhile isPadding)
  match digits? (cs.takeWhile isNumeralChar) with
  | none => .error (.malformed text)
  | some ds =>
    if digitLimit < ds.length then .error (.tooLong ds.length)
    else if (cs.dropWhile isNumeralChar).all isPadding then
      .ok (if negative then -(ofDigits ds : Int) else ofDigits ds)
    else .error (.malformed text)

/-- Reads an integer, or nothing. -/
def read? (text : Text) : Option Int :=
  (read text).toOption

end Integer

/-- What is said about a text that is not an integer. -/
def IntegerError.message : IntegerError → Text
  | .malformed text =>
    "invalid literal for int() with base 10: " ++ (quoted text).take Integer.shownLength
  | .tooLong digits =>
    s!"Exceeds the limit ({Integer.digitLimit} digits) for integer string conversion: " ++
      s!"value has {digits} digits; use sys.set_int_max_str_digits() to increase the limit"

end NetSurvey
