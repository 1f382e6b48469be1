import NetSurvey.Datum.Basic
import NetSurvey.Text.Blank

/-!
# Forms

A form reads the fields of a request. Each field that cannot be read gives a complaint, and all
complaints are reported together, in the order of the fields. Numbers may also be given as texts or
truth values.

An integer in a text is either written as JSON writes it, or in one of a few looser ways: with
padding around it, a plus sign, zeros at the front, a point and zeros at the end, or single
underscores inside.

What may stand for a number, and the names and texts of the complaints, follow pydantic in its lax
mode. The fields of each task and their bounds are the service's own.
-/

namespace NetSurvey.Service

open Text

/-- What is wrong with a field or with a whole body. -/
inductive Fault where
  | jsonInvalid
  | noRecord
  | missing
  | stringType
  | listType
  | intType
  | intParsing
  | intParsingSize
  | intFromFloat
  | finiteNumber
  | floatType
  | floatParsing
  | greaterThan
  | greaterThanEqual
  | lessThanEqual
deriving DecidableEq, Repr

/-- The name of a fault. -/
def Fault.name : Fault → String
  | jsonInvalid => "json_invalid"
  | noRecord => "model_attributes_type"
  | missing => "missing"
  | stringType => "string_type"
  | listType => "list_type"
  | intType => "int_type"
  | intParsing => "int_parsing"
  | intParsingSize => "int_parsing_size"
  | intFromFloat => "int_from_float"
  | finiteNumber => "finite_number"
  | floatType => "float_type"
  | floatParsing => "float_parsing"
  | greaterThan => "greater_than"
  | greaterThanEqual => "greater_than_equal"
  | lessThanEqual => "less_than_equal"

/-- A fault and where it is: in the whole body, in a field, or in an item of a field. -/
structure Complaint where
  fault : Fault
  field : Option String := none
  index : Option Nat := none
  /-- What was found there. -/
  found : Datum := .null

/-- Where a complaint points to. -/
def Complaint.place (c : Complaint) : List Datum :=
  .text "body" :: ((c.field.map fun key => Datum.text key).toList ++
    (c.index.map fun i => Datum.int i).toList)

/-- A complaint as data. -/
def Complaint.toDatum (c : Complaint) : Datum :=
  .record [("type", .text c.fault.name), ("loc", .list c.place)]

/-! ### Integers in text -/

/-- An integer as JSON has it: no zeros at the front and no padding. Too many digits are found
before anything that follows them; the sign counts as one. -/
def plainInteger (cs : Text) : Except Fault Int :=
  let (negative, ds) := match cs with | .char '-' :: ds => (true, ds) | ds => (false, ds)
  let digits := ds.takeWhile isAsciiDigit
  if digits.isEmpty || (digits.head? = some (.char '0') && 1 < digits.length) then
    .error .intParsing
  else if Integer.digitLimit < digits.length + (if negative then 1 else 0) then
    .error .intParsingSize
  else if digits.length < ds.length then .error .intParsing
  else
    let n := Integer.ofDigits (digits.filterMap digitValue?)
    .ok (if negative then -(n : Int) else n)

/-- Leaves zeros at the front out, with underscores among them. The last character before a point
stays, as does the last character of all. -/
def dropZeros (previous : CodePoint) : Text → Option Text
  | [] => some [previous]
  | c :: cs =>
    if c = '.' then some (previous :: c :: cs)
    else if c = '0' ∨ c = '_' then dropZeros c cs
    else if isAsciiDigit c || c = '-' then some (c :: cs)
    else none

/-- A numeral without zeros at its front. -/
def withoutZeros? : Text → Option Text
  | [] => none
  | c :: cs =>
    if c = '0' then dropZeros c cs
    else if isAsciiDigit c || c = '-' then some (c :: cs)
    else none

/-- A numeral without zeros at its front, which stand after the sign. -/
def withoutSignedZeros? : Text → Option Text
  | .char '-' :: cs => (withoutZeros? cs).map (.char '-' :: ·)
  | cs => withoutZeros? cs

/-- A numeral without a plus sign, after which no other sign may stand. -/
def withoutPlus? : Text → Option Text
  | .char '+' :: .char '-' :: _ => none
  | .char '+' :: cs => some cs
  | cs => some cs

/-- A numeral without a point that zeros follow, and nothing else. -/
def withoutPoint (cs : Text) : Text :=
  match startingAt '.' cs with
  | _ :: d :: ds => if (d :: ds).all (· = .char '0') then before '.' cs else cs
  | _ => cs

/-- Whether two underscores follow one another. -/
def hasDoubleUnderscore : Text → Bool
  | .char '_' :: .char '_' :: _ => true
  | _ :: cs => hasDoubleUnderscore cs
  | [] => false

/-- A numeral without its underscores, if they stand alone and inside of it. -/
def withoutUnderscores (cs : Text) : Text :=
  if cs.head? = some (.char '_') || cs.getLast? = some (.char '_') || hasDoubleUnderscore cs then cs
  else cs.filter (· ≠ .char '_')

/-- An integer that is written in one of the looser ways. -/
def looseInteger? (cs : Text) : Option Int := do
  let cs ← withoutPlus? (trimBy isPadding cs)
  let cs ← withoutSignedZeros? cs
  (plainInteger (withoutUnderscores (withoutPoint cs))).toOption

/-- Reads an integer from a text. -/
def integerOfText (cs : Text) : Except Fault Int :=
  match plainInteger cs with
  | .ok n => .ok n
  | .error .intParsingSize => .error .intParsingSize
  | .error fault =>
    match looseInteger? cs with
    | some n => .ok n
    | none => .error fault

/-! ### Doubles in text -/

/-- Reads a double from a text: with padding around it, or with single underscores inside. -/
def doubleOfText (cs : Text) : Except Fault Float :=
  match (Decimal.ofText? (trimBy isPadding cs)).or (Decimal.ofText? (withoutUnderscores cs)) with
  | some x => .ok x
  | none => .error .floatParsing

/-! ### Values -/

/-- Beyond this a double is no integer. -/
def wholeLimit : Int := Nat.pow 2 63

/-- The integer that a double is equal to. -/
def integerOfDouble (x : Float) : Except Fault Int :=
  match Number.truncate x with
  | .error _ => .error .finiteNumber
  | .ok n =>
    if Binary.ofInt? n |>.all (· != x) then .error .intFromFloat
    else if n.natAbs < wholeLimit.natAbs then .ok n
    else .error .intParsingSize

/-- Reads an integer. -/
def integer : Datum → Except Fault Int
  | .number (.int n) => .ok n
  | .number (.float x) => integerOfDouble x
  | .bool b => .ok (if b then 1 else 0)
  | .text s => integerOfText s
  | _ => .error .intType

/-- Reads a double. -/
def double : Datum → Except Fault Float
  | .number n => n.toFloat.mapError fun _ => .floatType
  | .bool b => .ok (if b then 1.0 else 0.0)
  | .text s => doubleOfText s
  | _ => .error .floatType

/-- Reads a text. -/
def string : Datum → Except Fault Text
  | .text s => .ok s
  | _ => .error .stringType

/-- A number of workers is between 1 and 1000. -/
def workerCount (d : Datum) : Except Fault Int := do
  let n ← integer d
  if 1000 < n then .error .lessThanEqual
  else if n < 1 then .error .greaterThanEqual
  else return n

/-- A time to wait is greater than 0 and at most 60, which what is not a number is not. -/
def waitingTime (d : Datum) : Except Fault Float := do
  let x ← double d
  if !(x ≤ 60) then .error .lessThanEqual
  else if x ≤ 0 then .error .greaterThan
  else return x

/-! ### Forms -/

/-- What a form gives: a value, or complaints. -/
abbrev Form (α : Type) := Except (List Complaint) α

namespace Form

variable {α β : Type}

/-- Reads two parts; complaints about both are reported. -/
def both : Form α → Form β → Form (α × β)
  | .ok a, .ok b => .ok (a, b)
  | .ok _, .error f => .error f
  | .error e, .ok _ => .error e
  | .error e, .error f => .error (e ++ f)

/-- A value read from a field. -/
def ofField (key : String) (read : Datum → Except Fault α) (d : Datum) : Form α :=
  (read d).mapError fun fault => [{ fault, field := some key, found := d }]

/-- A field that has to be there. -/
def required (fields : Fields) (key : String) (read : Datum → Except Fault α) : Form α :=
  match fields.get? key with
  | some d => ofField key read d
  | none => .error [{ fault := .missing, field := some key, found := .record fields }]

/-- A field that may be absent; a default takes its place. -/
def withDefault (fields : Fields) (key : String) (default : α) (read : Datum → Except Fault α) :
    Form α :=
  match fields.get? key with
  | some d => ofField key read d
  | none => .ok default

/-- A field that may be absent or null. -/
def optional (fields : Fields) (key : String) (read : Datum → Except Fault α) : Form (Option α) :=
  match fields.get? key with
  | some .null => .ok none
  | some d => (ofField key read d).map some
  | none => .ok none

/-- The items of a list of texts, from an index on. -/
def stringItems (key : String) : (index : Nat) → List Datum → Form (List Text)
  | _, [] => .ok []
  | index, d :: ds =>
    let item : Form Text := (string d).mapError fun fault =>
      [{ fault, field := some key, index := some index, found := d }]
    (both item (stringItems key (index + 1) ds)).map fun (s, ss) => s :: ss

/-- A field with a list of texts, which may be absent or null. -/
def optionalStrings (fields : Fields) (key : String) : Form (Option (List Text)) :=
  match fields.get? key with
  | some .null => .ok none
  | some (.list items) => (stringItems key 0 items).map some
  | some d => .error [{ fault := .listType, field := some key, found := d }]
  | none => .ok none

end Form

end NetSurvey.Service
