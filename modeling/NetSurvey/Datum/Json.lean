import NetSurvey.Datum.Basic
import NetSurvey.Text.Encoding

/-!
# JSON

`read` takes JSON text to data. Integers and doubles are kept apart by the way they are written, the
words `NaN`, `Infinity` and `-Infinity` stand for doubles, of two fields with the same name the
later one counts, and a half of a surrogate pair that is written by its number may stand alone.
Lists and records may be nested up to a bound.

`write` goes the other way, and writes everything beyond ASCII by its number.
-/

namespace NetSurvey.Json

open Text

/-! ### Reading -/

/-- Why a text cannot be read. -/
inductive ReadError where
  | malformed
  /-- An integer has more digits than are read. -/
  | integerTooLong
  /-- Lists and records are nested too deeply. -/
  | tooDeep
deriving DecidableEq, Repr

/-- What is read from the front of a text, and the rest of it. -/
abbrev Read (α : Type) := Except ReadError (α × Text)

/-- A character that may stand between the parts of a text. -/
def isBlankChar (c : CodePoint) : Bool :=
  c = ' ' || c = '\t' || c = '\n' || c = '\r'

/-- Skips blanks. -/
def skip (cs : Text) : Text :=
  cs.dropWhile isBlankChar

/-- Four hexadecimal digits. -/
def hex4? : Text → Option (Nat × Text)
  | a :: b :: c :: d :: cs => do
    let a ← hexDigitValue? a
    let b ← hexDigitValue? b
    let c ← hexDigitValue? c
    let d ← hexDigitValue? d
    return (((a * 16 + b) * 16 + c) * 16 + d, cs)
  | _ => none

/-- The second half of a pair of surrogates. -/
def secondHalf? : Text → Option (Nat × Text)
  | .char '\\' :: .char 'u' :: cs =>
    match hex4? cs with
    | some (n, rest) => if Encoding.isSecondHalf n then some (n, rest) else none
    | none => none
  | _ => none

/-- A code point that is written by its number, or by the numbers of two surrogates. -/
def numbered? (cs : Text) : Option (CodePoint × Text) := do
  let (n, rest) ← hex4? cs
  match if Encoding.isFirstHalf n then secondHalf? rest else none with
  | some (m, rest) => return (Encoding.paired n m, rest)
  | none => return (.ofNat n, rest)

/-- The character that an escape of one letter stands for. -/
def escape? : CodePoint → Option CodePoint
  | .char '"' => some '"'
  | .char '\\' => some '\\'
  | .char '/' => some '/'
  | .char 'b' => some (.ofNat 8)
  | .char 'f' => some (.ofNat 12)
  | .char 'n' => some '\n'
  | .char 'r' => some '\r'
  | .char 't' => some '\t'
  | _ => none

/-- The code points of a string up to its closing quotation mark. -/
def stringFrom : (fuel : Nat) → (taken : Text) → Text → Read Text
  | 0, _, _ => .error .malformed
  | fuel + 1, taken, cs =>
    match cs with
    | [] => .error .malformed
    | .char '"' :: cs => .ok (taken.reverse, cs)
    | .char '\\' :: .char 'u' :: cs =>
      match numbered? cs with
      | some (c, rest) => stringFrom fuel (c :: taken) rest
      | none => .error .malformed
    | .char '\\' :: e :: cs =>
      match escape? e with
      | some c => stringFrom fuel (c :: taken) cs
      | none => .error .malformed
    | c :: cs => if c.toNat < 32 then .error .malformed else stringFrom fuel (c :: taken) cs

/-- Digits at the front, as they are written. -/
def digits (cs : Text) : Text × Text :=
  (cs.takeWhile isAsciiDigit, cs.dropWhile isAsciiDigit)

/-- The whole digits of a number: a zero alone, or digits that begin with another one. -/
def wholeDigits : Text → Text × Text
  | .char '0' :: cs => (['0'], cs)
  | cs => digits cs

/-- A point and digits, if they are there. -/
def fraction : Text → Text × Text
  | .char '.' :: cs =>
    match digits cs with
    | ([], _) => ([], '.' :: cs)
    | (ds, rest) => ('.' :: ds, rest)
  | cs => ([], cs)

/-- An exponent, if it is there. -/
def exponent : Text → Text × Text
  | c :: cs =>
    if c = 'e' ∨ c = 'E' then
      let (sign, after) : Text × Text :=
        match cs with
        | .char '+' :: after => (['+'], after)
        | .char '-' :: after => (['-'], after)
        | after => ([], after)
      match digits after with
      | ([], _) => ([], c :: cs)
      | (ds, rest) => (c :: sign ++ ds, rest)
    else ([], c :: cs)
  | [] => ([], [])

/-- The value of digits. -/
def natOf (ds : Text) : Nat :=
  Integer.ofDigits (ds.filterMap digitValue?)

/-- A number without its sign. -/
def unsigned (negative : Bool) (cs : Text) : Read Datum :=
  match wholeDigits cs with
  | ([], _) => .error .malformed
  | (whole, rest) =>
    let (frac, rest) := fraction rest
    let (exp, rest) := exponent rest
    if frac.isEmpty && exp.isEmpty then
      if Integer.digitLimit < whole.length then .error .integerTooLong
      else .ok (.int (if negative then -(natOf whole : Int) else natOf whole), rest)
    else
      match Decimal.numeral? (whole ++ frac ++ exp) with
      | some n => .ok (.number (.float (n.toFloat negative)), rest)
      | none => .error .malformed

/-- The text after a word at the front. -/
def after? (word : Text) (cs : Text) : Option Text :=
  if word.isPrefixOf cs then some (cs.drop word.length) else none

/-- The words that stand for values. -/
def words : List (Text × Datum) :=
  [("null", .null), ("true", .bool true), ("false", .bool false),
    ("NaN", .number (.float Binary.notANumber)),
    ("Infinity", .number (.float (Binary.infinity false))),
    ("-Infinity", .number (.float (Binary.infinity true)))]

/-- A word at the front. -/
def word? (cs : Text) : Option (Datum × Text) :=
  words.findSome? fun (word, d) => (after? word cs).map fun rest => (d, rest)

mutual

/-- A value, in which lists and records may be nested `depth` times. -/
def value : (fuel depth : Nat) → Text → Read Datum
  | 0, _, _ => .error .malformed
  | fuel + 1, depth, cs =>
    match cs with
    | .char '"' :: cs => (stringFrom fuel [] cs).map fun (s, rest) => (.text s, rest)
    | .char '[' :: cs =>
      match depth with
      | 0 => .error .tooDeep
      | depth + 1 =>
        match skip cs with
        | .char ']' :: rest => .ok (.list [], rest)
        | cs => (items fuel depth cs).map fun (ds, rest) => (.list ds, rest)
    | .char '\x7b' :: cs =>
      match depth with
      | 0 => .error .tooDeep
      | depth + 1 =>
        match skip cs with
        | .char '\x7d' :: rest => .ok (.record [], rest)
        | cs => (members fuel depth [] cs).map fun (fs, rest) => (.record fs, rest)
    | cs =>
      match word? cs with
      | some read => .ok read
      | none =>
        match cs with
        | .char '-' :: cs => unsigned true cs
        | cs => unsigned false cs

/-- The items of a list, up to its end. -/
def items : (fuel depth : Nat) → Text → Except ReadError (List Datum × Text)
  | 0, _, _ => .error .malformed
  | fuel + 1, depth, cs => do
    let (d, rest) ← value fuel depth (skip cs)
    match skip rest with
    | .char ',' :: rest =>
      let (ds, rest) ← items fuel depth rest
      return (d :: ds, rest)
    | .char ']' :: rest => return ([d], rest)
    | _ => .error .malformed

/-- The fields of a record, up to its end, set one after the other. -/
def members : (fuel depth : Nat) → Fields → Text → Except ReadError (Fields × Text)
  | 0, _, _, _ => .error .malformed
  | fuel + 1, depth, fields, cs => do
    match skip cs with
    | .char '"' :: cs =>
      let (key, rest) ← stringFrom fuel [] cs
      match skip rest with
      | .char ':' :: rest =>
        let (d, rest) ← value fuel depth (skip rest)
        let fields := fields.set key d
        match skip rest with
        | .char ',' :: rest => members fuel depth fields rest
        | .char '\x7d' :: rest => return (fields, rest)
        | _ => .error .malformed
      | _ => .error .malformed
    | _ => .error .malformed

end

/-- Reads a text in which lists and records are nested at most `depth` times. Of two steps of the
reader at least one takes a code point off the text, so twice its length bounds their number. -/
def read (depth : Nat) (text : Text) : Except ReadError Datum :=
  match value (2 * text.length + 2) depth (skip text) with
  | .ok (d, rest) => if (skip rest).isEmpty then .ok d else .error .malformed
  | .error e => .error e

/-! ### Writing -/

/-- A unit of 16 bits by its number. -/
def unitEscape (n : Nat) : Text :=
  "\\u" ++ hexDigits 4 n

/-- A code point as it stands in a string. -/
def written (c : CodePoint) : Text :=
  let n := c.toNat
  if c = '"' ∨ c = '\\' then ['\\', c]
  else if 32 ≤ n ∧ n < 127 then [c]
  else if n < 0x10000 then unitEscape n
  else unitEscape (0xD800 + (n - 0x10000) / 1024) ++ unitEscape (0xDC00 + (n - 0x10000) % 1024)

/-- A number. -/
def numberText : Number → Text
  | .int n => toString n
  | .float x =>
    match Binary.decode x with
    | .nan => "NaN"
    | .infinite negative => if negative then "-Infinity" else "Infinity"
    | _ => (Number.float x).text

/-- A string in front of other text. -/
def stringBefore (s rest : Text) : Text :=
  '"' :: s.foldr (fun c rest => written c ++ rest) ('"' :: rest)

mutual

/-- A value in front of other text. -/
def valueBefore : Datum → Text → Text
  | .null, rest => "null" ++ rest
  | .bool b, rest => (if b then "true" else "false") ++ rest
  | .number n, rest => numberText n ++ rest
  | .text s, rest => stringBefore s rest
  | .list [], rest => "[]" ++ rest
  | .list (d :: ds), rest => '[' :: valueBefore d (itemsBefore ds rest)
  | .record [], rest => "\x7b\x7d" ++ rest
  | .record ((k, d) :: fs), rest =>
    '\x7b' :: stringBefore k (':' :: valueBefore d (fieldsBefore fs rest))

/-- The further items of a list and its end in front of other text. -/
def itemsBefore : List Datum → Text → Text
  | [], rest => ']' :: rest
  | d :: ds, rest => ',' :: valueBefore d (itemsBefore ds rest)

/-- The further fields of a record and its end in front of other text. -/
def fieldsBefore : List (Text × Datum) → Text → Text
  | [], rest => '\x7d' :: rest
  | (k, d) :: fs, rest => ',' :: stringBefore k (':' :: valueBefore d (fieldsBefore fs rest))

end

/-- The JSON text of a datum, in ASCII. -/
def write (d : Datum) : Text :=
  valueBefore d []

end NetSurvey.Json
