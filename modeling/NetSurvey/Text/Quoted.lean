import NetSurvey.Text.Printable

/-!
# Quoted text

Messages show a text between quotation marks, single ones unless the text holds a single mark and
no double one. Inside, the mark in use and the backslash are escaped, tabulators and line ends have
their short escapes, and every other code point that is not printable is written by its number in
two, four or eight hexadecimal digits.
-/

namespace NetSurvey.Text

/-- The hexadecimal digit of a number below sixteen, in lower case. -/
def hexDigit (n : Nat) : CodePoint :=
  .char (if n < 10 then Char.ofNat (48 + n) else Char.ofNat (87 + n))

/-- The last `width` hexadecimal digits of a number. -/
def hexDigits : (width : Nat) → Nat → Text
  | 0, _ => []
  | width + 1, n => hexDigits width (n / 16) ++ [hexDigit (n % 16)]

/-- A code point as it stands between quotation marks of the given kind. -/
def escaped (mark : Char) (c : CodePoint) : Text :=
  if c = mark ∨ c = '\\' then ['\\', c]
  else if c = '\n' then ['\\', 'n']
  else if c = '\r' then ['\\', 'r']
  else if c = '\t' then ['\\', 't']
  else if isPrintable c then [c]
  else if c.toNat < 0x100 then "\\x" ++ hexDigits 2 c.toNat
  else if c.toNat < 0x10000 then "\\u" ++ hexDigits 4 c.toNat
  else "\\U" ++ hexDigits 8 c.toNat

/-- The quotation mark that fits a text. -/
def quotationMark (t : Text) : Char :=
  if t.contains '\'' && !t.contains '"' then '"' else '\''

/-- A text between quotation marks, with escapes. -/
def quoted (t : Text) : Text :=
  let mark := quotationMark t
  .char mark :: t.flatMap (escaped mark) ++ [.char mark]

end NetSurvey.Text
