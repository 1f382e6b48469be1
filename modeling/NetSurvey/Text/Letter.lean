import NetSurvey.Text.Basic

/-!
# ASCII letters
-/

namespace NetSurvey.Text

/-- An ASCII letter of either case. -/
def isAsciiLetter (c : CodePoint) : Bool :=
  (97 ≤ c.toNat && c.toNat ≤ 122) || (65 ≤ c.toNat && c.toNat ≤ 90)

/-- An ASCII letter in lower case, and anything else as it is. -/
def lowerLetter : CodePoint → CodePoint
  | .char c => .char c.toLower
  | c => c

/-- A text with its ASCII letters in lower case. -/
def lowered (t : Text) : Text :=
  t.map lowerLetter

/-- An ASCII letter in upper case, and anything else as it is. -/
def raiseLetter : CodePoint → CodePoint
  | .char c => .char c.toUpper
  | c => c

/-- A text with its ASCII letters in upper case. -/
def raised (t : Text) : Text :=
  t.map raiseLetter

end NetSurvey.Text
