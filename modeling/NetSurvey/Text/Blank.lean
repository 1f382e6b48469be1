import NetSurvey.Text.Basic

/-!
# Blank characters and trimming

Two classes of white space are in use. A *blank* is any white-space character of Unicode together
with the four information separators `U+001C` to `U+001F`; words and specifications are trimmed of
blanks. *Padding* is the same class without the separators; it may surround a number.
-/

namespace NetSurvey.Text

/-- White space of Unicode together with the information separators. -/
def isBlank (c : CodePoint) : Bool :=
  let n := c.toNat
  (9 ≤ n && n ≤ 13) || (28 ≤ n && n ≤ 32) || n == 0x85 || n == 0xA0 || n == 0x1680 ||
    (0x2000 ≤ n && n ≤ 0x200A) || n == 0x2028 || n == 0x2029 || n == 0x202F || n == 0x205F ||
    n == 0x3000

/-- White space of Unicode: what may surround a number. -/
def isPadding (c : CodePoint) : Bool :=
  isBlank c && !(28 ≤ c.toNat && c.toNat ≤ 31)

theorem isBlank_of_isPadding {c : CodePoint} (h : isPadding c = true) : isBlank c = true := by
  simp only [isPadding, Bool.and_eq_true] at h
  exact h.1

/-- Removes the code points of a class from both ends. -/
def trimBy (p : CodePoint → Bool) (t : Text) : Text :=
  ((t.dropWhile p).reverse.dropWhile p).reverse

/-- Removes blanks from both ends. -/
def trim (t : Text) : Text :=
  trimBy isBlank t

/-- A text that holds nothing but blanks. -/
def isBlankText (t : Text) : Bool :=
  t.all isBlank

end NetSurvey.Text
