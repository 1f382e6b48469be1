import NetSurvey.Text.Basic

/-!
# Lines of a text

A line ends at a line feed, a carriage return, or a carriage return followed by a line feed, and at
nothing else. A text that ends with a line end has no further, empty line after it.
-/

namespace NetSurvey.Text

/-- The line being read, in reverse, is completed at each line end. -/
def linesFrom : (line : Text) → Text → List Text
  | line, [] => if line.isEmpty then [] else [line.reverse]
  | line, .char '\r' :: .char '\n' :: cs => line.reverse :: linesFrom [] cs
  | line, c :: cs =>
    if c = '\n' ∨ c = '\r' then line.reverse :: linesFrom [] cs
    else linesFrom (c :: line) cs

/-- The lines of a text, without their ends. -/
def lines (t : Text) : List Text :=
  linesFrom [] t

end NetSurvey.Text
