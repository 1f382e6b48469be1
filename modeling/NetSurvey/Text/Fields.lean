import NetSurvey.Text.Basic

/-!
# Splitting text at a separator

`fields sep cs` cuts `cs` at every occurrence of `sep`. The result is never empty, joining the
fields with the separator gives the text back, and cutting distributes over a separator placed
between two texts.
-/

namespace NetSurvey.Text

/-- The pieces of a text between the occurrences of a separator. -/
def fields (sep : CodePoint) : Text → List Text
  | [] => [[]]
  | c :: cs =>
    if c = sep then [] :: fields sep cs
    else
      match fields sep cs with
      | [] => [[c]]
      | f :: fs => (c :: f) :: fs

/-- What stands before the first occurrence of a separator, or the whole text. -/
def before (sep : CodePoint) (t : Text) : Text :=
  t.takeWhile (· ≠ sep)

/-- The text from the first occurrence of a separator on. -/
def startingAt (sep : CodePoint) (t : Text) : Text :=
  t.dropWhile (· ≠ sep)

/-- What stands after the last occurrence of a separator, or the whole text. -/
def afterLast (sep : CodePoint) (t : Text) : Text :=
  (t.reverse.takeWhile (· ≠ sep)).reverse

/-- A text without the occurrences of a separator at its front. -/
def withoutLeading (sep : CodePoint) (t : Text) : Text :=
  t.dropWhile (· = sep)

/-- A text without the occurrences of a separator at its end. -/
def withoutTrailing (sep : CodePoint) (t : Text) : Text :=
  (t.reverse.dropWhile (· = sep)).reverse

/-- A text is what stands before a separator and the text from there on. -/
theorem before_append_startingAt (sep : CodePoint) (t : Text) :
    before sep t ++ startingAt sep t = t :=
  List.takeWhile_append_dropWhile

/-- Writes texts one after another with a separator between them. -/
def joined (sep : Text) : List Text → Text
  | [] => []
  | [f] => f
  | f :: g :: fs => f ++ sep ++ joined sep (g :: fs)

/-- Writes texts one after another with a comma between them. -/
def commaSeparated (ts : List Text) : Text :=
  joined ", " ts

@[simp]
theorem fields_nil (sep : CodePoint) : fields sep [] = [[]] := rfl

theorem fields_ne_nil (sep : CodePoint) (cs : Text) : fields sep cs ≠ [] := by
  cases cs with
  | nil => simp
  | cons c cs =>
    simp only [fields]
    split
    · simp
    · split <;> simp

/-- A text with a separator in the middle is cut there. -/
theorem fields_append_sep (sep : CodePoint) (s t : Text) :
    fields sep (s ++ sep :: t) = fields sep s ++ fields sep t := by
  induction s with
  | nil => simp [fields]
  | cons c s ih =>
    by_cases h : c = sep
    · simp [fields, h, ih]
    · simp only [List.cons_append, fields, h, if_false, ih]
      cases hs : fields sep s with
      | nil => exact absurd hs (fields_ne_nil sep s)
      | cons f fs => simp

/-- Writing the fields of a text with the separator between them gives the text back. -/
theorem joined_fields (sep : CodePoint) (t : Text) : joined [sep] (fields sep t) = t := by
  induction t with
  | nil => rfl
  | cons c cs ih =>
    obtain ⟨f, fs, hfs⟩ := List.exists_cons_of_ne_nil (fields_ne_nil sep cs)
    rw [hfs] at ih
    simp only [fields, hfs]
    split
    · next h => rw [joined, ih, h]; rfl
    · cases fs <;> simpa [joined] using ih

/-- A text without the separator is one field. -/
theorem fields_of_not_mem {sep : CodePoint} {cs : Text} (h : sep ∉ cs) : fields sep cs = [cs] := by
  induction cs with
  | nil => rfl
  | cons c cs ih =>
    simp only [List.mem_cons, not_or] at h
    simp [fields, Ne.symm h.1, ih h.2]

/-- No field holds the separator. -/
theorem not_mem_of_mem_fields {sep : CodePoint} {cs f : Text} (h : f ∈ fields sep cs) :
    sep ∉ f := by
  induction cs generalizing f with
  | nil => simp at h; simp [h]
  | cons c cs ih =>
    simp only [fields] at h
    split at h
    · rcases List.mem_cons.mp h with rfl | h
      · simp
      · exact ih h
    · next hc =>
      split at h
      · next heq => exact absurd heq (fields_ne_nil sep cs)
      · next g gs heq =>
        rcases List.mem_cons.mp h with rfl | h
        · have := ih (heq ▸ List.mem_cons_self : g ∈ fields sep cs)
          simp [Ne.symm hc, this]
        · exact ih (heq ▸ List.mem_cons_of_mem g h)

end NetSurvey.Text
