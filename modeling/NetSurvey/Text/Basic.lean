/-!
# Code points and texts

A text is a sequence of code points. Nearly all code points are characters. The others are halves of
surrogate pairs, which stand for nothing by themselves, but may be left alone in a text that was
written with escapes. Such a text can be shown and compared, but it has no bytes.
-/

namespace NetSurvey

/-- A code point: a character, or half of a surrogate pair that stands alone. -/
inductive CodePoint where
  | char (c : Char)
  | half (n : Fin 2048)
deriving DecidableEq, Repr

namespace CodePoint

instance : Inhabited CodePoint := ⟨.char ' '⟩

instance : Coe Char CodePoint := ⟨.char⟩

/-- The first number of a half of a surrogate pair. -/
def firstHalf : Nat := 0xD800

/-- The number of a code point. -/
def toNat : CodePoint → Nat
  | char c => c.toNat
  | half n => firstHalf + n.val

/-- The code point with a number. -/
def ofNat (n : Nat) : CodePoint :=
  if h : firstHalf ≤ n ∧ n < firstHalf + 2048 then half ⟨n - firstHalf, by omega⟩
  else char (Char.ofNat n)

/-- Whether a code point is a character. -/
def isChar : CodePoint → Bool
  | char _ => true
  | half _ => false

@[simp]
theorem toNat_char (c : Char) : (char c).toNat = c.toNat := rfl

@[simp]
theorem toNat_half (n : Fin 2048) : (half n).toNat = 0xD800 + n.val := rfl

@[simp]
theorem isChar_char (c : Char) : (char c).isChar = true := rfl

theorem ofNat_toNat (c : CodePoint) : ofNat c.toNat = c := by
  cases c with
  | char c =>
    have h : ¬(firstHalf ≤ c.toNat ∧ c.toNat < firstHalf + 2048) := by
      have := c.valid
      simp only [UInt32.isValidChar, Nat.isValidChar] at this
      simp only [firstHalf, Char.toNat]
      omega
    simp [ofNat, h]
  | half n =>
    have h : firstHalf ≤ (half n).toNat ∧ (half n).toNat < firstHalf + 2048 := by
      simp only [toNat, firstHalf]
      omega
    rw [ofNat, dif_pos h]
    simp [toNat]

/-- A code point is known by its number. -/
theorem toNat_injective {a b : CodePoint} (h : a.toNat = b.toNat) : a = b := by
  rw [← ofNat_toNat a, ← ofNat_toNat b, h]

end CodePoint

/-- A sequence of code points. -/
abbrev Text := List CodePoint

namespace Text

/-- The text of a string, all of whose code points are characters. -/
def ofString (s : String) : Text :=
  s.toList.map .char

instance : Coe String Text := ⟨ofString⟩

/-- A number in a base of at most sixteen. -/
def numeral (base n : Nat) : Text :=
  (Nat.toDigits base n).map .char

/-- Whether all code points of a text are characters, so that it has bytes. -/
def isWhole (t : Text) : Bool :=
  t.all CodePoint.isChar

/-- The order of texts: that of the numbers of their code points, from the front on. -/
def precedes (s t : Text) : Bool :=
  decide (s.map CodePoint.toNat < t.map CodePoint.toNat)

@[simp]
theorem isWhole_ofString (s : String) : isWhole (ofString s) = true := by
  simp [isWhole, ofString]

end Text

end NetSurvey
