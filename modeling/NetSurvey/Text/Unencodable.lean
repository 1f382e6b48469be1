import NetSurvey.Text.Quoted

/-!
# Texts that cannot be encoded

An encoding may have no bytes for some code points of a text: ASCII for all that are beyond it, and
UTF-8 for halves of surrogate pairs. What is told about such a text is the first run of them.

In names of files and in the environment, some halves of surrogate pairs stand for single bytes that
are no text, and these can be encoded.
-/

namespace NetSurvey.Text

/-- A half of a surrogate pair that stands for a single byte. -/
def isByteMark (c : CodePoint) : Bool :=
  0xDC80 ≤ c.toNat && c.toNat ≤ 0xDCFF

/-- A code point that a name of a file or a value in the environment can have. -/
def isSystemPoint (c : CodePoint) : Bool :=
  c.isChar || isByteMark c

/-- The first run of code points in a text for which an encoding has no bytes. -/
structure Unencodable where
  /-- The first code point of the run. -/
  point : CodePoint
  first : Nat
  last : Nat
deriving DecidableEq, Repr

namespace Unencodable

/-- Finds the first run. -/
def find? (encodable : CodePoint → Bool) (t : Text) : Option Unencodable :=
  let first := (t.takeWhile encodable).length
  let run := (t.drop first).takeWhile (!encodable ·)
  run.head?.map fun point => ⟨point, first, first + run.length - 1⟩

/-- A code point by its number. -/
def numbered (c : CodePoint) : Text :=
  if c.toNat < 0x100 then "\\x" ++ hexDigits 2 c.toNat
  else if c.toNat < 0x10000 then "\\u" ++ hexDigits 4 c.toNat
  else "\\U" ++ hexDigits 8 c.toNat

/-- Which code points cannot be encoded. -/
def place (u : Unencodable) : Text :=
  if u.first = u.last then "character '" ++ numbered u.point ++ s!"' in position {u.first}"
  else s!"characters in position {u.first}-{u.last}"

/-- What is said about a text that is not in ASCII. -/
def notAscii (u : Unencodable) : Text :=
  "'ascii' codec can't encode " ++ u.place ++ ": ordinal not in range(128)"

/-- What is said about a text that has no bytes in UTF-8. -/
def notUtf8 (u : Unencodable) : Text :=
  "'utf-8' codec can't encode " ++ u.place ++ ": surrogates not allowed"

end Unencodable

end NetSurvey.Text
