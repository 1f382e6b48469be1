import NetSurvey.File
import NetSurvey.Journal
import NetSurvey.Text.Blank
import NetSurvey.Text.Lines
import NetSurvey.Text.Utf8

/-!
# Wordlists

A wordlist file has one word on each line. Lines are trimmed, and blank lines and comments, which
begin with a number sign, are left out. Where no file is named, or it cannot be read, a default list
takes its place.
-/

namespace NetSurvey

open Text

/-- A file that a caller names: its path, and its bytes if it can be read. -/
structure WordFile where
  path : Text
  bytes? : Option (List UInt8)

namespace Wordlist

/-- A trimmed line that is a word. -/
def isWord (line : Text) : Bool :=
  !line.isEmpty && line.head? ≠ some (.char '#')

/-- The words of a text. -/
def wordsOf (cs : Text) : List Text :=
  ((lines cs).map trim).filter isWord

/-- The words in the bytes of a file. -/
def parse (bytes : List UInt8) : List Text :=
  wordsOf (decodeUtf8 bytes)

/-- What loading a wordlist comes to. -/
inductive Loaded where
  | words (list : List Text)
  /-- The file could not be read, and the default list is taken. -/
  | unreadable (path : Text) (default : List Text)
  /-- The path has a null character, so it can be of no file. -/
  | nullCharacter
  /-- The path has no bytes. -/
  | noBytes (found : Unencodable)

/-- Loads a wordlist. An empty path names no file. -/
def load (file : Option WordFile) (default : List Text) : Loaded :=
  match file with
  | none => .words default
  | some file =>
    if file.path.isEmpty then .words default
    else
      match File.unencodable? file.path with
      | some found => .noBytes found
      | none =>
        if file.path.contains (Char.ofNat 0) then .nullCharacter
        else
          match file.bytes? with
          | some bytes => .words (parse bytes)
          | none => .unreadable file.path default

/-- What is logged about a file that could not be read. -/
def unreadableEntry (path : Text) : Entry :=
  ⟨.warning, .enumeration, "Wordlist " ++ path ++ " could not be read"⟩

end Wordlist

end NetSurvey
