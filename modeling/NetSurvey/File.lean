import NetSurvey.Text.Fields
import NetSurvey.Text.Unencodable
import NetSurvey.Text.Utf8

/-!
# Files

Files are opened in a directory that is empty at the start. A path is first simplified, so that it
names a file by the components that lead to it.
-/

namespace NetSurvey

open Text

/-- Why a file cannot be opened. -/
inductive OpenError where
  | impossiblePath
  /-- The path has no bytes. -/
  | noBytes
  | isDirectory
  | noDirectory
  | notADirectory
  | nameTooLong
deriving DecidableEq, Repr

/-- Where a path leads to. -/
structure Place where
  /-- Whether the path starts from the root. -/
  fromRoot : Bool
  /-- How often it goes back from where it starts. -/
  ups : Nat := 0
  /-- The names that lead on from there. -/
  names : List Text := []
deriving DecidableEq, Repr

namespace Place

/-- Goes on by a component: an empty one and a point change nothing, and two points go back. There
is nothing to go back to from the root. -/
def go (p : Place) (part : Text) : Place :=
  if part = [] ∨ part = "." then p
  else if part = ".." then
    if !p.names.isEmpty then { p with names := p.names.dropLast }
    else if p.fromRoot then p
    else { p with ups := p.ups + 1 }
  else { p with names := p.names ++ [part] }

/-- The place that a path leads to. -/
def ofPath (path : Text) : Place :=
  (fields '/' path).foldl go { fromRoot := path.head? = some (.char '/') }

end Place

namespace File

/-- The longest name of a file, in bytes. -/
def longestName : Nat := 255

/-- The longest path, in bytes. -/
def longestPath : Nat := 4095

/-- The length of the path of the directory in which files are opened, in bytes. It is that of a
fresh temporary directory, such as one with a name of eleven characters under `/tmp`; a program that
is started elsewhere has another. It matters for paths near the longest one, and for the places that
are told of code points without bytes. -/
def directoryLength : Nat := 16

/-- The number of bytes of a code point in a path. -/
def pointLength? (c : CodePoint) : Option Nat :=
  match pointBytes? c with
  | some bytes => some bytes.length
  | none => if isByteMark c then some 1 else none

/-- The number of bytes of a text in a path. -/
def length? (t : Text) : Option Nat :=
  (t.mapM pointLength?).map (List.foldl (· + ·) 0)

/-- The number of bytes of the path to a place. -/
def pathLength (p : Place) : Nat :=
  let names := p.names.foldl (fun n name => n + 1 + (length? name).getD 0) 0
  if p.fromRoot || 0 < p.ups then names else directoryLength + names

/-- What prevents a path from being encoded. The path of the directory stands before a path that
does not start from the root, with a slash between them. -/
def unencodable? (path : Text) : Option Unencodable :=
  let before := if path.head? = some (.char '/') then 0 else directoryLength + 1
  (Unencodable.find? isSystemPoint path).map fun found =>
    { found with first := before + found.first, last := before + found.last }

/-- Opens a file for writing, and gives the names of the files that then exist. -/
def create (files : List Text) (path : Text) : Except OpenError (List Text) :=
  if (length? path).isNone then .error .noBytes
  else if path.contains (Char.ofNat 0) then .error .impossiblePath
  else
    let place := Place.ofPath path
    let isInside := !place.fromRoot && place.ups = 0
    if longestPath < pathLength place then .error .nameTooLong
    else
      match place.names with
      | [] => .error .isDirectory
      | first :: rest =>
        if longestName < (length? first).getD 0 then .error .nameTooLong
        else if rest.isEmpty && !place.fromRoot then
          .ok (if isInside && !files.contains first then files ++ [first] else files)
        else if isInside && files.contains first then .error .notADirectory
        else .error .noDirectory

end File

end NetSurvey
