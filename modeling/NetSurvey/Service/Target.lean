import NetSurvey.Text.Fields
import NetSurvey.Text.Utf8
import NetSurvey.Url

/-!
# Targets of requests

A client writes the target of a request as a URL, whole or in part. What is left out is filled in
from the service's own address, so only the path matters, and what stands before and after it is
dropped. Points that stand for a directory are resolved, and escapes are read twice: once by the
client, and once by the service.

The rules are those of httpx, on which FastAPI's test client stands.
-/

namespace NetSurvey.Service

open Text

/-- Why a target is no URL. -/
inductive TargetError where
  | tooLong
  /-- A control character stands at a place. -/
  | control (c : CodePoint) (place : Nat)
  /-- Nothing but a path is given, and it begins like an authority. -/
  | doubleSlash
  /-- Nothing but a path is given, and it begins like what follows a scheme. -/
  | colon
deriving DecidableEq, Repr

/-- What is said about a target that is no URL. -/
def TargetError.message : TargetError → Text
  | tooLong => "URL too long"
  | control c place =>
    "Invalid non-printable ASCII character in URL, " ++ quoted [c] ++ s!" at position {place}."
  | doubleSlash => "Relative URLs cannot have a path starting with '//'"
  | colon => "Relative URLs cannot have a path starting with ':'"

namespace Target

/-- The most characters of a target. -/
def lengthLimit : Nat := 65536

/-- An ASCII character that is not printed. -/
def isControl (c : CodePoint) : Bool :=
  c.toNat < 32 || c.toNat = 127

/-- A target without a scheme, and whether it has one that is not empty. -/
def splitScheme (cs : Text) : Bool × Text :=
  let name := cs.takeWhile Url.isSchemeChar
  match cs.dropWhile Url.isSchemeChar with
  | .char ':' :: rest =>
    if name.isEmpty then (false, rest)
    else if name.head?.any isAsciiLetter then (true, rest)
    else (false, cs)
  | _ => (false, cs)

/-- The authority at the front, and what follows it. -/
def splitAuthority : Text → Text × Text
  | .char '/' :: .char '/' :: cs =>
    let authority := before '/' (before '?' (before '#' cs))
    (authority, cs.drop authority.length)
  | cs => ([], cs)

/-- Whether an authority names anything. -/
def isNamed (authority : Text) : Bool :=
  authority.any fun c => c ≠ '@' ∧ c ≠ ':'

/-- Goes on by a component of a path: one point stays, and two points go back, but not beyond the
root. -/
def go (gone : List Text) (component : Text) : List Text :=
  if component = "." then gone
  else if component = ".." then (if gone = [] ∨ gone = [[]] then gone else gone.dropLast)
  else gone ++ [component]

/-- A path without points that stand for a directory. -/
def resolved (path : Text) : Text :=
  joined "/" ((fields '/' path).foldl go [])

/-- The bytes of a text in which an escape stands for a byte. Halves of surrogate pairs are left
out. -/
def unescapedBytes : Text → List UInt8
  | .char '%' :: a :: b :: cs =>
    match hexDigitValue? a, hexDigitValue? b with
    | some m, some n => UInt8.ofNat (16 * m + n) :: unescapedBytes cs
    | _, _ => 37 :: unescapedBytes (a :: b :: cs)
  | c :: cs => (pointBytes? c).getD [] ++ unescapedBytes cs
  | [] => []

/-- A text without escapes. -/
def unescaped (cs : Text) : Text :=
  decodeUtf8 (unescapedBytes cs)

/-- The path of a target as the client sends it. -/
def sentPath (target : Text) : Except TargetError Text :=
  let (hasScheme, rest) := splitScheme target
  let (authority, rest) := splitAuthority rest
  let path := before '?' (before '#' rest)
  let named := isNamed authority
  if hasScheme && named then .ok (resolved path)
  else if hasScheme || named then .ok (resolved ("/" ++ withoutLeading '/' (resolved path)))
  else if path.take 2 = "//" then .error .doubleSlash
  else if path.head? = some (.char ':') then .error .colon
  else .ok (resolved ("/" ++ withoutLeading '/' path))

/-- The path that the service is asked for. An empty one is the root. -/
def path (target : Text) : Except TargetError Text := do
  if lengthLimit < target.length then throw .tooLong
  if let some place := target.findIdx? isControl then
    throw (.control (target.getD place ' ') place)
  let path ← sentPath target
  return unescaped (unescaped (if path.isEmpty then "/" else path))

end Target

end NetSurvey.Service
