import NetSurvey.Address.Text
import NetSurvey.Text.Letter
import NetSurvey.Text.Quoted

/-!
# Base URLs

A base URL is accepted if its scheme is `http` or `https` and it names an authority. Taking a URL
apart may fail outright: brackets in the authority have to enclose an address of 128 bits or of a
future kind, and an authority may hold no character that is equivalent to a delimiter.
-/

namespace NetSurvey

open Text

/-- Why a URL cannot be taken apart. -/
inductive UrlError where
  /-- The brackets of the authority do not enclose a host. -/
  | brackets
  /-- An address of 32 bits stands in brackets. -/
  | dottedInBrackets
  /-- What stands in brackets is no address. -/
  | noAddress (host : Text)
  /-- What stands in brackets begins like an address of a future kind, but is none. -/
  | futureAddress
  /-- A character of the authority is equivalent to a delimiter. -/
  | hiddenDelimiter (authority : Text)
deriving DecidableEq, Repr

/-- What is said about a URL that cannot be taken apart. -/
def UrlError.message : UrlError → Text
  | .brackets => "Invalid IPv6 URL"
  | .dottedInBrackets => "An IPv4 address cannot be in brackets"
  | .noAddress host => quoted host ++ " does not appear to be an IPv4 or IPv6 address"
  | .futureAddress => "IPvFuture address is invalid"
  | .hiddenDelimiter authority =>
    "netloc '" ++ authority ++ "' contains invalid characters under NFKC normalization"

namespace Url

/-- The characters whose compatible forms hold one of the delimiters of a URL. -/
def delimiterForms : List (Nat × Nat) :=
  [(0x2047, 0x2049), (0x2100, 0x2101), (0x2105, 0x2106), (0x2A74, 0x2A74), (0xFE13, 0xFE13),
    (0xFE16, 0xFE16), (0xFE55, 0xFE56), (0xFE5F, 0xFE5F), (0xFE6B, 0xFE6B), (0xFF03, 0xFF03),
    (0xFF0F, 0xFF0F), (0xFF1A, 0xFF1A), (0xFF1F, 0xFF20)]

/-- Whether a character has a compatible form that holds a delimiter. -/
def hidesDelimiter (c : CodePoint) : Bool :=
  delimiterForms.any fun r => r.1 ≤ c.toNat && c.toNat ≤ r.2

/-- A character that may stand in a scheme. -/
def isSchemeChar (c : CodePoint) : Bool :=
  isAsciiLetter c || isAsciiDigit c || c = '+' || c = '-' || c = '.'

/-- Removes controls and spaces from the front, and tabulators and line ends everywhere. -/
def cleaned (cs : Text) : Text :=
  (cs.dropWhile (·.toNat ≤ 32)).filter fun c => c ≠ '\t' ∧ c ≠ '\r' ∧ c ≠ '\n'

/-- The scheme in lower case, and what follows it. Without a scheme the URL is left as it is. -/
def splitScheme (cs : Text) : Text × Text :=
  let name := before ':' cs
  match startingAt ':' cs with
  | _ :: rest =>
    if name.head?.any isAsciiLetter && name.all isSchemeChar then (lowered name, rest)
    else ([], cs)
  | [] => ([], cs)

/-- The authority, which stands after a double slash and ends at a delimiter. -/
def authority : Text → Text
  | .char '/' :: .char '/' :: cs => before '/' (before '?' (before '#' cs))
  | _ => []

/-- Whether a bracketed text is an address of a future kind: `v`, hexadecimal digits, a point and
at least one more character. -/
def isFutureAddress : Text → Bool
  | .char 'v' :: cs =>
    let isHex := fun c => (hexDigitValue? c).isSome
    !(cs.takeWhile isHex).isEmpty &&
      (match cs.dropWhile isHex with
      | .char '.' :: _ :: _ => true
      | _ => false)
  | _ => false

/-- Checks the text that stands for a host in brackets. -/
def checkBracketedHost (host : Text) : Except UrlError Unit :=
  if host.head? = some (.char 'v') then
    if isFutureAddress host then .ok () else .error .futureAddress
  else
    match Address.read? host with
    | none => .error (.noAddress host)
    | some a => if a.address.family = .v4 then .error .dottedInBrackets else .ok ()

/-- Checks an authority that holds brackets of both kinds. The host stands after the last at sign,
in brackets, with nothing before them, and nothing but a port may follow. -/
def checkBrackets (auth : Text) : Except UrlError Unit :=
  let place := afterLast '@' auth
  match startingAt '[' place with
  | _ :: inner =>
    if !(before '[' place).isEmpty then .error .brackets
    else
      let port := (startingAt ']' inner).drop 1
      if !port.isEmpty && port.head? ≠ some (.char ':') then .error .brackets
      else checkBracketedHost (before ']' inner)
  | [] => checkBracketedHost (before ':' place)

/-- Checks an authority. -/
def checkAuthority (auth : Text) : Except UrlError Unit := do
  if auth.contains '[' ≠ auth.contains ']' then throw .brackets
  if auth.contains '[' then checkBrackets auth
  if auth.any hidesDelimiter then throw (.hiddenDelimiter auth)

/-- Whether a base URL names a web server. -/
def isBase (url : Text) : Except UrlError Bool := do
  let (scheme, rest) := splitScheme (cleaned url)
  let auth := authority rest
  checkAuthority auth
  return (scheme = "http" || scheme = "https") && !auth.isEmpty

/-- A path under a base URL, with one slash between them. -/
def join (base path : Text) : Text :=
  withoutTrailing '/' base ++ "/" ++ withoutLeading '/' path

end Url

end NetSurvey
