import NetSurvey.Failure
import NetSurvey.Text.Letter

/-!
# Host and domain names

A name is made of ASCII letters, digits, points and hyphens. A domain name ends with a point and at
least two letters. In either case one line feed at the very end is overlooked.

What a caller gives for a name may be any data. What is not there is no name; what is there and is
no text is a failure.
-/

namespace NetSurvey.Hostname

open Text

/-- A character that may stand in a name. -/
def isNameChar (c : CodePoint) : Bool :=
  isAsciiLetter c || isAsciiDigit c || c = '.' || c = '-'

/-- Removes one line feed from the end. -/
def withoutFinalNewline (cs : Text) : Text :=
  if cs.getLast? = some (.char '\n') then cs.dropLast else cs

/-- Whether a text is a name. -/
def isName (cs : Text) : Bool :=
  let body := withoutFinalNewline cs
  !body.isEmpty && body.all isNameChar

/-- Whether a text is a domain name. Read from its end, it is two or more letters, a point, and at
least one further character. -/
def isDomainText (cs : Text) : Bool :=
  let back := (withoutFinalNewline cs).reverse
  match back.dropWhile isAsciiLetter with
  | .char '.' :: front =>
    2 ≤ (back.takeWhile isAsciiLetter).length && !front.isEmpty && front.all isNameChar
  | _ => false

/-- Whether a text is a name or an address. -/
def isTargetText (cs : Text) : Bool :=
  isName cs || Address.isAddress cs

/-- Whether a datum is a text of some form. -/
def isText (p : Text → Bool) : Datum → Except Failure Bool
  | .text cs => .ok (p cs)
  | d => if d.isPresent then .error (.noText d.kindName) else .ok false

/-- Whether a domain is given and well formed. -/
def isDomain (domain : Datum) : Except Failure Bool :=
  isText isDomainText domain

/-- Whether a target is given and is a name or an address. -/
def isTarget (target : Datum) : Except Failure Bool :=
  isText isTargetText target

/-- Whether a datum is an address: a text, or the number of one. -/
def isAddress : Datum → Bool
  | .text cs => Address.isAddress cs
  | .number (.int n) => Address.isAddressNumber n
  | .bool _ => true
  | _ => false

/-- Whether a name has a point. -/
def hasPoint : Datum → Except Failure Bool
  | .text cs => .ok (cs.contains '.')
  | d =>
    match d.parts? with
    | some ds => .ok (ds.any (·.same (.text ".")))
    | none => .error (.notSearchable d.kindName)

/-- Appends a domain to a name that has no point. -/
def qualify (hostname domain : Datum) : Except Failure Datum := do
  if domain.isPresent then
    if !(← hasPoint hostname) then
      return .text (hostname.display ++ "." ++ domain.display)
  return hostname

end NetSurvey.Hostname
