import NetSurvey.Service.Target
import NetSurvey.Text.Blank
import NetSurvey.Text.Unencodable

/-!
# Requests

A request has a method, a target, headers and a body. It can be sent if the target is a URL, the
headers are in ASCII, and the body can be encoded.

How a request is sent follows httpx, on which FastAPI's test client stands, and which bodies count
as JSON follows FastAPI.
-/

namespace NetSurvey.Service

open Text

/-- Why a request cannot be sent. -/
inductive SendError where
  | target (cause : TargetError)
  /-- A header is not in ASCII. -/
  | header (found : Unencodable)
  /-- The body, or a part of the target, has half of a surrogate pair. -/
  | body (found : Unencodable)
deriving DecidableEq, Repr

/-- What is said about a request that cannot be sent. -/
def SendError.message : SendError → Text
  | target cause => cause.message
  | header found => found.notAscii
  | body found => found.notUtf8

/-- A request. No body is an empty one. -/
structure Request where
  method : Text
  target : Text
  headers : List (Text × Text) := []
  body : Text := []

namespace Request

/-- The value of a header, whose name is in letters of any case. -/
def header? (r : Request) (name : Text) : Option Text :=
  (r.headers.find? fun h => lowered h.1 == lowered name).map (·.2)

/-- Whether a type of content is JSON: `application/json`, or with `+json` at its end. Parameters
after a semicolon do not matter. -/
def isJsonType (type : Text) : Bool :=
  match fields '/' (lowered (trim (before ';' type))) with
  | [main, sub] => main = "application" && (sub = "json" || (Text.ofString "+json").isSuffixOf sub)
  | _ => false

/-- Whether the body is JSON, which it is where nothing is said about it. -/
def hasJson (r : Request) : Bool :=
  match r.header? "Content-Type" with
  | none => true
  | some type => type.isEmpty || isJsonType type

/-- What prevents a text from being sent in ASCII. -/
def checkAscii (t : Text) : Except SendError Unit :=
  match Unencodable.find? (fun c => c.toNat < 128) t with
  | some found => .error (.header found)
  | none => .ok ()

/-- What prevents a text from being sent in UTF-8. -/
def checkWhole (t : Text) : Except SendError Unit :=
  match Unencodable.find? CodePoint.isChar t with
  | some found => .error (.body found)
  | none => .ok ()

/-- The path that the service is asked for, and the bytes of the body. Halves of surrogate pairs in
the target are met one by one, each at the front of itself. -/
def send (r : Request) : Except SendError (Text × List UInt8) := do
  let path ← (Target.path r.target).mapError .target
  if let some half := r.target.find? (!·.isChar) then throw (.body ⟨half, 0, 0⟩)
  r.headers.forM fun h => do
    checkAscii h.1
    checkAscii h.2
  checkWhole r.body
  return (path, (encodeUtf8? r.body).getD [])

end Request

end NetSurvey.Service
