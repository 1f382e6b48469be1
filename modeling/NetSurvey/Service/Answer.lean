import NetSurvey.Service.Form

/-!
# Answers

An answer has a status and a body. A body is written as JSON in UTF-8, which has no text for numbers
that are not finite and no bytes for halves of surrogate pairs. Where a body cannot be written, the
answer says only that something went wrong in the service. An answer with complaints tells what was
found in the request as well, so it has to be possible to write that too.
-/

namespace NetSurvey.Service

/-- Whether the name of a field marks it as internal; such fields are not written. -/
def isInternal (key : Text) : Bool :=
  (Text.ofString "_sa").isPrefixOf key

mutual

/-- Whether a datum can be written. -/
def isWritable : Datum → Bool
  | .number (.float x) => x.isFinite
  | .text t => t.isWhole
  | .list items => areWritable items
  | .record fields => haveWritable fields
  | _ => true

/-- Whether all items can be written. -/
def areWritable : List Datum → Bool
  | [] => true
  | d :: ds => isWritable d && areWritable ds

/-- Whether all fields can be written, with their names, or need not be. -/
def haveWritable : List (Text × Datum) → Bool
  | [] => true
  | (k, d) :: fields => (isInternal k || (k.isWhole && isWritable d)) && haveWritable fields

end

/-- The answer to a request. -/
structure Answer where
  status : Nat
  body : Datum

namespace Answer

/-- Something went wrong in the service. -/
def serverError : Answer :=
  ⟨500, .text "Internal Server Error"⟩

/-- An answer with data. -/
def data (status : Nat) (d : Datum) : Answer :=
  if isWritable d then ⟨status, d⟩ else serverError

/-- An answer that says what went wrong. -/
def detail (status : Nat) (text : Text) : Answer :=
  data status (.record [("detail", .text text)])

/-- An answer with complaints about the body of a request. -/
def complaints (cs : List Complaint) : Answer :=
  if cs.all fun c => isWritable c.found then ⟨422, .list (cs.map Complaint.toDatum)⟩
  else serverError

/-- An answer whose body is left out, as it is where only the head is asked for. -/
def withoutBody (a : Answer) : Answer :=
  { a with body := .text [] }

end Answer

end NetSurvey.Service
