import NetSurvey.Datum.Basic
import NetSurvey.Failure

/-!
# Outcomes

The outcome of a probe says of one candidate whether it is there, with a measurement, an error, and
further details. As a record, an outcome has its details beside its own fields, and a detail of the
same name takes the place of a field.
-/

namespace NetSurvey

/-- What a probe found out about a candidate. -/
structure Outcome where
  candidate : Datum
  positive : Bool
  measurement : Option Number := none
  error : Option Text := none
  details : Fields := []

namespace Outcome

/-- The fields of an outcome that are set, in order. -/
def ownFields (o : Outcome) : Fields :=
  let measured := o.measurement.map fun n => (Text.ofString "measurement", Datum.number n)
  let failed := o.error.map fun e => (Text.ofString "error", Datum.text e)
  ("candidate", o.candidate) :: ("positive", .bool o.positive) :: (measured.toList ++ failed.toList)

/-- An outcome as a record. -/
def toRecord (o : Outcome) : Fields :=
  o.ownFields.update o.details

/-- The outcome of a candidate that could not be probed. -/
def failed (candidate : Datum) (error : Text) : Outcome :=
  { candidate, positive := false, error := some error }

/-- A record with the measured time of an outcome, if there is one. -/
def withTime (o : Outcome) (record : Fields) : Fields :=
  match o.measurement with
  | some n => record.set "rtt_ms" (.number n)
  | none => record

/-- A detail, or nothing where it is not given. -/
def detail (o : Outcome) (key : Text) : Datum :=
  (o.details.get? key).getD .null

end Outcome

end NetSurvey
