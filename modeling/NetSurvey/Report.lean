import NetSurvey.Outcome

/-!
# Reports

A report holds all outcomes of a scan and their summary. The summary divides the outcomes into
positive and negative ones, keeping their order, and gives the throughput of the scan. An outcome
may be missing where a probe gave none, and then there is no summary.
-/

namespace NetSurvey

/-- The figures of a scan. -/
structure Summary where
  total : Nat
  positiveCount : Nat
  positives : List Outcome
  negatives : List Outcome
  elapsed : Number
  /-- Operations for each second. -/
  rate : Float

namespace Summary

/-- The number of outcomes that are not positive. -/
def negativeCount (s : Summary) : Int :=
  (s.total : Int) - s.positiveCount

/-- The outcomes, unless one is missing. -/
def present : List (Option Outcome) → Except Failure (List Outcome)
  | [] => .ok []
  | none :: _ => .error (.noOutcome "positive")
  | some o :: os =>
    match present os with
    | .ok os => .ok (o :: os)
    | .error e => .error e

/-- Divides outcomes into positive and negative ones. -/
def divide (outcomes : List Outcome) : List Outcome × List Outcome :=
  (outcomes.filter (·.positive), outcomes.filter (!·.positive))

/-- The number of operations for each second; zero where no time has passed. -/
def throughput (iterations : Int) (elapsed : Number) : Except ArithmeticError Float :=
  if elapsed.isPositive then Number.quotient iterations elapsed else .ok 0.0

/-- Sums outcomes up. Without a number of iterations the outcomes are counted. -/
def ofOutcomes (outcomes : List (Option Outcome)) (elapsed : Number) (iterations : Option Int) :
    Except Failure Summary := do
  let present ← present outcomes
  let (positives, negatives) := divide present
  let rate ← (throughput (iterations.getD present.length) elapsed).mapError .arithmetic
  return {
    total := present.length
    positiveCount := positives.length
    positives, negatives, elapsed, rate }

end Summary

/-- Everything that a scan found out. -/
structure Report where
  /-- What was scanned. -/
  target : Text
  outcomes : List Outcome
  summary : Summary

namespace Report

/-- The records of all outcomes. -/
def records (r : Report) : List Fields :=
  r.outcomes.map Outcome.toRecord

/-- The records of the positive outcomes. -/
def positiveRecords (r : Report) : List Fields :=
  r.summary.positives.map Outcome.toRecord

end Report

end NetSurvey
