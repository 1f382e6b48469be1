import NetSurvey.Report
import NetSurvey.Probe.Basic
import NetSurvey.Schedule.Run

/-!
# Scans

A scan probes every candidate and sums the outcomes up. It reads a stopwatch before the first probe
and after the last one.
-/

namespace NetSurvey

open Schedule

/-- The readings of a stopwatch that are still to come. The last one is never used up. -/
abbrev Stopwatch := List Number

/-- An activity with a stopwatch. -/
abbrev Scan (α : Type) : Type := Activity Stopwatch α

namespace Stopwatch

/-- The next reading. -/
def reading : Stopwatch → Number
  | [] => .float 0.0
  | n :: _ => n

/-- The readings after the next one. -/
def rest : Stopwatch → Stopwatch
  | _ :: m :: ms => m :: ms
  | ms => ms

end Stopwatch

namespace Scan

/-- Reads the stopwatch. -/
def readTime : Scan Number := do
  let watch ← Activity.current
  Activity.change Stopwatch.rest
  return watch.reading

/-- Takes over what a schedule did. -/
def ofFinished {τ : Type} (f : Scheduler.Finished τ) : Scan Collector := fun watch =>
  ⟨f.result.map fun _ => f.collector, watch, f.calls, f.log⟩

/-- What is logged at the end of a scan. -/
def completedEntry (target : Text) (elapsed : String) (summary : Summary) : Entry :=
  let name : Text := if target.isEmpty then "candidates" else target
  ⟨.info, .scheduler, "Scan of " ++ name ++ s!" completed in {elapsed} seconds: " ++
    s!"{summary.positiveCount}/{summary.total} positive."⟩

/-- The outcomes that are there. -/
def outcomesOf (c : Collector) : List Outcome :=
  c.toList.filterMap id

/-- Carries a plan out on all candidates with a number of workers. -/
def carryOut {α : Type} (order : Order) (plan : Plan α) (candidates : List α) (workers : Int)
    (target : Text) : Scan Report := do
  let scheduler ← Activity.ofExcept (Scheduler.ofWorkers workers)
  let start ← readTime
  let collector ← ofFinished (scheduler.run plan order candidates .empty)
  let elapsed ← Activity.ofArithmetic ((← readTime).sub start)
  let summary ← Activity.ofExcept
    (Summary.ofOutcomes collector.toList elapsed (some candidates.length))
  let seconds ← Activity.ofArithmetic (elapsed.fixed 2)
  Activity.note [completedEntry target seconds summary]
  return { target, outcomes := outcomesOf collector, summary }

/-- The plan that probes each candidate from the start of the clock on. -/
def planOf {α : Type} (w : World) (label : α → Datum) (probe : α → Probe Outcome) : Plan α where
  label := label
  probe a :=
    let attempt := (probe a).run w.start
    ⟨attempt.result.map some, attempt.state, attempt.calls, attempt.log⟩

end Scan

end NetSurvey
