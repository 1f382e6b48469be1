import NetSurvey.Outcome
import NetSurvey.World

/-!
# Probes

A probe is an activity with a clock of its own. The clock stands still but for the calls that take
time. Elapsed times are whole milliseconds, rounded toward zero.
-/

namespace NetSurvey

/-- An activity with a clock. -/
abbrev Probe (α : Type) : Type := Activity Float α

namespace Probe

/-- The reading of the clock. -/
def now : Probe Float := Activity.current

/-- Moves the clock by the cost of a call. A cost that is beyond all doubles cannot be spent. -/
def spend : (cost : Option Number) → Probe Unit
  | none => return ()
  | some cost => do
    let time ← Activity.ofArithmetic cost.toFloat
    Activity.change (· + time)

/-- The whole milliseconds between two readings. -/
def milliseconds (start finish : Float) : Except ArithmeticError Int :=
  Number.truncate ((finish - start) * 1000.0)

/-- The whole milliseconds since a reading. -/
def elapsed (start : Float) : Probe Int := do
  Activity.ofArithmetic (milliseconds start (← now))

/-- Writes an entry to the log of the probes. -/
def log (level : Level) (message : Text) : Probe Unit :=
  Activity.note [⟨level, .probes, message⟩]

end Probe

end NetSurvey
