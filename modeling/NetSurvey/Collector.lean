import NetSurvey.Chronicle
import NetSurvey.Outcome

/-!
# Collectors

A collector gathers outcomes in the order in which they are added. What is taken out of it is a
copy: neither changes the other afterwards. A worker may add that there is no outcome.
-/

namespace NetSurvey

/-- Gathered outcomes, in the order in which they were added. -/
structure Collector where
  outcomes : Chronicle (Option Outcome) := .empty

namespace Collector

/-- A collector with nothing in it. -/
def empty : Collector := {}

/-- Adds an outcome at the end. -/
def add (c : Collector) (o : Option Outcome) : Collector :=
  ⟨c.outcomes.add o⟩

/-- The number of outcomes. -/
def size (c : Collector) : Nat := c.outcomes.size

/-- The outcomes in the order in which they were added. -/
def toList (c : Collector) : List (Option Outcome) := c.outcomes.toList

/-- The candidates of all outcomes, unless an outcome is missing. -/
def candidates (c : Collector) : Except Failure (List Datum) :=
  c.toList.mapM fun
    | some o => .ok o.candidate
    | none => .error (.noOutcome "candidate")

/-- Removes the last outcome of a copy. -/
def takeLast (copy : List (Option Outcome)) : Except Failure (List (Option Outcome)) :=
  if copy.isEmpty then .error .nothingToTake else .ok copy.dropLast

@[simp]
theorem toList_add (c : Collector) (o : Option Outcome) : (c.add o).toList = c.toList ++ [o] := by
  simp [add, toList]

@[simp]
theorem length_toList (c : Collector) : c.toList.length = c.size := by
  simp [toList, size]

@[simp]
theorem size_add (c : Collector) (o : Option Outcome) : (c.add o).size = c.size + 1 := by
  simp [add, size]

end Collector

end NetSurvey
