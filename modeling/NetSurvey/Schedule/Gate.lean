/-!
# Admission

A gate has a fixed number of permits. Whoever takes one waits until one is free; whoever gives one
back makes it free again. Giving back more than was taken is a fault, which is counted.

The load counts those who are at work, and remembers the greatest count.
-/

namespace NetSurvey

/-- The permits of a gate. -/
structure Gate where
  capacity : Nat
  free : Nat
  /-- How often a permit was given back while all were free. -/
  faults : Nat := 0
deriving DecidableEq, Repr

namespace Gate

/-- A gate with all permits free. -/
def ofCapacity (capacity : Nat) : Gate := ⟨capacity, capacity, 0⟩

/-- Takes a permit, if one is free. -/
def acquire? (g : Gate) : Option Gate :=
  if 0 < g.free then some { g with free := g.free - 1 } else none

/-- Gives a permit back. -/
def release (g : Gate) : Gate :=
  if g.free < g.capacity then { g with free := g.free + 1 } else { g with faults := g.faults + 1 }

theorem acquire?_eq_some_iff {g g' : Gate} :
    g.acquire? = some g' ↔ 0 < g.free ∧ g' = { g with free := g.free - 1 } := by
  simp only [acquire?]
  split <;> simp_all [eq_comm]

@[simp]
theorem capacity_release (g : Gate) : g.release.capacity = g.capacity := by
  unfold release
  split <;> rfl

theorem release_of_lt {g : Gate} (h : g.free < g.capacity) :
    g.release = { g with free := g.free + 1 } := by
  simp [release, h]

end Gate

/-- How many are at work, and how many there were at most. -/
structure Load where
  inFlight : Nat := 0
  peak : Nat := 0
deriving DecidableEq, Repr

namespace Load

/-- One more is at work. -/
def enter (l : Load) : Load :=
  ⟨l.inFlight + 1, max l.peak (l.inFlight + 1)⟩

/-- One less is at work. -/
def leave (l : Load) : Load :=
  { l with inFlight := l.inFlight - 1 }

end Load

end NetSurvey
