import NetSurvey.Activity
import NetSurvey.Collector
import NetSurvey.Schedule.Gate

/-!
# Schedules, step by step

Every candidate gets a worker of its own. The launcher takes a permit before it starts a worker, and
the worker gives it back after its outcome has been recorded. When all workers are started, the
launcher takes every permit, which it can do only after every outcome has been recorded, gives them
back, and returns. If a worker cannot be started, the launcher gives the permit back and gives up.

The launcher and the workers run side by side. `State.step` is one step of one of them, so a run is
a sequence of steps in any order. Every step makes `State.remaining` smaller.
-/

namespace NetSurvey

/-- What a schedule has to do. -/
structure Plan (α : Type) where
  /-- A candidate as data. -/
  label : α → Datum
  /-- What probing a candidate comes to. -/
  probe : α → Attempt Float (Option Outcome)
  /-- Whether the worker cannot be started, by the number of workers started before. -/
  refusesStart : Nat → Bool := fun _ => false

/-- What is recorded about an attempt, and what is logged about it. -/
def settle (candidate : Datum) : Except Failure (Option Outcome) → Option Outcome × List Entry
  | .ok outcome => (outcome, [])
  | .error (.probe text) =>
    (some (.failed candidate text),
      [⟨.debug, .scheduler, "Probe failed for " ++ candidate.display ++ ": " ++ text⟩])
  | .error (.interrupt kind said) =>
    (some (.failed candidate (Failure.interruptText kind said)),
      [⟨.warning, .scheduler, "Probe for " ++ candidate.display ++ " interrupted: " ++
        Failure.interruptText kind said⟩])
  | .error e =>
    (some (.failed candidate e.message),
      [⟨.warning, .scheduler,
        "Unexpected error probing " ++ candidate.display ++ ": " ++ e.message⟩])

namespace Plan

variable {α : Type}

/-- What is recorded about a candidate, and what is logged about it. -/
def settled (plan : Plan α) (a : α) : Option Outcome × List Entry :=
  settle (plan.label a) (plan.probe a).result

/-- What is recorded about a candidate. -/
def outcome (plan : Plan α) (a : α) : Option Outcome :=
  (plan.settled a).1

end Plan

namespace Schedule

/-- Where the launcher is. -/
inductive Launcher where
  /-- About to take a permit for the next candidate. -/
  | ready
  /-- Holding a permit, about to start a worker. -/
  | holding
  /-- Holding a permit for a worker that could not be started. -/
  | refused
  /-- Taking all permits, of which it has `held`. -/
  | draining (held : Nat)
  /-- Giving all permits back, of which it has `held`. -/
  | refilling (held : Nat)
  | returned
  | gaveUp
deriving DecidableEq, Repr

/-- The launcher has nothing left to do: it has returned or given up. -/
def Launcher.hasExited : Launcher → Bool
  | .returned => true
  | .gaveUp => true
  | _ => false

/-- Where a worker is. -/
inductive Stage where
  | started
  /-- Counted as being at work. -/
  | probing
  /-- The candidate has been probed, and the outcome is to be recorded. -/
  | settled (outcome : Option Outcome)
  | recorded
  /-- No longer counted as being at work, but still holding its permit. -/
  | leaving

/-- The steps that a worker has before it. -/
def Stage.remaining : Stage → Nat
  | .started => 5
  | .probing => 4
  | .settled _ => 3
  | .recorded => 2
  | .leaving => 1

/-- The steps that the launcher has before it once all workers are started. -/
def Launcher.remaining (capacity : Nat) : Launcher → Nat
  | .ready => 2 * capacity + 3
  | .holding => 2 * capacity + 2
  | .refused => 1
  | .draining held => (capacity - held) + capacity + 2
  | .refilling held => held + 1
  | .returned => 0
  | .gaveUp => 0

/-- A worker and its candidate. Workers are numbered in the order in which they are started. -/
structure Worker (α : Type) where
  number : Nat
  candidate : α
  stage : Stage

/-- Who takes the next step: the launcher, or a worker by its place among those that are there. -/
inductive Actor where
  | launcher
  | worker (place : Nat)
deriving DecidableEq, Repr

/-- A moment of a run. -/
structure State (α : Type) where
  gate : Gate
  load : Load
  launcher : Launcher
  /-- The candidates that have no worker yet. -/
  pending : List α
  /-- The number of workers that have been started. -/
  launched : Nat
  /-- The workers that have not given their permit back. -/
  workers : List (Worker α)
  collector : Collector
  calls : Chronicle Call
  log : Chronicle Entry

namespace State

variable {α : Type}

/-- The start of a run. -/
def initial (capacity : Nat) (load : Load) (candidates : List α) (collector : Collector) :
    State α where
  gate := .ofCapacity capacity
  load := load
  launcher := .ready
  pending := candidates
  launched := 0
  workers := []
  collector := collector
  calls := .empty
  log := .empty

/-- What is logged at the end of a run. -/
def finishedEntry (s : State α) : Entry :=
  ⟨.debug, .scheduler,
    s!"Scheduler finished {s.launched} probes (peak in flight: {s.load.peak})."⟩

/-- A step of the launcher. -/
def launcherStep (plan : Plan α) (s : State α) : Option (State α) :=
  match s.launcher with
  | .ready =>
    match s.pending with
    | [] => some { s with launcher := .draining 0 }
    | _ :: _ => s.gate.acquire?.map fun g => { s with gate := g, launcher := .holding }
  | .holding =>
    match s.pending with
    | [] => none
    | a :: pending =>
      if plan.refusesStart s.launched then some { s with launcher := .refused }
      else some { s with
        launcher := .ready
        pending := pending
        launched := s.launched + 1
        workers := s.workers ++ [⟨s.launched, a, .started⟩] }
  | .refused => some { s with gate := s.gate.release, launcher := .gaveUp }
  | .draining held =>
    if held < s.gate.capacity then
      s.gate.acquire?.map fun g => { s with gate := g, launcher := .draining (held + 1) }
    else some { s with launcher := .refilling s.gate.capacity }
  | .refilling (held + 1) =>
    some { s with gate := s.gate.release, launcher := .refilling held }
  | .refilling 0 => some { s with launcher := .returned, log := s.log.add s.finishedEntry }
  | .returned => none
  | .gaveUp => none

/-- Brings the worker at a place to another stage. -/
def advance (s : State α) (place : Nat) (w : Worker α) (stage : Stage) : State α :=
  { s with workers := s.workers.set place { w with stage } }

/-- A step of the worker at a place. -/
def workerStep (plan : Plan α) (s : State α) (place : Nat) (w : Worker α) : State α :=
  match w.stage with
  | .started => { s.advance place w .probing with load := s.load.enter }
  | .probing =>
    let (outcome, entries) := plan.settled w.candidate
    { s.advance place w (.settled outcome) with
      calls := s.calls.addAll (plan.probe w.candidate).calls
      log := (s.log.addAll (plan.probe w.candidate).log).addAll entries }
  | .settled outcome =>
    { s.advance place w .recorded with collector := s.collector.add outcome }
  | .recorded => { s.advance place w .leaving with load := s.load.leave }
  | .leaving => { s with gate := s.gate.release, workers := s.workers.eraseIdx place }

/-- One step of the launcher or of a worker, if it can take one. -/
def step (plan : Plan α) (s : State α) : Actor → Option (State α)
  | .launcher => s.launcherStep plan
  | .worker place => s.workers[place]?.map (s.workerStep plan place)

/-! ### How much is left to do -/

/-- The steps that workers have before them. -/
def remainingOf : List (Worker α) → Nat
  | [] => 0
  | w :: ws => w.stage.remaining + remainingOf ws

@[simp]
theorem remainingOf_append (before after : List (Worker α)) :
    remainingOf (before ++ after) = remainingOf before + remainingOf after := by
  induction before with
  | nil => simp [remainingOf]
  | cons w ws ih => simp [remainingOf, ih, Nat.add_assoc]

/-- A bound on the steps that are left: each candidate without a worker takes two steps of the
launcher and five of its worker. -/
def remaining (s : State α) : Nat :=
  s.launcher.remaining s.gate.capacity + 7 * s.pending.length +
    remainingOf s.workers

/-- The one at a place of a list, with those before it and those after it. -/
theorem exists_split {β : Type} {xs : List β} {place : Nat} {x : β} (h : xs[place]? = some x) :
    ∃ before after, xs = before ++ x :: after ∧
      (∀ y, xs.set place y = before ++ y :: after) ∧ xs.eraseIdx place = before ++ after := by
  obtain ⟨hlt, rfl⟩ := List.getElem?_eq_some_iff.1 h
  refine ⟨xs.take place, xs.drop (place + 1), ?_, fun y => ?_, ?_⟩
  · rw [← List.drop_eq_getElem_cons hlt, List.take_append_drop]
  · exact List.set_eq_take_append_cons_drop.trans (if_pos hlt)
  · exact List.eraseIdx_eq_take_drop_succ xs place

theorem remaining_launcherStep_lt {plan : Plan α} {s t : State α}
    (h : s.launcherStep plan = some t) : t.remaining < s.remaining := by
  unfold launcherStep at h
  split at h
  case h_1 hl =>
    split at h
    · cases h
      simp [remaining, hl, Launcher.remaining]
      omega
    · obtain ⟨g, hg, rfl⟩ := Option.map_eq_some_iff.1 h
      obtain ⟨-, rfl⟩ := Gate.acquire?_eq_some_iff.1 hg
      simp [remaining, hl, Launcher.remaining]
  case h_2 hl =>
    split at h
    · cases h
    case h_2 hp =>
      split at h
      · cases h
        simp [remaining, hl, Launcher.remaining]
      · cases h
        simp [remaining, hl, hp, Launcher.remaining, Stage.remaining, remainingOf]
        omega
  case h_3 hl =>
    cases h
    simp [remaining, hl, Launcher.remaining]
  case h_4 held hl =>
    split at h
    case isTrue hlt =>
      obtain ⟨g, hg, rfl⟩ := Option.map_eq_some_iff.1 h
      obtain ⟨-, rfl⟩ := Gate.acquire?_eq_some_iff.1 hg
      simp only [remaining, hl, Launcher.remaining]
      omega
    · cases h
      simp only [remaining, hl, Launcher.remaining]
      omega
  case h_5 hl =>
    cases h
    simp [remaining, hl, Launcher.remaining]
  case h_6 hl =>
    cases h
    simp [remaining, hl, Launcher.remaining]
  all_goals cases h

/-- Every step leaves less to do. -/
theorem remaining_step_lt {plan : Plan α} {s t : State α} {actor : Actor}
    (h : s.step plan actor = some t) : t.remaining < s.remaining := by
  cases actor with
  | launcher => exact remaining_launcherStep_lt h
  | worker place =>
    obtain ⟨w, hw, rfl⟩ := Option.map_eq_some_iff.1 h
    obtain ⟨before, after, hs, hset, herase⟩ := exists_split hw
    unfold workerStep
    split <;> rename_i hstage
    all_goals
      simp only [remaining, advance, hset, herase, Gate.capacity_release]
      simp [hs, hstage, Stage.remaining, remainingOf]

end State

end Schedule

end NetSurvey
