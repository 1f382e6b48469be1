import NetSurvey.Schedule.State

/-!
# Runs of a schedule

A run is driven by an order, which says at each moment who takes the next step, until the launcher
has exited. In the serial order a worker finishes before the launcher goes on. In virtual time a
probe takes as long as its candidate says, and the worker that ends first, or was started first,
goes on.

A launcher that gives up does not wait for the workers that it has started. They stay behind, and
are still counted in the load of the scheduler.
-/

namespace NetSurvey

namespace Schedule

variable {α τ : Type}

/-- The first step that somebody can take. -/
def State.anyStep (plan : Plan α) (s : State α) : Option (State α) :=
  match s.step plan .launcher with
  | some next => some next
  | none => s.step plan (.worker 0)

/-- Takes at most `fuel` steps, and none once the launcher has exited. The choice of the next step
may depend on what is remembered; where the chosen one cannot take a step, somebody else does. -/
def drive (plan : Plan α) (choose : τ → State α → τ × Actor) :
    (fuel : Nat) → τ → State α → τ × State α
  | 0, memory, s => (memory, s)
  | fuel + 1, memory, s =>
    if s.launcher.hasExited then (memory, s)
    else
      let chosen := choose memory s
      match s.step plan chosen.2 with
      | some next => drive plan choose fuel chosen.1 next
      | none =>
        match s.anyStep plan with
        | some next => drive plan choose fuel chosen.1 next
        | none => (chosen.1, s)

/-- Takes steps until the launcher has exited. -/
def finish (plan : Plan α) (choose : τ → State α → τ × Actor) (memory : τ) (s : State α) :
    τ × State α :=
  drive plan choose s.remaining memory s

/-- If there is no first step, nobody can take one. -/
theorem State.step_of_anyStep_eq_none {plan : Plan α} {s : State α}
    (h : s.anyStep plan = none) (actor : Actor) : s.step plan actor = none := by
  unfold anyStep at h
  split at h
  · cases h
  case h_2 hl =>
    cases actor with
    | launcher => exact hl
    | worker place =>
      have hw : s.workers = [] := by
        cases hs : s.workers with
        | nil => rfl
        | cons w ws => simp [step, hs] at h
      simp [step, hw]

theorem State.remaining_anyStep_lt {plan : Plan α} {s t : State α}
    (h : s.anyStep plan = some t) : t.remaining < s.remaining := by
  unfold State.anyStep at h
  split at h
  case h_1 first hf =>
    cases h
    exact State.remaining_step_lt hf
  case h_2 => exact State.remaining_step_lt h

/-- With enough fuel, driving ends when the launcher has exited or nobody can take a step. -/
theorem hasExited_drive_or_step_eq_none (plan : Plan α) (choose : τ → State α → τ × Actor)
    (memory : τ) {fuel : Nat} {s : State α} (h : s.remaining ≤ fuel) :
    (drive plan choose fuel memory s).2.launcher.hasExited ∨
      ∀ actor, (drive plan choose fuel memory s).2.step plan actor = none := by
  induction fuel generalizing memory s with
  | zero =>
    refine .inr fun actor => ?_
    cases hs : s.step plan actor with
    | none => exact hs
    | some t =>
      have := State.remaining_step_lt hs
      omega
  | succ fuel ih =>
    simp only [drive]
    split
    case isTrue hexit => exact .inl hexit
    case isFalse =>
      split
      case h_1 next hn =>
        have := State.remaining_step_lt hn
        exact ih _ (by omega)
      case h_2 =>
        split
        case h_1 next hn =>
          have := State.remaining_anyStep_lt hn
          exact ih _ (by omega)
        case h_2 hn => exact .inr fun actor => State.step_of_anyStep_eq_none hn actor

/-- Says at each moment who takes the next step. -/
structure Order where
  next : {α : Type} → State α → Actor

/-- A worker finishes before anybody else goes on. -/
def Order.serial : Order where
  next s :=
    match s.workers with
    | _ :: _ => .worker 0
    | [] => .launcher

/-! ### Virtual time -/

/-- The time, and when the probes that are going on will end. -/
structure Agenda where
  now : Int := 0
  ends : List (Int × Nat) := []

/-- The entry with the least time, and of those the one with the least number. -/
def earliest : List (Int × Nat) → Option (Int × Nat)
  | [] => none
  | e :: es =>
    match earliest es with
    | none => some e
    | some f => if e.1 < f.1 ∨ (e.1 = f.1 ∧ e.2 ≤ f.2) then some e else some f

/-- The first worker, with its place, that is at a stage of some kind. -/
def firstAt (p : Stage → Bool) (ws : List (Worker α)) : Option (Worker α × Nat) :=
  ws.zipIdx.find? fun w => p w.1.stage

/-- A worker that has been started and has not begun. -/
def Stage.isStarted : Stage → Bool
  | started => true
  | _ => false

/-- A worker whose probe has ended. -/
def Stage.hasProbed : Stage → Bool
  | started => false
  | probing => false
  | _ => true

/-- In virtual time, a worker that has been started begins at once, and one that has ended its probe
finishes; then the launcher goes on; if nobody can, time goes on to the next end. -/
def inVirtualTime (plan : Plan α) (duration : α → Int) (agenda : Agenda) (s : State α) :
    Agenda × Actor :=
  match firstAt Stage.isStarted s.workers with
  | some (w, place) =>
    ({ agenda with ends := (agenda.now + duration w.candidate, w.number) :: agenda.ends },
      .worker place)
  | none =>
    match firstAt Stage.hasProbed s.workers with
    | some (_, place) => (agenda, .worker place)
    | none =>
      if (s.launcherStep plan).isSome then (agenda, .launcher)
      else
        match earliest agenda.ends with
        | some (time, number) =>
          (⟨time, agenda.ends.filter (·.2 ≠ number)⟩,
            .worker (s.workers.findIdx (·.number = number)))
        | none => (agenda, .launcher)

end Schedule

/-! ### Schedulers -/

/-- A number of workers that may be at work at once, and the load of all runs so far. -/
structure Scheduler where
  capacity : Nat
  load : Load := {}
  capacity_pos : 0 < capacity

namespace Scheduler

open Schedule

variable {α τ : Type}

/-- The number of workers that is taken where none is given. -/
def defaultWorkers : Int := 50

/-- A scheduler with at least one worker. -/
def ofWorkers (workers : Int) : Except Failure Scheduler :=
  if h : workers < 1 then .error (.fewWorkers workers)
  else .ok ⟨workers.toNat, {}, by omega⟩

/-- The first moment of a run. -/
def start (s : Scheduler) (candidates : List α) (collector : Collector) : State α :=
  .initial s.capacity s.load candidates collector

/-- What a run comes to when the launcher exits. -/
structure Finished (τ : Type) where
  scheduler : Scheduler
  collector : Collector
  /-- Whether all workers could be started. -/
  result : Except Failure Unit
  calls : List Call
  log : List Entry
  /-- What the order remembered. -/
  memory : τ

/-- Runs a plan on candidates, and records into a collector. -/
def runWith (s : Scheduler) (plan : Plan α) (choose : τ → State α → τ × Actor) (memory : τ)
    (candidates : List α) (collector : Collector) : Finished τ :=
  let (memory, final) := finish plan choose memory (s.start candidates collector)
  { scheduler := { s with load := final.load }
    collector := final.collector
    result := match final.launcher with | .gaveUp => .error .startRefused | _ => .ok ()
    calls := final.calls.toList
    log := final.log.toList
    memory }

/-- Runs a plan in an order. -/
def run (s : Scheduler) (plan : Plan α) (order : Order) (candidates : List α)
    (collector : Collector) : Finished Unit :=
  s.runWith plan (fun _ state => ((), order.next state)) () candidates collector

/-- Runs a plan in virtual time. -/
def runInVirtualTime (s : Scheduler) (plan : Plan α) (duration : α → Int) (candidates : List α)
    (collector : Collector) : Finished Agenda :=
  s.runWith plan (inVirtualTime plan duration) {} candidates collector

end Scheduler

end NetSurvey
