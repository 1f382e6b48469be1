import NetSurvey.Schedule.Run

/-!
# One run after another

The runs of a scheduler share its load. Each has a gate of its own, so what is left of one run does
not hold up the next. A run begins when the run before it has exited. The workers that a launcher
left behind when it gave up go on beside the runs that come later.
-/

namespace NetSurvey

/-- What a scheduler is to do in one run. -/
structure Assignment (α : Type) where
  plan : Plan α
  candidates : List α
  collector : Collector := .empty

namespace Schedule

/-- A moment of a run, with the load that others have brought about. -/
def State.withLoad {α : Type} (s : State α) (load : Load) : State α := { s with load }

/-- A run that has begun. -/
structure Run (α : Type) where
  assignment : Assignment α
  state : State α

/-- Who takes the next step in a session: the caller, who begins a run, or somebody in a run, which
is given by its place. -/
inductive Party where
  | caller
  | ofRun (place : Nat) (actor : Actor)
deriving DecidableEq, Repr

/-- A moment in the life of a scheduler. -/
structure Session (α : Type) where
  capacity : Nat
  /-- The load of all runs. It takes the place of the load in the state of each of them. -/
  load : Load
  /-- The runs that have not begun. -/
  waiting : List (Assignment α)
  /-- The runs that have begun, the latest one first. -/
  runs : List (Run α)

namespace Session

variable {α : Type}

/-- The run that began last has exited. -/
def isFree (s : Session α) : Bool :=
  match s.runs with
  | [] => true
  | run :: _ => run.state.launcher.hasExited

/-- Begins the next run. -/
def begin (s : Session α) : Option (Session α) :=
  match s.waiting with
  | [] => none
  | a :: waiting =>
    if s.isFree then
      some { s with
        waiting
        runs := ⟨a, .initial s.capacity s.load a.candidates a.collector⟩ :: s.runs }
    else none

/-- A step of somebody in a run. -/
def stepIn (s : Session α) (place : Nat) (actor : Actor) : Option (Session α) :=
  match s.runs[place]? with
  | none => none
  | some run =>
    ((run.state.withLoad s.load).step run.assignment.plan actor).map fun next =>
      { s with load := next.load, runs := s.runs.set place { run with state := next } }

/-- One step of a session, if the party can take one. -/
def step (s : Session α) : Party → Option (Session α)
  | .caller => s.begin
  | .ofRun place actor => s.stepIn place actor

end Session

end Schedule

/-- The session in which a scheduler has a number of runs before it. -/
def Scheduler.session {α : Type} (s : Scheduler) (assignments : List (Assignment α)) :
    Schedule.Session α where
  capacity := s.capacity
  load := s.load
  waiting := assignments
  runs := []

end NetSurvey
