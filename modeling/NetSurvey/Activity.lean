import NetSurvey.Failure
import NetSurvey.Journal

/-!
# Activities

An activity is a computation that may call the network, write to the log, change a state, and fail.
What it did before it failed stays done: calls, entries of the log and changes of the state are
kept, so `Attempt` has them beside the result and not inside it.
-/

namespace NetSurvey

/-- What running an activity comes to. -/
structure Attempt (σ α : Type) where
  result : Except Failure α
  /-- The state in which the activity ended. -/
  state : σ
  /-- The calls that reached the network, in order. -/
  calls : List Call
  /-- The entries that were logged, in order. -/
  log : List Entry

/-- A computation that may call the network, write to the log, change a state, and fail. -/
def Activity (σ α : Type) : Type := σ → Attempt σ α

namespace Activity

variable {σ α β : Type}

/-- Runs an activity in a state. -/
def run (x : Activity σ α) (s : σ) : Attempt σ α := x s

/-- Does nothing and gives a value. -/
def done (a : α) : Activity σ α := fun s => ⟨.ok a, s, [], []⟩

/-- Fails. -/
def fail (e : Failure) : Activity σ α := fun s => ⟨.error e, s, [], []⟩

/-- Continues after a result. -/
def andThen (x : Activity σ α) (f : α → Activity σ β) : Activity σ β := fun s =>
  match x s with
  | ⟨.ok a, t, calls, log⟩ =>
    let next := f a t
    ⟨next.result, next.state, calls ++ next.calls, log ++ next.log⟩
  | ⟨.error e, t, calls, log⟩ => ⟨.error e, t, calls, log⟩

/-- Continues after a failure. -/
def recover (x : Activity σ α) (f : Failure → Activity σ α) : Activity σ α := fun s =>
  match x s with
  | ⟨.ok a, t, calls, log⟩ => ⟨.ok a, t, calls, log⟩
  | ⟨.error e, t, calls, log⟩ =>
    let next := f e t
    ⟨next.result, next.state, calls ++ next.calls, log ++ next.log⟩

instance : Monad (Activity σ) where
  pure := done
  bind := andThen

instance : MonadExceptOf Failure (Activity σ) where
  throw := fail
  tryCatch := recover

/-- Runs an activity; a failure that a probe reports becomes a result, and any other one stays. -/
def attempt (x : Activity σ α) : Activity σ (Except Text α) := fun s =>
  match x s with
  | ⟨.ok a, t, calls, log⟩ => ⟨.ok (.ok a), t, calls, log⟩
  | ⟨.error (.probe text), t, calls, log⟩ => ⟨.ok (.error text), t, calls, log⟩
  | ⟨.error e, t, calls, log⟩ => ⟨.error e, t, calls, log⟩

/-- The state. -/
def current : Activity σ σ := fun s => ⟨.ok s, s, [], []⟩

/-- Changes the state. -/
def change (f : σ → σ) : Activity σ Unit := fun s => ⟨.ok (), f s, [], []⟩

/-- Records a call that reached the network. -/
def call (c : Call) : Activity σ Unit := fun s => ⟨.ok (), s, [c], []⟩

/-- Writes entries to the log. -/
def note (entries : List Entry) : Activity σ Unit := fun s => ⟨.ok (), s, [], entries⟩

/-- Gives a result, or fails with it. -/
def ofExcept (r : Except Failure α) : Activity σ α := fun s => ⟨r, s, [], []⟩

/-- The result of a calculation, or its failure. -/
def ofArithmetic (r : Except ArithmeticError α) : Activity σ α :=
  ofExcept (r.mapError .arithmetic)

@[simp]
theorem run_pure (a : α) (s : σ) : (pure a : Activity σ α).run s = ⟨.ok a, s, [], []⟩ := rfl

@[simp]
theorem run_throw (e : Failure) (s : σ) :
    (throw e : Activity σ α).run s = ⟨.error e, s, [], []⟩ := rfl

@[simp]
theorem run_current (s : σ) : (current : Activity σ σ).run s = ⟨.ok s, s, [], []⟩ := rfl

@[simp]
theorem run_change (f : σ → σ) (s : σ) : (change f).run s = ⟨.ok (), f s, [], []⟩ := rfl

@[simp]
theorem run_call (c : Call) (s : σ) : (call c : Activity σ Unit).run s = ⟨.ok (), s, [c], []⟩ := rfl

@[simp]
theorem run_note (entries : List Entry) (s : σ) :
    (note entries : Activity σ Unit).run s = ⟨.ok (), s, [], entries⟩ := rfl

@[simp]
theorem run_ofExcept (r : Except Failure α) (s : σ) :
    (ofExcept r : Activity σ α).run s = ⟨r, s, [], []⟩ := rfl

/-- What follows a result starts where the result was reached. -/
theorem run_bind_of_ok {x : Activity σ α} {f : α → Activity σ β} {s t : σ} {a : α}
    {calls : List Call} {log : List Entry} (h : x.run s = ⟨.ok a, t, calls, log⟩) :
    (x >>= f).run s =
      ⟨((f a).run t).result, ((f a).run t).state, calls ++ ((f a).run t).calls,
        log ++ ((f a).run t).log⟩ := by
  simp only [run] at h
  simp [bind, andThen, run, h]

/-- Nothing follows a failure. -/
theorem run_bind_of_error {x : Activity σ α} {f : α → Activity σ β} {s t : σ} {e : Failure}
    {calls : List Call} {log : List Entry} (h : x.run s = ⟨.error e, t, calls, log⟩) :
    (x >>= f).run s = ⟨.error e, t, calls, log⟩ := by
  simp only [run] at h
  simp [bind, andThen, run, h]

theorem run_attempt_of_ok {x : Activity σ α} {s t : σ} {a : α} {calls : List Call}
    {log : List Entry} (h : x.run s = ⟨.ok a, t, calls, log⟩) :
    (attempt x).run s = ⟨.ok (.ok a), t, calls, log⟩ := by
  simp only [run] at h
  simp [attempt, run, h]

theorem run_attempt_of_probe {x : Activity σ α} {s t : σ} {text : Text} {calls : List Call}
    {log : List Entry} (h : x.run s = ⟨.error (.probe text), t, calls, log⟩) :
    (attempt x).run s = ⟨.ok (.error text), t, calls, log⟩ := by
  simp only [run] at h
  simp [attempt, run, h]

/-- Nothing is recovered from a result. -/
theorem run_tryCatch_of_ok {x : Activity σ α} {f : Failure → Activity σ α} {s t : σ} {a : α}
    {calls : List Call} {log : List Entry} (h : x.run s = ⟨.ok a, t, calls, log⟩) :
    (tryCatch x f).run s = ⟨.ok a, t, calls, log⟩ := by
  simp only [run] at h
  simp [tryCatch, tryCatchThe, MonadExceptOf.tryCatch, recover, run, h]

/-- What recovers from a failure starts where the failure was met. -/
theorem run_tryCatch_of_error {x : Activity σ α} {f : Failure → Activity σ α} {s t : σ}
    {e : Failure} {calls : List Call} {log : List Entry} (h : x.run s = ⟨.error e, t, calls, log⟩) :
    (tryCatch x f).run s =
      ⟨((f e).run t).result, ((f e).run t).state, calls ++ ((f e).run t).calls,
        log ++ ((f e).run t).log⟩ := by
  simp only [run] at h
  simp [tryCatch, tryCatchThe, MonadExceptOf.tryCatch, recover, run, h]

end Activity

end NetSurvey
