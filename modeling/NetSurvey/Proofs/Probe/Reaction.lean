import NetSurvey.Proofs.Probe.Release

/-!
# What a call comes to

A call to the network takes time, and then it has a result or fails. `Reaction.answer` is what it
comes to and `Reaction.clockAfter` what the clock shows then. A cost that is beyond all doubles
cannot be waited for, and the call comes to that failure.

With these two, `run_connect_of_ok` and `run_connect_of_error` say all that an attempt to connect
does.
-/

namespace NetSurvey

namespace Reaction

variable {α : Type}

/-- How long a call takes, if it moves the clock. -/
def time (r : Reaction α) : Except Failure (Option Float) :=
  (r.cost.mapM Number.toFloat).mapError .arithmetic

/-- The reading of the clock after a call that was begun at `now`. -/
def clockAfter (r : Reaction α) (now : Float) : Float :=
  r.time.toOption.join.elim now (now + ·)

/-- What a call comes to. -/
def answer (r : Reaction α) : Except Failure α :=
  r.time >>= fun _ => r.result

/-- Waiting for a call moves the clock, and fails where the cost is beyond all doubles. It makes no
call and logs nothing. -/
theorem run_spend (r : Reaction α) (now : Float) :
    (Probe.spend r.cost).run now = ⟨r.time.map fun _ => (), r.clockAfter now, [], []⟩ := by
  rw [clockAfter, time]
  cases r.cost with
  | none => rfl
  | some cost =>
    rw [Option.mapM_some, Probe.spend]
    cases cost.toFloat with
    | error cause => rfl
    | ok time => rfl

/-- Only arithmetic can fail about a cost. -/
theorem exists_of_time_eq_error {r : Reaction α} {e : Failure} (h : r.time = .error e) :
    ∃ cause, e = .arithmetic cause := by
  rw [time] at h
  cases hcost : r.cost.mapM Number.toFloat with
  | error cause =>
    rw [hcost] at h
    exact ⟨cause, (Except.error.inj h).symm⟩
  | ok time =>
    rw [hcost] at h
    cases h

/-- A call fails because of its cost, or because of its result. -/
theorem answer_eq_error {r : Reaction α} {e : Failure} (h : r.answer = .error e) :
    r.time = .error e ∨ ∃ time, r.time = .ok time ∧ r.result = .error e := by
  rw [answer] at h
  cases htime : r.time with
  | error e' =>
    rw [htime] at h
    exact .inl (congrArg _ (Except.error.inj h))
  | ok time =>
    rw [htime] at h
    exact .inr ⟨time, rfl, h⟩

/-- A failure that is not one of arithmetic is that of the result. -/
theorem answer_eq_error_of_ne {r : Reaction α} {e : Failure} (h : r.answer = .error e)
    (he : ∀ cause, e ≠ .arithmetic cause) : ∃ time, r.time = .ok time ∧ r.result = .error e := by
  refine (answer_eq_error h).resolve_left fun htime => ?_
  obtain ⟨cause, hcause⟩ := exists_of_time_eq_error htime
  exact he cause hcause

/-- A call that comes to a result could be waited for. -/
theorem answer_eq_ok {r : Reaction α} {a : α} (h : r.answer = .ok a) :
    ∃ time, r.time = .ok time ∧ r.result = .ok a :=
  bind_eq_ok_iff.mp h

end Reaction

namespace World

variable {w : World} {host : Text} {port : Int}

/-- A connection is open from the time at which the call comes to its result. -/
theorem opening_eq (w : World) (host : Text) (port : Int) (now : Float) :
    w.opening host port now =
      (w.connect host port).answer.map fun _ => (w.connect host port).clockAfter now := by
  rw [opening, Reaction.answer, Reaction.clockAfter, Reaction.time]
  cases ((w.connect host port).cost.mapM Number.toFloat).mapError Failure.arithmetic with
  | error cause => rfl
  | ok time =>
    cases (w.connect host port).result with
    | error e => rfl
    | ok _ => cases time <;> rfl

/-- A port accepts connections if the call comes to a result, at whatever time. -/
theorem accepts_iff_answer : w.Accepts host port ↔ (w.connect host port).answer = .ok () := by
  rw [accepts_iff w host port w.start]
  constructor
  · rintro ⟨finish, hfinish⟩
    rw [opening_eq] at hfinish
    obtain ⟨⟨⟩, hanswer, -⟩ := map_eq_ok_iff.mp hfinish
    exact hanswer
  · intro hanswer
    rw [opening_eq, hanswer]
    exact ⟨_, rfl⟩

/-- A port that does not accept connections lets the call fail. -/
theorem not_accepts_iff :
    ¬w.Accepts host port ↔ ∃ e, (w.connect host port).answer = .error e := by
  rw [accepts_iff_answer]
  cases (w.connect host port).answer with
  | ok _ => exact iff_of_false (fun h => h rfl) nofun
  | error e => exact iff_of_true nofun ⟨e, rfl⟩

/-- A connection has a time if it is opened and the time can be told in milliseconds. -/
theorem connectTime?_eq_some {now : Float} {time : Int}
    (h : w.connectTime? host port now = some time) : (w.connect host port).answer = .ok () ∧
      Probe.milliseconds now ((w.connect host port).clockAfter now) = .ok time := by
  rw [connectTime?, opening_eq] at h
  cases hanswer : (w.connect host port).answer with
  | error e =>
    rw [hanswer] at h
    cases h
  | ok _ =>
    rw [hanswer] at h
    exact ⟨rfl, toOption_eq_some_iff.mp h⟩

end World

namespace Probe

open Activity

variable {w : World} {host : Text} {port : Int} (timeout : Timeout) (now : Float)

theorem run_now : Probe.now.run now = ⟨.ok now, now, [], []⟩ := rfl

theorem run_log (level : Level) (message : Text) :
    (log level message).run now = ⟨.ok (), now, [], [⟨level, .probes, message⟩]⟩ := rfl

/-- An attempt to connect that fails is one call, and nothing is closed since nothing was opened. A
failure of the socket is told with the host and the port. -/
theorem run_connect_of_error {e : Failure} (h : (w.connect host port).answer = .error e) :
    (connect w host port timeout).run now = ⟨.error (unopened host port e),
      (w.connect host port).clockAfter now, [.connect host port timeout], []⟩ := by
  have hspend := (w.connect host port).run_spend now
  obtain htime | ⟨time, htime, hresult⟩ := Reaction.answer_eq_error h
  · obtain ⟨cause, rfl⟩ := Reaction.exists_of_time_eq_error htime
    rw [htime] at hspend
    rw [connect, run_bind_of_ok (run_now now), run_bind_of_ok (run_call _ now),
      run_bind_of_error hspend]
    rfl
  · rw [htime] at hspend
    rw [connect, run_bind_of_ok (run_now now), run_bind_of_ok (run_call _ now),
      run_bind_of_ok hspend, hresult]
    rfl

/-- A connection that is opened is closed at once, also where its time cannot be told. -/
theorem run_connect_of_ok (h : (w.connect host port).answer = .ok ()) :
    (connect w host port timeout).run now =
      ⟨(milliseconds now ((w.connect host port).clockAfter now)).mapError .arithmetic,
        (w.connect host port).clockAfter now,
        [.connect host port timeout, .close host port], []⟩ := by
  have hspend := (w.connect host port).run_spend now
  obtain ⟨time, htime, hresult⟩ := Reaction.answer_eq_ok h
  rw [htime] at hspend
  rw [connect, run_bind_of_ok (run_now now), run_bind_of_ok (run_call _ now),
    run_bind_of_ok hspend, hresult]
  rfl

/-- A connection whose time can be told comes to that time. -/
theorem run_connect_of_time {time : Int} (h : w.connectTime? host port now = some time) :
    (connect w host port timeout).run now = ⟨.ok time, (w.connect host port).clockAfter now,
      [.connect host port timeout, .close host port], []⟩ := by
  obtain ⟨hanswer, htime⟩ := World.connectTime?_eq_some h
  rw [run_connect_of_ok timeout now hanswer, htime]
  rfl

end Probe

end NetSurvey
