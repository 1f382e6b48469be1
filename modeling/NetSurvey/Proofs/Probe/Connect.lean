import NetSurvey.Proofs.Address.RoundTrip
import NetSurvey.Proofs.Probe.Calls

/-!
# What a connection tells

`World.opening` says how an attempt to connect ends that starts at some reading of the clock, and
`World.connectTime?` how long it took, where there is a connection and its time can be calculated.

What is found out about a port is what a connection to it tells. A ping of an address asks no
resolver: it makes the calls of a single connection, and tells the same.
-/

namespace NetSurvey

open Probe

namespace World

/-- The reading of the clock at which a connection that was begun at `start` is open, or why there
is no connection. A cost that is beyond all doubles cannot be waited for. -/
def opening (w : World) (host : Text) (port : Int) (start : Float) : Except Failure Float := do
  let time ← ((w.connect host port).cost.mapM Number.toFloat).mapError .arithmetic
  (w.connect host port).result
  return time.elim start (start + ·)

/-- The whole milliseconds that a connection took, if there is one and they can be calculated. -/
def connectTime? (w : World) (host : Text) (port : Int) (start : Float) : Option Int :=
  (w.opening host port start).toOption.bind fun finish => (milliseconds start finish).toOption

end World

/-- A question to a resolver, or for one. -/
def Call.isLookup : Call → Bool
  | defaultResolver => true
  | resolve .. => true
  | _ => false

namespace Probe

open Activity

/-- What is told about a connection that could not be opened: a failed system call is the probe's to
report, and anything else is not. -/
def unopened (host : Text) (port : Int) (e : Failure) : Failure :=
  if e.isSocket then .probe (host ++ s!":{port} - " ++ e.message) else e

variable (w : World) (host : Text) (port : Int) (timeout : Timeout)

theorem result_connect (start : Float) :
    ((connect w host port timeout).run start).result =
      (w.opening host port start).mapError (unopened host port) >>= fun finish =>
        (milliseconds start finish).mapError .arithmetic := by
  simp only [connect, World.opening]
  cases (w.connect host port).cost with
  | none =>
    cases (w.connect host port).result with
    | ok _ => rfl
    | error e => rfl
  | some cost =>
    simp only [spend, Option.mapM_some]
    -- A cost without a double ends the attempt before its result is looked at.
    cases cost.toFloat with
    | error cause => rfl
    | ok time =>
      cases (w.connect host port).result with
      | ok _ => rfl
      | error e => rfl

/-- A connection asks no resolver. -/
theorem callsOnly_connect : (connect w host port timeout).CallsOnly (·.isLookup = false) := by
  refine .bind .current fun _ => .bind (.call rfl) fun _ => .bind (callsOnly_spend _) fun _ => ?_
  cases (w.connect host port).result with
  | ok _ => exact .bind .current fun _ => .bind (.call rfl) fun _ => .ofExcept _
  | error e => exact .throw _

variable {w host port timeout}

/-- A connection comes to a time exactly where it has one. -/
theorem result_connect_eq_ok_iff {start : Float} {time : Int} :
    ((connect w host port timeout).run start).result = .ok time ↔
      w.connectTime? host port start = some time := by
  rw [result_connect, World.connectTime?]
  cases w.opening host port start with
  | error e => exact ⟨nofun, nofun⟩
  | ok finish =>
    change (milliseconds start finish).mapError _ = _ ↔ (milliseconds start finish).toOption = _
    rw [mapError_eq_ok_iff, toOption_eq_some_iff]

/-- How an attempt to connect ends: with a time, with a failure that the probe reports, or with
another one. -/
theorem connect_cases (w : World) (host : Text) (port : Int) (timeout : Timeout) (start : Float) :
    (∃ time, ((connect w host port timeout).run start).result = .ok time ∧
      w.connectTime? host port start = some time) ∨
    (∃ text, ((connect w host port timeout).run start).result = .error (.probe text) ∧
      w.connectTime? host port start = none) ∨
    ∃ e, e.isProbe = false ∧ ((connect w host port timeout).run start).result = .error e ∧
      w.connectTime? host port start = none := by
  cases hconnect : ((connect w host port timeout).run start).result with
  | ok time => exact .inl ⟨time, rfl, result_connect_eq_ok_iff.mp hconnect⟩
  | error e =>
    have hnone : w.connectTime? host port start = none := by
      refine Option.eq_none_iff_forall_ne_some.mpr fun time htime => ?_
      cases hconnect.symm.trans (result_connect_eq_ok_iff.mpr htime)
    by_cases hprobe : e.isProbe = true
    · obtain ⟨text, rfl⟩ := Failure.exists_of_isProbe hprobe
      exact .inr (.inl ⟨text, rfl, hnone⟩)
    · exact .inr (.inr ⟨e, Bool.eq_false_iff.mpr hprobe, rfl, hnone⟩)

section Port

variable (n : Int) (start : Float)

theorem result_portOpen_of_ok {time : Int}
    (h : ((connect w host port timeout).run start).result = .ok time) :
    ((portOpen w host port timeout (.int n)).run start).result = .ok {
      candidate := .int n
      positive := true
      measurement := some (.int time)
      details := [("port", .int port)] } := by
  refine (result_bind _ _ start).trans ?_
  rw [result_attempt_of_ok h]
  rfl

theorem result_portOpen_of_probe {text : Text}
    (h : ((connect w host port timeout).run start).result = .error (.probe text)) :
    ((portOpen w host port timeout (.int n)).run start).result = .ok {
      candidate := .int n
      positive := false
      error := some text
      details := [("port", .int port)] } := by
  refine (result_bind _ _ start).trans ?_
  rw [result_attempt_of_probe h]
  rfl

theorem result_portOpen_of_error {e : Failure} (he : e.isProbe = false)
    (h : ((connect w host port timeout).run start).result = .error e) :
    ((portOpen w host port timeout (.int n)).run start).result = .error e := by
  refine (result_bind _ _ start).trans ?_
  rw [result_attempt_of_error he h]
  rfl

end Port

/-! ### Pings of addresses -/

section Ping

variable (haddress : Address.isAddress host = true) (resolver : Resolver) (start : Float)
include haddress

end Ping

end Probe

end NetSurvey
