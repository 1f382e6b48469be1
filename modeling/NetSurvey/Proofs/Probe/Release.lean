import NetSurvey.Proofs.Probe.Connect

/-!
# Probes leave nothing open

`World.Released` says of the calls of a probe that nothing of what they opened stays open: right
after a connection that was opened stands the call that closes it, and right after a request that
was answered the call that closes the answer. What was not opened is not closed.

Calls that leave nothing open, and then more of them, leave nothing open (`Released.append`). So the
steps of a probe can be looked at one by one (`Releases.bind`), and the loops over ports and over
kinds of records by induction. A connection is closed before its time is computed, and a response
before its size is read: whether these fail makes no difference to the calls.
-/

namespace NetSurvey

open Probe Activity

namespace World

/-- A connection to a host and a port is opened, whatever the clock shows when it is begun. -/
def Accepts (w : World) (host : Text) (port : Int) : Prop :=
  ∀ start, ∃ finish, w.opening host port start = .ok finish

/-- Every connection and every answer among the calls is closed right after it was opened, and
nothing else is closed. -/
inductive Released (w : World) : List Call → Prop
  | nil : Released w []
  | opened {host : Text} {port : Int} {timeout : Timeout} {more : List Call}
    (haccepts : w.Accepts host port) (hmore : Released w more) :
    Released w (.connect host port timeout :: .close host port :: more)
  | unopened {host : Text} {port : Int} {timeout : Timeout} {more : List Call}
    (hrefuses : ¬w.Accepts host port) (hmore : Released w more) :
    Released w (.connect host port timeout :: more)
  | answered {session redirects streamed : Bool} {url userAgent : Text} {timeout : Timeout}
    {page : Page} {more : List Call} (hpage : w.get url = .ok page) (hmore : Released w more) :
    Released w
      (.get session url userAgent timeout redirects streamed :: .closeResponse url :: more)
  | unanswered {session redirects streamed : Bool} {url userAgent : Text} {timeout : Timeout}
    {e : Failure} {more : List Call} (hfailed : w.get url = .error e) (hmore : Released w more) :
    Released w (.get session url userAgent timeout redirects streamed :: more)
  | defaultResolver {more : List Call} (hmore : Released w more) :
    Released w (.defaultResolver :: more)
  | resolve {name : Text} {type : RecordType} {lifetime : Float} {more : List Call}
    (hmore : Released w more) : Released w (.resolve name type lifetime :: more)

namespace Released

variable {w : World} {calls more : List Call}

/-- What is released in two parts of a run is released in the whole of it. -/
theorem append (hcalls : w.Released calls) (hmore : w.Released more) :
    w.Released (calls ++ more) := by
  induction hcalls with
  | nil => exact hmore
  | opened haccepts _ ih => exact .opened haccepts ih
  | unopened hrefuses _ ih => exact .unopened hrefuses ih
  | answered hpage _ ih => exact .answered hpage ih
  | unanswered hfailed _ ih => exact .unanswered hfailed ih
  | defaultResolver _ ih => exact .defaultResolver ih
  | resolve _ ih => exact .resolve ih

end Released

/-- Whether a connection is opened does not depend on the clock. -/
theorem accepts_iff (w : World) (host : Text) (port : Int) (start : Float) :
    w.Accepts host port ↔ ∃ finish, w.opening host port start = .ok finish := by
  refine ⟨fun h => h start, fun ⟨finish, h⟩ other => ?_⟩
  obtain ⟨time, htime, h⟩ := bind_eq_ok_iff.mp h
  obtain ⟨⟨⟩, hresult, -⟩ := bind_eq_ok_iff.mp h
  exact ⟨_, bind_eq_ok_iff.mpr ⟨time, htime, bind_eq_ok_iff.mpr ⟨(), hresult, rfl⟩⟩⟩

end World

namespace Probe

/-- A probe leaves nothing open, from whatever reading of the clock on. -/
def Releases (w : World) {α : Type} (x : Probe α) : Prop :=
  ∀ start, w.Released (x.run start).calls

namespace Releases

variable {w : World} {α β : Type} {x : Probe α}

/-- Two steps release what they open if each of them does: nothing is carried open from one to the
other. -/
theorem bind {f : α → Probe β} (hx : Releases w x) (hf : ∀ a, Releases w (f a)) :
    Releases w (x >>= f) := by
  intro start
  have hfirst := hx start
  cases hrun : x.run start with
  | mk result later calls log =>
    rw [hrun] at hfirst
    cases result with
    | error e => rwa [run_bind_of_error hrun]
    | ok a =>
      rw [run_bind_of_ok hrun]
      exact hfirst.append (hf a later)

theorem attempt (hx : Releases w x) : Releases w (attempt x) := by
  intro start
  rw [calls_attempt]
  exact hx start

end Releases

variable (w : World) (host : Text) (port : Int) (timeout : Timeout)

/-! ### Connections -/

end Probe

end NetSurvey
