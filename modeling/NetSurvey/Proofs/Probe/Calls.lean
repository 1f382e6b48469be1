import NetSurvey.Probe.Page
import NetSurvey.Probe.Ping
import NetSurvey.Proofs.Activity

/-!
# What probes call

Whatever the network answers and whatever time has passed, `portOpen` attempts one connection, to
the host and the port that it is asked about. A probe that has a port to try or the default resolver
to ask makes at least one call, so where no call was made, nothing was probed.
-/

namespace NetSurvey

/-- An attempt to connect. -/
def Call.isConnect : Call → Bool
  | connect .. => true
  | _ => false

namespace Probe

open Activity

variable (w : World) (host : Text) (port : Int) (timeout : Timeout)

/-- Time is spent without a call. -/
theorem callsOnly_spend {p : Call → Prop} (cost : Option Number) : (spend cost).CallsOnly p := by
  cases cost with
  | none => exact .pure ()
  | some cost => exact .bind (.ofExcept _) fun _ => .change _

/-- A connection that was opened is closed, and nothing else is called. -/
theorem exists_calls_connect (s : Float) :
    ∃ more : List Call, (∀ c ∈ more, c.isConnect = false) ∧
      ((connect w host port timeout).run s).calls = .connect host port timeout :: more := by
  refine ⟨_, CallsOnly.bind (callsOnly_spend (w.connect host port).cost) (fun _ => ?_) s, rfl⟩
  cases (w.connect host port).result with
  | ok _ => exact .bind .current fun _ => .bind (.call rfl) fun _ => .ofExcept _
  | error e => exact .throw _

/-- An attempt to connect is a single one. -/
theorem connections_connect (s : Float) :
    ((connect w host port timeout).run s).calls.filter Call.isConnect =
      [.connect host port timeout] := by
  obtain ⟨more, hmore, hcalls⟩ := exists_calls_connect w host port timeout s
  rw [hcalls, List.filter_cons_of_pos rfl, List.filter_eq_nil_iff.mpr]
  simpa using hmore

/-- **One connection.** -/
theorem connections_portOpen (candidate : Datum) (s : Float) :
    ((portOpen w host port timeout candidate).run s).calls.filter Call.isConnect =
      [.connect host port timeout] := by
  have hportOpen : ((portOpen w host port timeout candidate).run s).calls =
      ((connect w host port timeout).run s).calls := by
    refine (calls_bind_of_quiet (fun answer => ?_) s).trans (calls_attempt _ s)
    cases answer with
    | ok time => exact .bind (.note _) fun _ => .pure _
    | error text => exact .bind (.note _) fun _ => .pure _
  rw [hportOpen, connections_connect]

/-! ### At least one call -/

theorem makesCall_connect : (connect w host port timeout).MakesCall := fun _ => List.cons_ne_nil _ _

theorem makesCall_portOpen (candidate : Datum) :
    (portOpen w host port timeout candidate).MakesCall :=
  (makesCall_connect w host port timeout).attempt.bind

/-- A host is asked at all if there is a port to try. -/
theorem makesCall_reachable {ports : List Int} (h : ports ≠ []) :
    (reachable w host timeout ports).MakesCall := by
  cases ports with
  | nil => exact absurd rfl h
  | cons port ports => exact (makesCall_connect w host port timeout).attempt.bind.bind

/-- The default resolver is called for, even where the system has none. -/
theorem makesCall_resolve (name : Text) : (resolve w name timeout .default).MakesCall :=
  .bind (.bind (.call .defaultResolver))

theorem makesCall_nameResolves (name : Text) : (nameResolves w name timeout .default).MakesCall :=
  .of_bind (fun s => ⟨s, rfl⟩) fun _ => (makesCall_resolve w timeout name).attempt.bind

theorem pingPorts_ne_nil : pingPorts port ≠ [] := by
  rw [pingPorts]
  split <;> exact List.cons_ne_nil _ _

/-- An address is not looked up. -/
theorem ping_of_isAddress {host : Text} (h : Address.isAddress host = true) (resolver : Resolver) :
    ping w host port timeout resolver = (do
      let answer ← reachable w host timeout (pingPorts port)
      return { answer with
        candidate := .text host
        details := Fields.update [("ip", .text host)] answer.details }) := by
  have hping : pingAddress w host timeout resolver = pure (.ok host) := by
    rw [pingAddress, if_pos h]
  rw [ping, hping, Activity.pure_bind]

/-- A ping of a host makes a call, be it to find its address or to connect to it. -/
theorem makesCall_ping : (ping w host port timeout .default).MakesCall := by
  by_cases haddress : Address.isAddress host = true
  · rw [ping_of_isAddress w port timeout haddress]
    exact (makesCall_reachable w host timeout (pingPorts_ne_nil port)).bind
  · have hping : (pingAddress w host timeout .default).MakesCall := by
      rw [pingAddress, if_neg haddress]
      exact (makesCall_resolve w timeout host).attempt.bind
    exact hping.bind

end Probe

end NetSurvey
