import NetSurvey.Proofs.Probe.FirstPort
import NetSurvey.Proofs.Probe.Lookups

/-!
# Pings from end to end

A ping has two parts: the address of the host is found, and then the ports of that address are
tried. A host that is an address is its own; any other is looked up, and the first of its addresses
is taken, of which there always is one (`yields_resolve`). `ping_of_address` puts the two parts
together, and `Tries` says which ports of the address are tried: the one that is asked for and, only
if that fails and is another one, the fallback port.
-/

namespace NetSurvey

/-- A network on which lookups fail as lookups do, and connections in a system call. -/
structure World.IsOrdinary (w : World) : Prop where
  lookup_isLookup : ∀ name type e, (w.lookup name type).answer = .error e → e.isLookup = true
  connect_isSocket : ∀ host port e, (w.connect host port).answer = .error e → e.isSocket = true

namespace Probe

open Activity

/-- If the resolver cannot be got hold of, that is a failure of lookups. -/
def Resolver.FailsByLookup (w : World) (resolver : Resolver) : Prop :=
  resolver = .default → ∀ e, w.noResolver = some e → e.isLookup = true

variable {w : World} {host : Text} {port : Int} {timeout : Timeout} {resolver : Resolver}
  {start : Float}

/-! ### The address of a host -/

theorem callsOnly_lookups (w : World) (name : Text) (deadline : Float) (types : List RecordType) :
    (lookups w name deadline types).CallsOnly (·.isLookup = true) := by
  induction types with
  | nil => exact .pure _
  | cons type types ih =>
    refine .bind .current fun now => ?_
    dsimp only
    split
    · exact .pure _
    refine .bind (.call rfl) fun _ => .bind (callsOnly_spend _) fun _ => ?_
    cases (w.lookup name type).result with
    | ok addresses => exact .bind ih fun _ => .pure _
    | error e =>
      dsimp only
      split
      · exact .pure _
      split
      · exact .bind ih fun _ => .pure _
      · exact .throw _

/-- To resolve a name, nothing but a resolver is called. -/
theorem callsOnly_resolve (w : World) (name : Text) (timeout : Timeout) (resolver : Resolver) :
    (resolve w name timeout resolver).CallsOnly (·.isLookup = true) := by
  have hfind : (findResolver w name resolver).CallsOnly (·.isLookup = true) := by
    cases resolver with
    | given => exact .pure _
    | default =>
      refine .bind (.call rfl) fun _ => ?_
      cases w.noResolver with
      | none => exact .pure _
      | some e => exact .throw _
  refine .bind hfind fun _ => .bind .current fun _ => .bind (.ofExcept _) fun _ =>
    .bind (callsOnly_lookups w name _ _) fun found => ?_
  dsimp only
  split
  · exact .throw _
  · exact .pure _

theorem connects_resolve (w : World) (name : Text) (timeout : Timeout) (resolver : Resolver)
    (start : Float) :
    ((resolve w name timeout resolver).run start).calls.filter Call.isConnect = [] := by
  refine List.filter_eq_nil_iff.mpr fun c hc => ?_
  have hlookup := callsOnly_resolve w name timeout resolver start c hc
  cases c with
  | defaultResolver | resolve => exact Bool.false_ne_true
  | _ => cases hlookup

/-- Where only lookups fail, a name is resolved to at least one address, or the probe reports why
not. -/
theorem resolve_cases (hworld : w.IsOrdinary) (hresolver : resolver.FailsByLookup w)
    {seconds : Float} (hduration : duration timeout = .ok seconds) (name : Text) (start : Float) :
    (∃ first others, ((resolve w name timeout resolver).run start).result =
      .ok (first :: others)) ∨
    ∃ text, ((resolve w name timeout resolver).run start).result = .error (.probe text) := by
  by_cases havailable : resolver.IsAvailable w
  · obtain ⟨hresult, -⟩ := resolve_of_duration name start havailable hduration rfl
    have hlookup : ∀ q ∈ queries w name (start + seconds) start RecordType.all, ∀ e,
        q.answer = .error e → e.isLookup = true := by
      intro q hq e he
      rw [(asked_queries w name start (start + seconds)).answer_eq q hq] at he
      exact hworld.lookup_isLookup name q.type e he
    rw [hresult, findings_of_forall_isLookup hlookup, ok_bind, resolution]
    split
    · exact .inr ⟨_, rfl⟩
    case isFalse hne =>
      obtain ⟨first, others, hfound⟩ := List.exists_cons_of_ne_nil hne
      exact .inl ⟨first, others, congrArg _ hfound⟩
  · rw [Resolver.IsAvailable, Classical.not_imp] at havailable
    obtain ⟨rfl, hnone⟩ := havailable
    obtain ⟨e, he⟩ := Option.ne_none_iff_exists'.mp hnone
    exact .inr ⟨_, (resolve_of_noResolver he (hresolver rfl e he)).1⟩

/-- A timeout that is no number of seconds is not what a probe reports. -/
theorem isProbe_of_duration {e : Failure} (h : duration timeout = .error e) :
    e.isProbe = false := by
  cases timeout with
  | none =>
    rw [← Except.error.inj h]
    rfl
  | some n =>
    rw [duration] at h
    cases hn : n.toFloat with
    | ok x =>
      rw [hn] at h
      cases h
    | error cause =>
      rw [hn] at h
      rw [← Except.error.inj h]
      rfl

theorem run_pingAddress_of_isAddress (h : Address.isAddress host = true) :
    (pingAddress w host timeout resolver).run start = ⟨.ok (.ok host), start, [], []⟩ := by
  rw [pingAddress, if_pos h]
  rfl

section Name

variable (hname : Address.isAddress host = false)
include hname

/-- The first of the addresses is taken. -/
theorem run_pingAddress_of_ok {first : Text} {others : List Text}
    (h : ((resolve w host timeout resolver).run start).result = .ok (first :: others)) :
    let found := (resolve w host timeout resolver).run start
    (pingAddress w host timeout resolver).run start =
      ⟨.ok (.ok first), found.state, found.calls, found.log⟩ := by
  rcases hrun : (resolve w host timeout resolver).run start with ⟨result, later, calls, entries⟩
  rw [hrun] at h
  obtain rfl : result = .ok (first :: others) := h
  rw [pingAddress, hname, if_neg Bool.false_ne_true, run_bind_of_ok (run_attempt_of_ok hrun)]
  simp only [run_pure, List.append_nil]

theorem run_pingAddress_of_probe {text : Text}
    (h : ((resolve w host timeout resolver).run start).result = .error (.probe text)) :
    let found := (resolve w host timeout resolver).run start
    (pingAddress w host timeout resolver).run start =
      ⟨.ok (.error text), found.state, found.calls, found.log⟩ := by
  rcases hrun : (resolve w host timeout resolver).run start with ⟨result, later, calls, entries⟩
  rw [hrun] at h
  obtain rfl : result = .error (.probe text) := h
  rw [pingAddress, hname, if_neg Bool.false_ne_true, run_bind_of_ok (run_attempt_of_probe hrun)]
  simp only [run_pure, List.append_nil]

/-- A host that the probe cannot resolve is not connected to. -/
theorem ping_of_probe {text : Text}
    (h : ((resolve w host timeout resolver).run start).result = .error (.probe text)) :
    ((ping w host port timeout resolver).run start).result =
        .ok { candidate := .text host, positive := false, error := some text } ∧
      ((ping w host port timeout resolver).run start).calls =
        ((resolve w host timeout resolver).run start).calls := by
  rw [ping, run_bind_of_ok (run_pingAddress_of_probe hname h)]
  exact ⟨rfl, List.append_nil _⟩

theorem ping_of_error {e : Failure} (he : e.isProbe = false)
    (h : ((resolve w host timeout resolver).run start).result = .error e) :
    ((ping w host port timeout resolver).run start).result = .error e ∧
      ((ping w host port timeout resolver).run start).calls =
        ((resolve w host timeout resolver).run start).calls := by
  rcases hrun : (resolve w host timeout resolver).run start with ⟨result, later, calls, entries⟩
  rw [hrun] at h
  obtain rfl : result = .error e := h
  have haddress : (pingAddress w host timeout resolver).run start =
      ⟨.error e, later, calls, entries⟩ := by
    rw [pingAddress, hname, if_neg Bool.false_ne_true,
      run_bind_of_error (run_attempt_of_error he hrun)]
  rw [ping, run_bind_of_error haddress]
  exact ⟨rfl, rfl⟩

end Name

/-! ### The ports of an address -/

/-- What is told about a host, from what is told about its address. -/
def aboutHost (host address : Text) (o : Outcome) : Outcome :=
  { o with
    candidate := .text host
    details := Fields.update [("ip", .text address)] o.details }

/-- A ping finds an address and tries its ports. -/
theorem ping_of_address {address : Text} {clock : Float} {calls : List Call} {log : List Entry}
    (h : (pingAddress w host timeout resolver).run start = ⟨.ok (.ok address), clock, calls, log⟩)
    (port : Int) :
    let answer := (reachable w address timeout (pingPorts port)).run clock
    ((ping w host port timeout resolver).run start).result =
        answer.result.map (aboutHost host address) ∧
      ((ping w host port timeout resolver).run start).calls = calls ++ answer.calls := by
  rcases hrun : (reachable w address timeout (pingPorts port)).run clock with
    ⟨result, later, more, entries⟩
  rw [ping, run_bind_of_ok h]
  cases result with
  | ok o =>
    rw [run_bind_of_ok hrun]
    exact ⟨rfl, congrArg _ (List.append_nil _)⟩
  | error e =>
    rw [run_bind_of_error hrun]
    exact ⟨rfl, rfl⟩

/-- The ports of an address that a ping tries. -/
inductive Tries (w : World) (address : Text) (port : Int) : List Int → Prop
  | first (h : w.Accepts address port ∨ port = 80) : Tries w address port [port]
  | second (h : ¬w.Accepts address port) (hport : port ≠ 80) : Tries w address port [port, 80]

/-- The details of a host whose address answered on a port. -/
def pingDetails (address : Text) (port : Int) (isFallback : Bool) : Fields :=
  ("ip", .text address) :: portDetails port isFallback

/-- What is told about a host of whose address some ports were tried. -/
structure TellsPing (w : World) (address : Text) (port : Int) (tried : List Int) (o : Outcome) :
    Prop where
  address_eq : o.details.get? "ip" = some (.text address)
  positive_iff : o.positive = true ↔ ∃ answered ∈ tried, w.Accepts address answered
  /-- The port that answered is told, and whether it was the second one. -/
  of_accepts : ∀ answered ∈ tried, w.Accepts address answered →
    o.error = none ∧ o.details = pingDetails address answered (tried = [port, answered])
  of_silent : (∀ silent ∈ tried, ¬w.Accepts address silent) →
    o.error.isSome = true ∧ o.details = [(Text.ofString "ip", .text address)]

/-- The connections of a ping are those to the ports of an address that it tries, in order, and what
comes of them is told. -/
def ConnectsTo (w : World) (address : Text) (port : Int) (timeout : Timeout)
    (connects : List Call) (o : Outcome) : Prop :=
  ∃ tried, Tries w address port tried ∧ connects = tried.map (.connect address · timeout) ∧
    TellsPing w address port tried o

section Ports

variable {address : Text} {tried before : List Int} {answered : Int}

theorem tellsPing_alive (hbefore : ∀ earlier ∈ before, ¬w.Accepts address earlier)
    (haccepts : w.Accepts address answered) (port : Int) (host : Text) (time : Int) :
    TellsPing w address port (before ++ [answered]) (aboutHost host address
      (aliveOutcome address answered time (before ++ [answered] = [port, answered]))) := by
  refine ⟨rfl, iff_of_true rfl ⟨answered, by simp, haccepts⟩, fun other hother h => ?_, fun h => ?_⟩
  · obtain hother | hother := List.mem_append.mp hother
    · exact absurd h (hbefore other hother)
    · obtain rfl := List.mem_singleton.mp hother
      exact ⟨rfl, rfl⟩
  · exact absurd haccepts (h answered (by simp))

theorem tellsPing_silent (hnone : ∀ silent ∈ tried, ¬w.Accepts address silent) (port : Int)
    (host text : Text) :
    TellsPing w address port tried
      (aboutHost host address (silentOutcome address (some text))) := by
  refine ⟨rfl, iff_of_false nofun ?_, fun answered hanswered h => ?_, fun _ => ⟨rfl, rfl⟩⟩
  · rintro ⟨answered, hanswered, h⟩
    exact hnone answered hanswered h
  · exact absurd h (hnone answered hanswered)

/-- The first port that answers is the one that is asked for, or else the fallback port. -/
theorem isFirst_pingPorts (h : w.IsFirst address (pingPorts port) before answered) :
    before = [] ∧ answered = port ∨ before = [port] ∧ answered = 80 ∧ port ≠ 80 := by
  obtain ⟨⟨after, hports⟩, -, -⟩ := h
  rw [pingPorts] at hports
  cases before with
  | nil =>
    refine .inl ⟨rfl, ?_⟩
    split at hports <;> exact (List.cons.inj hports).1.symm
  | cons first before =>
    split at hports
    · exact absurd (List.cons.inj hports).2 (by simp)
    case isFalse hport =>
      obtain ⟨rfl, hrest⟩ := List.cons.inj hports
      cases before with
      | nil => exact .inr ⟨rfl, (List.cons.inj hrest).1.symm, hport⟩
      | cons second before => exact absurd (List.cons.inj hrest).2 (by simp)

variable {clock : Float} (hworld : FailsBySystem w address (pingPorts port))
include hworld

/-- The ports of an address are tried one after the other, and what comes of it is told. -/
theorem connectsTo_reachable (htimes : ∀ before answered,
      w.IsFirst address (pingPorts port) before answered →
        ∃ time, w.connectTime? address answered (w.clockAfter address before clock) = some time)
    (timeout : Timeout) (host : Text) :
    ∃ o, ((reachable w address timeout (pingPorts port)).run clock).result = .ok o ∧
      ConnectsTo w address port timeout
        (((reachable w address timeout (pingPorts port)).run clock).calls.filter Call.isConnect)
        (aboutHost host address o) := by
  by_cases hanswers : ∃ answered ∈ pingPorts port, w.Accepts address answered
  · obtain ⟨before, answered, hfirst⟩ := World.exists_isFirst hanswers
    obtain ⟨time, htime⟩ := htimes before answered hfirst
    obtain ⟨hresult, hconnects⟩ := reachable_of_isFirst timeout clock hworld hfirst htime
    have htries : Tries w address port (before ++ [answered]) ∧
        decide (0 < before.length) = decide (before ++ [answered] = [port, answered]) := by
      obtain ⟨rfl, rfl⟩ | ⟨rfl, rfl, hport⟩ := isFirst_pingPorts hfirst
      · exact ⟨.first (.inl hfirst.accepts), by simp⟩
      · exact ⟨.second (hfirst.not_accepts port (by simp)) hport, by simp⟩
    rw [htries.2] at hresult
    exact ⟨_, hresult, _, htries.1, hconnects,
      tellsPing_alive hfirst.not_accepts hfirst.accepts port host time⟩
  · have hnone : ∀ silent ∈ pingPorts port, ¬w.Accepts address silent := by simpa using hanswers
    obtain ⟨texts, htexts, hresult, hconnects⟩ := reachable_of_no_port timeout clock hworld hnone
    have htries : Tries w address port (pingPorts port) := by
      rw [pingPorts] at hnone ⊢
      split
      case isTrue hport => exact .first (.inr hport)
      case isFalse hport => exact .second (hnone port (by simp [hport])) hport
    -- There is a port to try, so there is a failure to tell.
    have hne : texts ≠ [] := by
      rintro rfl
      exact pingPorts_ne_nil port (List.forall₂_nil_right_iff.mp htexts)
    rw [List.getLast?_eq_some_getLast hne] at hresult
    exact ⟨_, hresult, _, htries, hconnects, tellsPing_silent hnone port host _⟩

end Ports

theorem callsOnly_tryPorts (w : World) (host : Text) (timeout : Timeout) (ports : List Int)
    (isPrimary : Bool) (last : Option Text) :
    (tryPorts w host timeout isPrimary last ports).CallsOnly (·.isLookup = false) := by
  induction ports generalizing isPrimary last with
  | nil => exact .pure _
  | cons port ports ih =>
    refine .bind (callsOnly_connect w host port timeout).attempt fun answer => ?_
    cases answer with
    | ok time => exact .bind (.note _) fun _ => .pure _
    | error text => exact ih false (some text)

/-- To try ports, no resolver is called. -/
theorem callsOnly_reachable (w : World) (host : Text) (timeout : Timeout) (ports : List Int) :
    (reachable w host timeout ports).CallsOnly (·.isLookup = false) := by
  refine .bind (callsOnly_tryPorts w host timeout ports true none) fun answer => ?_
  cases answer with
  | ok outcome => exact .pure _
  | error last => exact .bind (.note _) fun _ => .pure _

/-! ### Both parts -/

/-- The time of the connection that a ping opens, if it opens one, can be calculated. -/
def HasPingTime (w : World) (host : Text) (port : Int) (timeout : Timeout) (resolver : Resolver)
    (start : Float) : Prop :=
  let located := (pingAddress w host timeout resolver).run start
  ∀ address, located.result = .ok (.ok address) → ∀ before answered,
    w.IsFirst address (pingPorts port) before answered →
      ∃ time, w.connectTime? address answered (w.clockAfter address before located.state) =
        some time

/-- Where an address is found without a connection, the ports of that address are tried. -/
theorem ping_connectsTo (hworld : w.IsOrdinary)
    (htime : HasPingTime w host port timeout resolver start) {address : Text} {clock : Float}
    {calls : List Call} {log : List Entry}
    (h : (pingAddress w host timeout resolver).run start = ⟨.ok (.ok address), clock, calls, log⟩)
    (hcalls : calls.filter Call.isConnect = []) :
    ∃ o, ((ping w host port timeout resolver).run start).result = .ok o ∧
      o.candidate = .text host ∧
      ConnectsTo w address port timeout
        (((ping w host port timeout resolver).run start).calls.filter Call.isConnect) o := by
  obtain ⟨hresult, hping⟩ := ping_of_address h port
  rw [HasPingTime, h] at htime
  obtain ⟨o, hanswer, hconnects⟩ := connectsTo_reachable
    (fun port _ => hworld.connect_isSocket address port) (htime address rfl) timeout host
  rw [hanswer] at hresult
  refine ⟨_, hresult, rfl, ?_⟩
  rw [hping, List.filter_append, hcalls]
  exact hconnects

/-- **A ping from end to end.** A name is never resolved to no address, so there is a first one to
take. On an ordinary network, with a timeout that is a number of seconds and a time that can be
calculated, a ping comes to an outcome about the host as it was given. A host that is an address is
not looked up. The connections go to the host if it is an address, and to its first address
otherwise; they are made to the port that is asked for and then, only if that fails and is another
one, to port 80. The outcome tells that address; it is positive exactly if one of the connections is
accepted, and then it tells which port answered and whether it was the second one. If the host
cannot be resolved, the outcome is negative, and no connection is made. A timeout that is no number
of seconds matters to lookups only, and is then the failure of the ping. -/
theorem ping_end_to_end (w : World) (host : Text) (port : Int) (timeout : Timeout)
    (resolver : Resolver) (start : Float) :
    let found := (resolve w host timeout resolver).run start
    let attempt := (ping w host port timeout resolver).run start
    let connects := attempt.calls.filter Call.isConnect
    (∀ addresses, found.result = .ok addresses → addresses ≠ []) ∧
    (w.IsOrdinary → resolver.FailsByLookup w → HasPingTime w host port timeout resolver start →
      (Address.isAddress host = false → ∃ seconds, duration timeout = .ok seconds) →
      ∃ outcome, attempt.result = .ok outcome ∧ outcome.candidate = .text host ∧
        (Address.isAddress host = true →
          (∀ c ∈ attempt.calls, c.isLookup = false) ∧
          ConnectsTo w host port timeout connects outcome) ∧
        (Address.isAddress host = false →
          (∃ first others, found.result = .ok (first :: others) ∧
            ConnectsTo w first port timeout connects outcome) ∨
          ∃ text, found.result = .error (.probe text) ∧ connects = [] ∧
            outcome.positive = false ∧ outcome.error = some text ∧ outcome.details = [])) ∧
    ∀ e, Address.isAddress host = false → resolver.IsAvailable w → duration timeout = .error e →
      attempt.result = .error e ∧ connects = [] := by
  intro found attempt connects
  refine ⟨yields_resolve w timeout host resolver start, fun hworld hresolver htime hduration => ?_,
    fun e hname hresolver he => ?_⟩
  · cases hhost : Address.isAddress host with
    | true =>
      have hlocated : (pingAddress w host timeout resolver).run start = _ :=
        run_pingAddress_of_isAddress hhost
      obtain ⟨o, hresult, hcandidate, hconnects⟩ := ping_connectsTo hworld htime hlocated rfl
      refine ⟨o, hresult, hcandidate, fun _ => ⟨fun c hc => ?_, hconnects⟩, nofun⟩
      rw [show attempt.calls = _ from (ping_of_address hlocated port).2] at hc
      exact callsOnly_reachable w host timeout _ start c hc
    | false =>
      obtain ⟨seconds, hseconds⟩ := hduration hhost
      obtain ⟨first, others, hfound⟩ | ⟨text, hfound⟩ :=
        resolve_cases hworld hresolver hseconds host start
      · obtain ⟨o, hresult, hcandidate, hconnects⟩ := ping_connectsTo hworld htime
          (run_pingAddress_of_ok hhost hfound) (connects_resolve ..)
        exact ⟨o, hresult, hcandidate, nofun, fun _ => .inl ⟨first, others, hfound, hconnects⟩⟩
      · obtain ⟨hresult, hcalls⟩ := ping_of_probe hhost hfound
        refine ⟨_, hresult, rfl, nofun, fun _ => .inr ⟨text, hfound, ?_, rfl, rfl, rfl⟩⟩
        exact (congrArg _ hcalls).trans (connects_resolve ..)
  · obtain ⟨hresult, hcalls⟩ := ping_of_error hname (isProbe_of_duration he)
      (resolve_of_no_duration hresolver he).1
    exact ⟨hresult, (congrArg _ hcalls).trans (connects_resolve ..)⟩

/-- A network without a default resolver, on which a name has two addresses, the first of which
accepts connections to port 80 only. -/
def oneOpenPort : World := .ofScript {
  start := 0.0
  connections := [⟨"192.0.2.7", 80, .float 0.25, none⟩]
  lookups := [⟨"h", .a, .float 0.5, .ok ["192.0.2.7", "192.0.2.8"]⟩]
  requests := []
  noResolver := some (.lookup .noConfiguration {}) }

theorem isOrdinary_oneOpenPort : oneOpenPort.IsOrdinary where
  lookup_isLookup name type e he := by
    simp only [oneOpenPort, World.ofScript, World.last?, List.foldl_cons, List.foldl_nil] at he
    by_cases hmeant : (RecordType.a == type && Text.ofString "h" == name) = true
    · rw [if_pos hmeant] at he
      cases he
    · rw [if_neg hmeant] at he
      rw [← Except.error.inj he]
      rfl
  connect_isSocket host port e he := by
    simp only [oneOpenPort, World.ofScript, World.last?, List.foldl_cons, List.foldl_nil] at he
    by_cases hmeant : ((80 : Int) == port && Text.ofString "192.0.2.7" == host) = true
    · rw [if_pos hmeant] at he
      cases he
    · rw [if_neg hmeant] at he
      rw [← Except.error.inj he]
      rfl

/-- The port that is asked for is refused at the first address of the name, and port 80 answers. If
there is no resolver to ask, nothing is connected to. -/
theorem ping_end_to_end_fallback :
    let timeout : Timeout := some (.float 1.0)
    (∃ outcome, ((ping oneOpenPort "h" 8443 timeout .given).run 0.0).result = .ok outcome ∧
      outcome.candidate = .text "h" ∧ outcome.positive = true ∧
      outcome.details = pingDetails "192.0.2.7" 80 true ∧
      ((ping oneOpenPort "h" 8443 timeout .given).run 0.0).calls.filter Call.isConnect =
        [.connect "192.0.2.7" 8443 timeout, .connect "192.0.2.7" 80 timeout]) ∧
    ∃ outcome, ((ping oneOpenPort "h" 8443 timeout .default).run 0.0).result = .ok outcome ∧
      outcome.positive = false ∧ outcome.details = [] ∧
      ((ping oneOpenPort "h" 8443 timeout .default).run 0.0).calls.filter Call.isConnect = [] := by
  intro timeout
  have hname : Address.isAddress "h" = false := rfl
  have hrefused : ¬oneOpenPort.Accepts "192.0.2.7" 8443 := World.not_accepts_iff.mpr ⟨_, rfl⟩
  have haccepts : oneOpenPort.Accepts "192.0.2.7" 80 := World.accepts_iff_answer.mpr rfl
  have htime : HasPingTime oneOpenPort "h" 8443 timeout .given 0.0 := by
    intro address haddress before answered hfirst
    obtain rfl : "192.0.2.7" = address := Except.ok.inj (Except.ok.inj haddress)
    obtain ⟨rfl, rfl⟩ | ⟨rfl, rfl, -⟩ := isFirst_pingPorts hfirst
    · exact absurd hfirst.accepts hrefused
    · have hclock : ((pingAddress oneOpenPort "h" timeout .given).run 0.0).state = 0.5 := rfl
      rw [hclock]
      exact ⟨250, rfl⟩
  constructor
  · obtain ⟨-, hping, -⟩ := ping_end_to_end oneOpenPort "h" 8443 timeout .given 0.0
    obtain ⟨o, hresult, hcandidate, -, hfound⟩ :=
      hping isOrdinary_oneOpenPort nofun htime fun _ => ⟨1.0, rfl⟩
    obtain ⟨first, others, hfirst, tried, htries, hconnects, htells⟩ | ⟨text, htext, -⟩ :=
      hfound hname
    · obtain ⟨rfl, -⟩ : "192.0.2.7" = first ∧ _ := List.cons.inj (Except.ok.inj hfirst)
      cases htries with
      | first h => exact absurd h (by simp [hrefused])
      | second =>
        exact ⟨o, hresult, hcandidate, htells.positive_iff.mpr ⟨80, by simp, haccepts⟩,
          (htells.of_accepts 80 (by simp) haccepts).2, hconnects⟩
    · cases htext
  · obtain ⟨-, hping, -⟩ := ping_end_to_end oneOpenPort "h" 8443 timeout .default 0.0
    have hresolver : Resolver.FailsByLookup oneOpenPort .default := by
      rintro - e ⟨⟩
      rfl
    have hunresolved : HasPingTime oneOpenPort "h" 8443 timeout .default 0.0 := by
      intro address haddress
      cases Except.ok.inj haddress
    obtain ⟨o, hresult, -, -, hfound⟩ :=
      hping isOrdinary_oneOpenPort hresolver hunresolved fun _ => ⟨1.0, rfl⟩
    obtain ⟨first, others, hfirst, -⟩ | ⟨text, -, hconnects, hpositive, -, hdetails⟩ := hfound hname
    · cases hfirst
    · exact ⟨o, hresult, hpositive, hdetails, hconnects⟩

end Probe

end NetSurvey
