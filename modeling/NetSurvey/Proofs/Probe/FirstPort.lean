import Mathlib.Data.List.Forall2
import NetSurvey.Proofs.Probe.Reaction
import NetSurvey.Proofs.Probe.Shape

/-!
# The first port that answers

A host is reachable if one of several ports accepts a connection. The ports are tried in order, and
each attempt moves the clock for the ones after it. `run_tryPorts_append` says what is left to do
after ports whose failures the probe reports: the rest of the ports, from where the clock is then,
with the last of the failures to be told if no port accepts. So the first port that accepts decides,
or the first failure that is not the probe's to report, whichever comes before the other.
-/

namespace NetSurvey

namespace World

/-- The reading of the clock after attempts to connect to several ports, one after the other. -/
def clockAfter (w : World) (host : Text) (ports : List Int) (start : Float) : Float :=
  ports.foldl (fun now port => (w.connect host port).clockAfter now) start

/-- A port is the first one of several that accepts a connection, and `before` stand before it. -/
structure IsFirst (w : World) (host : Text) (ports before : List Int) (port : Int) : Prop where
  exists_eq : ∃ after, ports = before ++ port :: after
  not_accepts : ∀ earlier ∈ before, ¬w.Accepts host earlier
  accepts : w.Accepts host port

/-- Where some port accepts connections, one of them is the first to do so. -/
theorem exists_isFirst {w : World} {host : Text} {ports : List Int}
    (h : ∃ port ∈ ports, w.Accepts host port) :
    ∃ before port, w.IsFirst host ports before port := by
  induction ports with
  | nil =>
    obtain ⟨port, hport, -⟩ := h
    cases hport
  | cons first ports ih =>
    by_cases hfirst : w.Accepts host first
    · exact ⟨[], first, ⟨ports, rfl⟩, nofun, hfirst⟩
    · have hlater : ∃ port ∈ ports, w.Accepts host port := by
        obtain ⟨port, hport, haccepts⟩ := h
        obtain rfl | hport := List.mem_cons.mp hport
        · exact absurd haccepts hfirst
        · exact ⟨port, hport, haccepts⟩
      obtain ⟨before, port, ⟨after, rfl⟩, hbefore, haccepts⟩ := ih hlater
      refine ⟨first :: before, port, ⟨after, rfl⟩, fun earlier hearlier => ?_, haccepts⟩
      obtain rfl | hearlier := List.mem_cons.mp hearlier
      · exact hfirst
      · exact hbefore earlier hearlier

end World

namespace Probe

open Activity

variable {w : World} {host : Text} {timeout : Timeout}

/-- A connection is not opened, and the text is what the probe reports about it. -/
def Declines (w : World) (host : Text) (port : Int) (text : Text) : Prop :=
  ∃ e, (w.connect host port).answer = .error e ∧ unopened host port e = .probe text

/-- What a probe reports about a system call that failed. -/
def refusal (host : Text) (port : Int) (e : Failure) : Text :=
  host ++ s!":{port} - " ++ e.message

theorem declines_of_isSocket {port : Int} {e : Failure}
    (h : (w.connect host port).answer = .error e) (he : e.isSocket = true) :
    Declines w host port (refusal host port e) :=
  ⟨e, h, if_pos he⟩

/-- A failure that a probe reported itself is passed on as it is. -/
theorem declines_of_isProbe {port : Int} {e : Failure}
    (h : (w.connect host port).answer = .error e) (he : e.isProbe = true) :
    ∃ text, Declines w host port text := by
  obtain ⟨text, rfl⟩ := Failure.exists_of_isProbe he
  exact ⟨text, .probe text, h, rfl⟩

/-- A port declines in one way only. -/
theorem Declines.text_eq {port : Int} {text other : Text} (h : Declines w host port text)
    (hother : Declines w host port other) : text = other := by
  obtain ⟨e, hanswer, htext⟩ := h
  obtain ⟨e', hanswer', hother⟩ := hother
  obtain rfl := Except.error.inj (hanswer.symm.trans hanswer')
  exact Failure.probe.inj (htext.symm.trans hother)

/-- If each port declines, there are texts for all of them, in their order. -/
theorem exists_texts {ports : List Int} (h : ∀ port ∈ ports, ∃ text, Declines w host port text) :
    ∃ texts, List.Forall₂ (Declines w host) ports texts := by
  induction ports with
  | nil => exact ⟨[], .nil⟩
  | cons port ports ih =>
    obtain ⟨text, htext⟩ := h port List.mem_cons_self
    obtain ⟨texts, htexts⟩ := ih fun later hlater => h later (List.mem_cons_of_mem port hlater)
    exact ⟨text :: texts, .cons htext htexts⟩

/-- The last text is about the last port. -/
theorem getLast?_texts {front : List Int} {port : Int} {texts : List Text} {text : Text}
    (h : List.Forall₂ (Declines w host) (front ++ [port]) texts)
    (htext : Declines w host port text) : texts.getLast? = some text := by
  have hreverse := List.forall₂_reverse_iff.mpr h
  rw [List.reverse_append, List.reverse_singleton, List.singleton_append] at hreverse
  rw [List.getLast?_eq_head?_reverse]
  generalize texts.reverse = reversed at hreverse
  cases hreverse with
  | cons hlast _ => rw [List.head?_cons, hlast.text_eq htext]

/-! ### Port by port -/

/-- A port that declines is one call, and the others are tried after it with its text as the last
one. -/
theorem run_tryPorts_cons_of_declines {port : Int} {text : Text} (h : Declines w host port text)
    (isPrimary : Bool) (last : Option Text) (ports : List Int) (now : Float) :
    let rest := (tryPorts w host timeout false (some text) ports).run
      ((w.connect host port).clockAfter now)
    (tryPorts w host timeout isPrimary last (port :: ports)).run now =
      ⟨rest.result, rest.state, .connect host port timeout :: rest.calls, rest.log⟩ := by
  obtain ⟨e, hanswer, htext⟩ := h
  have hconnect := run_connect_of_error timeout now hanswer
  rw [htext] at hconnect
  rw [tryPorts, run_bind_of_ok (run_attempt_of_probe hconnect)]
  rfl

/-- The outcome about a host that answered on a port. -/
def aliveOutcome (host : Text) (port time : Int) (isFallback : Bool) : Outcome where
  candidate := .text host
  positive := true
  measurement := some (.int time)
  details := portDetails port isFallback

/-- A port that answers ends the search. It is a fallback unless it was the first to be tried. -/
theorem run_tryPorts_cons_of_time {port time : Int} {now : Float}
    (h : w.connectTime? host port now = some time) (isPrimary : Bool) (last : Option Text)
    (ports : List Int) :
    (tryPorts w host timeout isPrimary last (port :: ports)).run now =
      ⟨.ok (.ok (aliveOutcome host port time !isPrimary)), (w.connect host port).clockAfter now,
        [.connect host port timeout, .close host port],
        [⟨.info, .probes, "Host " ++ host ++ s!" is alive on port {port} ({time} ms)"⟩]⟩ := by
  rw [tryPorts, run_bind_of_ok (run_attempt_of_ok (run_connect_of_time timeout now h))]
  rfl

/-- A failure that is neither of the socket nor reported by a probe ends the search without an
outcome. -/
theorem tryPorts_cons_of_error {port : Int} {e : Failure} {now : Float}
    (h : (w.connect host port).answer = .error e) (hsocket : e.isSocket = false)
    (hprobe : e.isProbe = false) (isPrimary : Bool) (last : Option Text) (ports : List Int) :
    (tryPorts w host timeout isPrimary last (port :: ports)).run now =
      ⟨.error e, (w.connect host port).clockAfter now, [.connect host port timeout], []⟩ := by
  have hconnect := run_connect_of_error timeout now h
  rw [unopened, hsocket, if_neg Bool.false_ne_true] at hconnect
  have hattempt := run_attempt_of_error hprobe hconnect
  rw [tryPorts, run_bind_of_error hattempt]

variable (timeout)

/-- After ports that were declined, the others are left, and none of them is the primary one. -/
theorem run_tryPorts_append {before : List Int} {texts : List Text}
    (h : List.Forall₂ (Declines w host) before texts) (isPrimary : Bool) (last : Option Text)
    (ports : List Int) (now : Float) :
    let rest := (tryPorts w host timeout (isPrimary && before.isEmpty) (texts.getLast?.or last)
      ports).run (w.clockAfter host before now)
    (tryPorts w host timeout isPrimary last (before ++ ports)).run now =
      ⟨rest.result, rest.state, before.map (.connect host · timeout) ++ rest.calls, rest.log⟩ := by
  induction h generalizing isPrimary last now with
  | nil => simp [World.clockAfter]
  | @cons port text before texts hport _ ih =>
    have hlast : (text :: texts).getLast?.or last = texts.getLast?.or (some text) := by
      cases texts with
      | nil => rfl
      | cons next texts => rw [List.getLast?_cons_cons]; simp [List.getLast?_cons]
    have hrest := ih false (some text) ((w.connect host port).clockAfter now)
    rw [Bool.false_and] at hrest
    rw [List.cons_append, run_tryPorts_cons_of_declines hport, List.isEmpty_cons, Bool.and_false,
      hlast, hrest]
    rfl

/-! ### All ports -/

section Reachable

variable {ports before after : List Int} {texts : List Text} {port time : Int} (start : Float)

/-- The outcome about a host that did not answer. -/
def silentOutcome (host : Text) (last : Option Text) : Outcome where
  candidate := .text host
  positive := false
  error := last

/-- Behind ports that decline, the first one that answers is told, and no other one is tried after
it. -/
theorem reachable_of_time (hports : ports = before ++ port :: after)
    (hbefore : List.Forall₂ (Declines w host) before texts)
    (htime : w.connectTime? host port (w.clockAfter host before start) = some time) :
    ((reachable w host timeout ports).run start).result =
        .ok (aliveOutcome host port time !before.isEmpty) ∧
      ((reachable w host timeout ports).run start).calls =
        before.map (.connect host · timeout) ++ [.connect host port timeout, .close host port] := by
  have hrun := run_tryPorts_append timeout hbefore true none (port :: after) start
  rw [run_tryPorts_cons_of_time htime, Bool.true_and] at hrun
  rw [reachable, hports, run_bind_of_ok hrun]
  exact ⟨rfl, List.append_nil _⟩

/-- Where all ports decline, each of them is tried once, and the text of the last one is told. -/
theorem reachable_of_declined (h : List.Forall₂ (Declines w host) ports texts) :
    ((reachable w host timeout ports).run start).result =
        .ok (silentOutcome host texts.getLast?) ∧
      ((reachable w host timeout ports).run start).calls = ports.map (.connect host · timeout) := by
  have hrun := run_tryPorts_append timeout h true none [] start
  rw [List.append_nil, Option.or_none, tryPorts, run_pure] at hrun
  rw [reachable, run_bind_of_ok hrun]
  refine ⟨rfl, ?_⟩
  rw [List.append_nil]
  exact List.append_nil _

/-- Behind ports that decline, a failure that is not of the socket is passed on. -/
theorem reachable_of_error (hports : ports = before ++ port :: after)
    (hbefore : List.Forall₂ (Declines w host) before texts) {e : Failure}
    (h : (w.connect host port).answer = .error e) (hsocket : e.isSocket = false)
    (hprobe : e.isProbe = false) :
    ((reachable w host timeout ports).run start).result = .error e ∧
      ((reachable w host timeout ports).run start).calls =
        before.map (.connect host · timeout) ++ [.connect host port timeout] := by
  have hrun := run_tryPorts_append timeout hbefore true none (port :: after) start
  rw [tryPorts_cons_of_error h hsocket hprobe] at hrun
  rw [reachable, hports, run_bind_of_error hrun]
  exact ⟨rfl, rfl⟩

end Reachable

/-! ### The connections -/

section Connects

variable {ports before : List Int} {port : Int} (start : Float)

theorem filter_isConnect_map (ports : List Int) :
    (ports.map (Call.connect host · timeout)).filter Call.isConnect =
      ports.map (.connect host · timeout) := by
  refine List.filter_eq_self.mpr fun c hc => ?_
  obtain ⟨port, -, rfl⟩ := List.mem_map.mp hc
  rfl

/-- A connection that is not opened fails with a system call. -/
def FailsBySystem (w : World) (host : Text) (ports : List Int) : Prop :=
  ∀ port ∈ ports, ∀ e, (w.connect host port).answer = .error e → e.isSocket = true

/-- Where ports fail only by the system, those that do not accept connections decline. -/
theorem FailsBySystem.exists_texts (hworld : FailsBySystem w host ports)
    (hbefore : ∀ earlier ∈ before, earlier ∈ ports ∧ ¬w.Accepts host earlier) :
    ∃ texts, List.Forall₂ (Declines w host) before texts := by
  refine Probe.exists_texts fun earlier hearlier => ?_
  obtain ⟨hmem, hnot⟩ := hbefore earlier hearlier
  obtain ⟨e, he⟩ := World.not_accepts_iff.mp hnot
  exact ⟨_, declines_of_isSocket he (hworld earlier hmem e he)⟩

theorem reachable_of_isFirst (hworld : FailsBySystem w host ports)
    (h : w.IsFirst host ports before port) {time : Int}
    (htime : w.connectTime? host port (w.clockAfter host before start) = some time) :
    ((reachable w host timeout ports).run start).result =
        .ok (aliveOutcome host port time (0 < before.length)) ∧
      ((reachable w host timeout ports).run start).calls.filter Call.isConnect =
        (before ++ [port]).map (.connect host · timeout) := by
  obtain ⟨⟨after, hports⟩, hnot, haccepts⟩ := h
  have hbefore : ∀ earlier ∈ before, earlier ∈ ports ∧ ¬w.Accepts host earlier :=
    fun earlier hearlier => ⟨hports ▸ List.mem_append_left _ hearlier, hnot earlier hearlier⟩
  obtain ⟨texts, htexts⟩ := hworld.exists_texts hbefore
  obtain ⟨hresult, hcalls⟩ := reachable_of_time timeout start hports htexts htime
  have hfallback : (!before.isEmpty) = decide (0 < before.length) := by cases before <;> rfl
  rw [hfallback] at hresult
  refine ⟨hresult, ?_⟩
  rw [hcalls, List.filter_append, filter_isConnect_map, List.map_append]
  rfl

theorem reachable_of_no_port (hworld : FailsBySystem w host ports)
    (h : ∀ port ∈ ports, ¬w.Accepts host port) :
    ∃ texts, List.Forall₂ (Declines w host) ports texts ∧
      ((reachable w host timeout ports).run start).result =
        .ok (silentOutcome host texts.getLast?) ∧
      ((reachable w host timeout ports).run start).calls.filter Call.isConnect =
        ports.map (.connect host · timeout) := by
  obtain ⟨texts, htexts⟩ := hworld.exists_texts fun port hport => ⟨hport, h port hport⟩
  obtain ⟨hresult, hcalls⟩ := reachable_of_declined timeout start htexts
  refine ⟨texts, htexts, hresult, ?_⟩
  rw [hcalls, filter_isConnect_map]

end Connects

/-- **The first port that accepts wins.** If every connection is accepted or fails with a system
call, and the time of the first accepted one can be calculated, then the outcome is positive exactly
if one of the ports accepts. It names the first one, as a fallback if others stand before it, and
these and the port itself are the connections that were attempted, in order. If no port accepts,
all were attempted, and the outcome tells the failure of the last one. A failure that is neither of
a system call nor reported by a probe ends the attempts where it is met first, and is passed on. -/
theorem first_port_wins (w : World) (host : Text) (timeout : Timeout) (ports : List Int)
    (start : Float) :
    let attempt := (reachable w host timeout ports).run start
    let connects := attempt.calls.filter Call.isConnect
    (FailsBySystem w host ports →
      (∀ before port, w.IsFirst host ports before port →
        ∃ time, w.connectTime? host port (w.clockAfter host before start) = some time) →
      ∃ outcome, attempt.result = .ok outcome ∧ outcome.candidate = .text host ∧
        (outcome.positive = true ↔ ∃ port ∈ ports, w.Accepts host port) ∧
        (∀ before port, w.IsFirst host ports before port →
          outcome.details = portDetails port (0 < before.length) ∧
          outcome.measurement =
            (w.connectTime? host port (w.clockAfter host before start)).map .int ∧
          outcome.error = none ∧ connects = (before ++ [port]).map (.connect host · timeout)) ∧
        ((∀ port ∈ ports, ¬w.Accepts host port) →
          connects = ports.map (.connect host · timeout) ∧ outcome.measurement = none ∧
          outcome.details = [] ∧ (ports = [] → outcome.error = none) ∧
          ∀ front last e, ports = front ++ [last] → (w.connect host last).answer = .error e →
            outcome.error = some (host ++ s!":{last} - " ++ e.message))) ∧
    ∀ before port after e, ports = before ++ port :: after →
      (∀ earlier ∈ before, ∃ e', (w.connect host earlier).answer = .error e' ∧
        (e'.isSocket = true ∨ e'.isProbe = true)) →
      (w.connect host port).answer = .error e → e.isSocket = false → e.isProbe = false →
        attempt.result = .error e ∧
          connects = (before ++ [port]).map (.connect host · timeout) := by
  intro attempt connects
  refine ⟨fun hworld htimes => ?_,
    fun before port after e hports hbefore hport hsocket hprobe => ?_⟩
  · by_cases haccepts : ∃ port ∈ ports, w.Accepts host port
    · obtain ⟨before, port, hfirst⟩ := World.exists_isFirst haccepts
      obtain ⟨time, htime⟩ := htimes before port hfirst
      obtain ⟨hresult, -⟩ := reachable_of_isFirst timeout start hworld hfirst htime
      refine ⟨_, hresult, rfl, iff_of_true rfl haccepts, fun before' port' hfirst' => ?_, ?_⟩
      · -- There is one first port, since the outcome is the same whichever is taken.
        obtain ⟨time', htime'⟩ := htimes before' port' hfirst'
        obtain ⟨hresult', hconnects⟩ :=
          reachable_of_isFirst timeout start hworld hfirst' htime'
        rw [Except.ok.inj (hresult.symm.trans hresult'), htime']
        exact ⟨rfl, rfl, rfl, hconnects⟩
      · intro hnone
        exact absurd haccepts (by simpa using hnone)
    · have hnone : ∀ port ∈ ports, ¬w.Accepts host port := by simpa using haccepts
      obtain ⟨texts, htexts, hresult, hconnects⟩ :=
        reachable_of_no_port timeout start hworld hnone
      refine ⟨_, hresult, rfl, iff_of_false nofun haccepts, ?_, fun _ => ?_⟩
      · rintro before port ⟨⟨after, rfl⟩, -, hport⟩
        exact absurd hport (hnone port (by simp))
      · refine ⟨hconnects, rfl, rfl, ?_, ?_⟩
        · rintro rfl
          cases htexts
          rfl
        · rintro front last e rfl hlast
          have hsocket := hworld last (by simp) e hlast
          exact getLast?_texts htexts (declines_of_isSocket hlast hsocket)
  · have hdeclines : ∀ earlier ∈ before, ∃ text, Declines w host earlier text := by
      intro earlier hearlier
      obtain ⟨e', hanswer, hsocket | hprobe⟩ := hbefore earlier hearlier
      · exact ⟨_, declines_of_isSocket hanswer hsocket⟩
      · exact declines_of_isProbe hanswer hprobe
    obtain ⟨texts, htexts⟩ := exists_texts hdeclines
    obtain ⟨hresult, hcalls⟩ := reachable_of_error timeout start hports htexts hport
      hsocket hprobe
    refine ⟨hresult, ?_⟩
    have hmap : attempt.calls = (before ++ [port]).map (.connect host · timeout) := by
      rw [List.map_append]
      exact hcalls
    rw [show connects = attempt.calls.filter Call.isConnect from rfl, hmap, filter_isConnect_map]

/-- A network on which port 22 times out after half a second, port 80 accepts connections, and port
7 interrupts whoever connects to it. -/
def threePorts : World := .ofScript {
  start := 0.0
  connections := [⟨"h", 22, .float 0.5, some (.socket .timedOut ⟨none, some "timed out"⟩)⟩,
    ⟨"h", 80, .float 0.25, none⟩, ⟨"h", 7, .int 0, some (.interrupt .keyboard {})⟩]
  lookups := []
  requests := []
  noResolver := none }

/-- Port 80 is listed twice behind port 22, and the first of the two is taken; with port 7 before
it, the interrupt is met and the others are not tried. -/
theorem first_port_wins_second :
    (∃ outcome, ((reachable threePorts "h" none [22, 80, 80]).run 0.0).result = .ok outcome ∧
      outcome.positive = true ∧ outcome.details = portDetails 80 true ∧
      outcome.measurement = some (.int 250) ∧ outcome.error = none ∧
      ((reachable threePorts "h" none [22, 80, 80]).run 0.0).calls.filter Call.isConnect =
        [.connect "h" 22 none, .connect "h" 80 none]) ∧
    ((reachable threePorts "h" none [22, 7, 80]).run 0.0).result =
        .error (.interrupt .keyboard {}) ∧
      ((reachable threePorts "h" none [22, 7, 80]).run 0.0).calls.filter Call.isConnect =
        [.connect "h" 22 none, .connect "h" 7 none] := by
  have hrefused : ¬threePorts.Accepts "h" 22 := World.not_accepts_iff.mpr ⟨_, rfl⟩
  have haccepts : threePorts.Accepts "h" 80 := World.accepts_iff_answer.mpr rfl
  have hfirst : threePorts.IsFirst "h" [22, 80, 80] [22] 80 :=
    ⟨⟨[80], rfl⟩, by simpa using hrefused, haccepts⟩
  have hworld : FailsBySystem threePorts "h" [22, 80, 80] := by
    intro port hport e he
    obtain rfl | rfl : port = 22 ∨ port = 80 := by simpa using hport
    · obtain rfl := Except.error.inj he
      rfl
    · cases he
  have htimes : ∀ before port, threePorts.IsFirst "h" [22, 80, 80] before port →
      ∃ time, threePorts.connectTime? "h" port (threePorts.clockAfter "h" before 0.0) =
        some time := by
    rintro before port ⟨⟨after, hports⟩, hnot, hport⟩
    rcases before with _ | ⟨first, _ | ⟨second, before⟩⟩
    · obtain ⟨rfl, -⟩ := List.cons.inj hports
      exact absurd hport hrefused
    · obtain ⟨rfl, htail⟩ := List.cons.inj hports
      obtain ⟨rfl, -⟩ := List.cons.inj htail
      exact ⟨250, rfl⟩
    · obtain ⟨-, htail⟩ := List.cons.inj hports
      obtain ⟨rfl, -⟩ := List.cons.inj htail
      exact absurd haccepts (hnot 80 (by simp))
  obtain ⟨outcome, hresult, -, hpositive, hdetails, -⟩ :=
    (first_port_wins threePorts "h" none [22, 80, 80] 0.0).1 hworld htimes
  obtain ⟨hport, hmeasured, herror, hconnects⟩ := hdetails [22] 80 hfirst
  refine ⟨⟨outcome, hresult, hpositive.mpr ⟨80, by simp, haccepts⟩, hport, hmeasured.trans rfl,
    herror, hconnects⟩, ?_⟩
  refine (first_port_wins threePorts "h" none [22, 7, 80] 0.0).2 [22] 7 [80] _ rfl ?_ rfl rfl rfl
  intro earlier hearlier
  obtain rfl := List.mem_singleton.mp hearlier
  exact ⟨_, rfl, .inl rfl⟩

end Probe

end NetSurvey
