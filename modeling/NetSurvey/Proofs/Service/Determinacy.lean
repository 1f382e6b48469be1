import NetSurvey.Proofs.Probe.Connect
import NetSurvey.Proofs.Service.Consistency

/-!
# Answers about ports do not depend on the schedule

What is recorded about a port depends on the port alone, so the outcomes of two scans are the same
up to their order, whatever the number of workers and the order in which the probes end. The answer
has them sorted by port. Outcomes with the same port are equal, so the sorted list is unique: it is
what the connections tell about the ports in ascending order (`portAnswers`).
-/

namespace NetSurvey.Service

open Schedule Scan Probe

/-! ### Sorting by port -/

theorem pairwise_mergeSort_key {α : Type} (key : α → Int) (items : List α) :
    (items.mergeSort fun a b => decide (key a ≤ key b)).Pairwise fun a b => key a ≤ key b := by
  have htrans (a b c : α) (hab : decide (key a ≤ key b) = true)
      (hbc : decide (key b ≤ key c) = true) : decide (key a ≤ key c) = true :=
    decide_eq_true (Int.le_trans (of_decide_eq_true hab) (of_decide_eq_true hbc))
  have htotal (a b : α) : (decide (key a ≤ key b) || decide (key b ≤ key a)) = true := by
    simpa using Int.le_total (key a) (key b)
  exact (List.pairwise_mergeSort htrans htotal items).imp of_decide_eq_true

/-- Outcomes that are determined by their ports are sorted in only one way: sorting them is sorting
the ports. -/
theorem mergeSort_eq_map {outcomes : List Outcome} {ports : List Int} {finding : Int → Outcome}
    (hfinding : ∀ port, portNumber (finding port) = port)
    (hperm : outcomes.Perm (ports.map finding)) :
    (outcomes.mergeSort fun a b => decide (portNumber a ≤ portNumber b)) =
      (ports.mergeSort fun a b => decide (a ≤ b)).map finding := by
  have hports := pairwise_mergeSort_key id ports
  have hmapped : ((ports.mergeSort fun a b => decide (a ≤ b)).map finding).Pairwise
      fun a b => portNumber a ≤ portNumber b := by
    refine List.pairwise_map.mpr (hports.imp fun h => ?_)
    rwa [hfinding, hfinding]
  have hsame : (outcomes.mergeSort fun a b => decide (portNumber a ≤ portNumber b)).Perm
      ((ports.mergeSort fun a b => decide (a ≤ b)).map finding) :=
    ((List.mergeSort_perm ..).trans hperm).trans ((List.mergeSort_perm ..).map finding).symm
  refine hsame.eq_of_pairwise (fun a b ha hb hab hba => ?_)
    (pairwise_mergeSort_key portNumber outcomes) hmapped
  -- Two outcomes of the same number are what is recorded about one port.
  obtain ⟨p, -, rfl⟩ := List.mem_map.mp (hsame.mem_iff.mp ha)
  obtain ⟨q, -, rfl⟩ := List.mem_map.mp hb
  rw [hfinding, hfinding] at hab hba
  rw [Int.le_antisymm hab hba]

/-! ### What connections tell about ports -/

/-- What a connection tells about a port. -/
def portAnswer (w : World) (host : Text) (port : Int) : PortAnswer :=
  ⟨port, w.connectTime? host port w.start⟩

/-- What connections tell about ports, in ascending order. -/
def portAnswers (w : World) (host : Text) (ports : List Int) : List PortAnswer :=
  (ports.mergeSort fun a b => decide (a ≤ b)).map (portAnswer w host)

variable {w : World} {scanner : Scanner} {host : Text} {port : Int}

theorem portNumber_portFinding (port : Int) :
    portNumber (portFinding w scanner host port) = port := by
  rw [portNumber, (timed_portFinding host port).candidate_eq]

/-- What is recorded about a port is what the connection tells. -/
theorem exists_portFinding (w : World) (scanner : Scanner) (host : Text) (port : Int) :
    ∃ (error : Option Text) (details : Fields), portFinding w scanner host port = {
      candidate := .int port
      positive := (portAnswer w host port).isOpen
      measurement := (w.connectTime? host port w.start).map .int
      error
      details } := by
  rw [portAnswer, PortAnswer.isOpen]
  -- A failure that the probe does not report is recorded by the schedule, without any details.
  rcases connect_cases w host port (some scanner.timeout) w.start with
    ⟨time, hconnect, htime⟩ | ⟨text, hconnect, htime⟩ | ⟨e, hprobe, hconnect, htime⟩
  · rw [htime]
    exact ⟨none, _, finding_of_ok (result_portOpen_of_ok port w.start hconnect)⟩
  · rw [htime]
    exact ⟨some text, _, finding_of_ok (result_portOpen_of_probe port w.start hconnect)⟩
  · obtain ⟨text, htext⟩ : ∃ text, portFinding w scanner host port = .failed (.int port) text :=
      finding_of_error (result_portOpen_of_error port w.start hprobe hconnect)
    rw [htime]
    exact ⟨some text, [], htext⟩

theorem completed_portFinding :
    completed portFields (portRecord (portFinding w scanner host port)) =
      (portAnswer w host port).toDatum := by
  obtain ⟨error, details, hfinding⟩ := exists_portFinding w scanner host port
  rw [hfinding]
  rw [portAnswer, PortAnswer.isOpen]
  cases w.connectTime? host port w.start <;> rfl

theorem positive_portFinding :
    (portFinding w scanner host port).positive = (portAnswer w host port).isOpen := by
  obtain ⟨error, details, hfinding⟩ := exists_portFinding w scanner host port
  rw [hfinding]

theorem portAnswers_perm (w : World) (host : Text) (ports : List Int) :
    (portAnswers w host ports).Perm (ports.map (portAnswer w host)) :=
  (List.mergeSort_perm ..).map _

theorem pairwise_portAnswers (w : World) (host : Text) (ports : List Int) :
    (portAnswers w host ports).Pairwise fun a b => a.port ≤ b.port :=
  List.pairwise_map.mpr (pairwise_mergeSort_key id ports)

theorem ports_portAnswers (w : World) (host : Text) (ports : List Int) :
    ((portAnswers w host ports).map (·.port)).Perm ports := by
  have hports := (portAnswers_perm w host ports).map (·.port)
  have hid : (·.port) ∘ portAnswer w host = id := rfl
  rwa [List.map_map, hid, List.map_id] at hports

/-- The records of the sorted outcomes are what the connections tell. -/
theorem map_completed_portFinding (ports : List Int) :
    (((ports.mergeSort fun a b => decide (a ≤ b)).map (portFinding w scanner host)).map fun o =>
        completed portFields (portRecord o)) =
      (portAnswers w host ports).map PortAnswer.toDatum := by
  rw [portAnswers, List.map_map, List.map_map]
  exact List.map_congr_left fun port _ => completed_portFinding

/-- As many outcomes are positive as ports are open. -/
theorem length_filter_positive {outcomes : List Outcome} {ports : List Int}
    (hperm : outcomes.Perm (ports.map (portFinding w scanner host))) :
    (outcomes.filter (·.positive)).length =
      ((portAnswers w host ports).filter (·.isOpen)).length := by
  rw [(hperm.filter _).length_eq, ((portAnswers_perm w host ports).filter _).length_eq,
    List.filter_map, List.filter_map, List.length_map, List.length_map]
  congr 1
  exact List.filter_congr fun port _ => positive_portFinding

/-! ### What the service answers -/

variable {order : Order} {s : Settings} {watch : Stopwatch} {options : Options}
  {spec : Option Text} {chosen : List Int}

/-- The time that is told about a scan of some candidates. -/
def answerTime (count : Nat) (watch : Stopwatch) : Except ArithmeticError String := do
  let t ← timing count watch.reading watch.rest.reading
  return (← t.1.fixed 4) ++ " seconds"

/-- A stopwatch that gives doubles gives a time, for candidates that a double can count. -/
theorem exists_answerTime {count : Nat} (hcount : count.log2 < 1023) (readings : List Float) :
    ∃ time, answerTime count (readings.map Number.float) = .ok time := by
  obtain ⟨elapsed, rate, htiming⟩ := exists_timing hcount readings
  rw [answerTime, htiming]
  exact ⟨_, rfl⟩

/-- Two stopwatches that give doubles both give a time, or neither does, if they are the same or the
candidates can be counted. -/
theorem answerTime_cases {count : Nat} {readings₁ readings₂ : List Float}
    (h : readings₁ = readings₂ ∨ count.log2 < 1023) :
    (∃ cause, answerTime count (readings₁.map .float) = .error cause ∧
      answerTime count (readings₂.map .float) = .error cause ∧ ¬count.log2 < 1023) ∨
    ∃ time₁ time₂, answerTime count (readings₁.map .float) = .ok time₁ ∧
      answerTime count (readings₂.map .float) = .ok time₂ := by
  by_cases hcount : count.log2 < 1023
  · obtain ⟨time₁, htime₁⟩ := exists_answerTime hcount readings₁
    obtain ⟨time₂, htime₂⟩ := exists_answerTime hcount readings₂
    exact .inr ⟨time₁, time₂, htime₁, htime₂⟩
  · obtain rfl := h.resolve_right hcount
    cases answerTime count (readings₁.map .float) with
    | error cause => exact .inl ⟨cause, rfl, rfl, hcount⟩
    | ok time => exact .inr ⟨time, time, rfl, rfl⟩

/-- The scan of a task comes to what is recorded about the ports, in some order. -/
theorem result_ports (order : Order) (w : World) (watch : Stopwatch)
    (hworkers : 1 ≤ scanner.workers)
    (hchosen : Survey.portsOf scanner.settings (.text host) (portChoice spec) = .ok chosen) :
    ∃ outcomes : List Outcome, outcomes.Perm (chosen.map (portFinding w scanner host)) ∧
      ((Scan.ports order w scanner (.text host) (portChoice spec)).run watch).result =
        ((timing chosen.length watch.reading watch.rest.reading).mapError .arithmetic).map
          fun t => ⟨host, outcomes, .figures outcomes t.1 t.2⟩ := by
  obtain ⟨outcomes, hperm, hresult⟩ := result_carryOut_eq order w .int
    (fun port => portOpen w host port (some scanner.timeout) (.int port)) chosen hworkers host
  obtain ⟨hagrees, -⟩ := agrees_ports order w scanner (.text host) (portChoice spec) watch
  rw [hchosen, Activity.ofExcept_ok_bind] at hagrees
  exact ⟨outcomes, hperm, hagrees.trans (hresult watch)⟩

theorem result_reportBody (r : Report) (fields : Fields) (watch : Stopwatch) :
    ((reportBody r fields).run watch).result =
      ((executionTime r).mapError .arithmetic).map fun time : String =>
        .record (fields.set "execution_time" (.text time)) := by
  rw [reportBody]
  cases executionTime r <;> rfl

/-- **The answer about ports.** All that it has of the schedule is the time. -/
theorem result_perform_ports (order : Order) (w : World) (watch : Stopwatch)
    (hworkers : 1 ≤ (options.scanner .ports s).workers)
    (hchosen : Survey.portsOf s (.text host) (portChoice spec) = .ok chosen) :
    (((Task.ports options host spec).perform order w s).run watch).result =
      ((answerTime chosen.length watch).mapError .arithmetic).map fun time : String =>
        portsBody host (portAnswers w host chosen) time := by
  obtain ⟨outcomes, hperm, hscan⟩ := result_ports order w watch hworkers hchosen
  have hsorted := mergeSort_eq_map portNumber_portFinding hperm
  rw [perform_ports, answerTime]
  -- The scan fails if its figures cannot be calculated, and then there is nothing to sort.
  cases htiming : timing chosen.length watch.reading watch.rest.reading with
  | error cause =>
    rw [htiming] at hscan
    rw [Activity.result_bind_of_error hscan]
    rfl
  | ok t =>
    rw [htiming] at hscan
    rw [Activity.result_bind_of_ok hscan]
    dsimp only
    rw [hsorted, map_completed_portFinding, ok_bind, result_reportBody, Summary.figures,
      length_filter_positive hperm]
    rfl

/-- Whether the body can be written has nothing to do with the time. -/
theorem isWritable_portsBody (host : Text) (results : List PortAnswer) (time₁ time₂ : String) :
    isWritable (portsBody host results time₁) = isWritable (portsBody host results time₂) := by
  simp [portsBody, isWritable, haveWritable]

theorem status_portsBody (host : Text) (results : List PortAnswer) (time₁ time₂ : String) :
    (Answer.data 200 (portsBody host results time₁)).status =
      (Answer.data 200 (portsBody host results time₂)).status := by
  rw [Answer.data, Answer.data, isWritable_portsBody host results time₁ time₂]
  split <;> rfl

namespace App

variable {app : App} {r : Request} {workers : Option Int} {timeout : Option Float}

/-- A request for a scan of ports that chooses a number of workers chooses at least one. -/
theorem one_le_of_asks {n : Int} (hasks : app.Asks r (.ports options host spec))
    (hn : options.workers = some n) : 1 ≤ n := by
  obtain ⟨_, _, kind, body, -, -, -, -, htask⟩ := hasks
  cases body with
  | record fields =>
    have hform : kind.form fields = .ok (.ports options host spec) := htask
    cases kind with
    | ports =>
      obtain ⟨⟨chosen, _, _⟩, hboth, htask⟩ := map_eq_ok_iff.mp hform
      obtain ⟨rfl, -, -⟩ := Task.ports.inj htask
      exact one_le_of_form (Form.of_both_eq_ok hboth).1 hn
    | _ =>
      obtain ⟨_, -, htask⟩ := map_eq_ok_iff.mp hform
      cases htask
  | _ => cases htask

/-- Its scanner has a worker, unless neither the request nor the settings give one. -/
theorem one_le_workers_of_asks (hasks : app.Asks r (.ports ⟨workers, timeout⟩ host spec))
    (h : workers.isSome = true ∨ 1 ≤ s.portWorkers) :
    1 ≤ (Options.scanner ⟨workers, timeout⟩ .ports s).workers := by
  cases workers with
  | none =>
    obtain h | h := h
    · cases h
    · exact h
  | some n =>
    have hn : 1 ≤ n := one_le_of_asks hasks rfl
    have hfilter : (some n).filter (· ≠ 0) = some n := by
      have hne : n ≠ 0 := by omega
      simp [hne]
    rw [Options.scanner, Scanner.ofKind, hfilter]
    exact hn

section Answer

variable (hasks : app.Asks r (.ports ⟨workers, timeout⟩ host spec)) (hs : app.settings.1 = s)
  (order : Order) (w : World)
include hasks hs

/-- Ports that cannot be found out are told so. -/
theorem ports_answer_of_error {e : Failure}
    (h : Survey.portsOf s (.text host) (portChoice spec) = .error e) :
    (app.handle order w r).answer = (failureAnswer e).1 := by
  refine answer_of_error hasks ?_
  have hscan := Survey.failed_of_agrees
    (agrees_ports order w (Options.scanner ⟨workers, timeout⟩ .ports s) (.text host)
      (portChoice spec)) h app.watch
  rw [hs, perform_ports, Activity.result_bind_of_error hscan.1]

/-- So is that there is no worker. -/
theorem ports_answer_of_no_worker (hworkers : workers = none) (hnone : s.portWorkers < 1)
    (hchosen : Survey.portsOf s (.text host) (portChoice spec) = .ok chosen) :
    (app.handle order w r).answer = (failureAnswer (.fewWorkers s.portWorkers)).1 := by
  subst hworkers
  refine answer_of_error hasks ?_
  have hscanner : (Options.scanner ⟨none, timeout⟩ .ports s).workers < 1 := hnone
  have hports : Survey.portsOf (Options.scanner ⟨none, timeout⟩ .ports s).settings (.text host)
    (portChoice spec) = .ok chosen := hchosen
  obtain ⟨hscan, -⟩ := agrees_ports order w (Options.scanner ⟨none, timeout⟩ .ports s) (.text host)
    (portChoice spec) app.watch
  rw [hports, Activity.ofExcept_ok_bind, run_carryOut_of_no_worker hscanner] at hscan
  rw [hs, perform_ports, Activity.result_bind_of_error hscan]
  rfl

/-- Where there are ports and workers, the answer is what the connections tell. -/
theorem ports_answer_of_time (hworkers : workers.isSome = true ∨ 1 ≤ s.portWorkers)
    (hchosen : Survey.portsOf s (.text host) (portChoice spec) = .ok chosen) {time : String}
    (htime : answerTime chosen.length app.watch = .ok time) :
    (app.handle order w r).answer =
      .ok (.data 200 (portsBody host (portAnswers w host chosen) time)) := by
  subst hs
  have hresult := result_perform_ports order w app.watch (one_le_workers_of_asks hasks hworkers)
    hchosen
  rw [htime] at hresult
  exact answer_of_ok hasks hresult

/-- Then only the time is left to go wrong. -/
theorem ports_answer_of_no_time (hworkers : workers.isSome = true ∨ 1 ≤ s.portWorkers)
    (hchosen : Survey.portsOf s (.text host) (portChoice spec) = .ok chosen)
    {cause : ArithmeticError} (htime : answerTime chosen.length app.watch = .error cause) :
    (app.handle order w r).answer = (failureAnswer (.arithmetic cause)).1 := by
  subst hs
  have hresult := result_perform_ports order w app.watch (one_le_workers_of_asks hasks hworkers)
    hchosen
  rw [htime] at hresult
  exact answer_of_error hasks hresult

end Answer

/-- **Answers about ports do not depend on the schedule.** Two requests for the same ports of the
same host, to services with the same settings, on the same network, may choose different numbers of
workers and be carried out in different orders. Either both get the same answer, that the ports
cannot be found out, that there is no worker, or that there are more ports than a double can count;
or both get the same status and, but for the time, the same body. Its results are in ascending order
of their ports, with one record for each time that a port is asked for, and each port is open with a
time exactly if the connection to it has one. -/
theorem ports_answer_unscheduled {app₁ app₂ : App} {r₁ r₂ : Request}
    {workers₁ workers₂ : Option Int} {timeout : Option Float} {host : Text} {spec : Option Text}
    (hasks₁ : app₁.Asks r₁ (.ports ⟨workers₁, timeout⟩ host spec))
    (hasks₂ : app₂.Asks r₂ (.ports ⟨workers₂, timeout⟩ host spec)) {s : Settings}
    (hs₁ : app₁.settings.1 = s) (hs₂ : app₂.settings.1 = s)
    (hworkers : workers₁.isSome = workers₂.isSome ∨ 1 ≤ s.portWorkers)
    {readings₁ readings₂ : List Float} (hwatch₁ : app₁.watch = readings₁.map .float)
    (hwatch₂ : app₂.watch = readings₂.map .float)
    (hclock : readings₁ = readings₂ ∨
      (Survey.ports (.text host) (portChoice spec)).IsCountable s)
    (order₁ order₂ : Order) (w : World) :
    let answer₁ := (app₁.handle order₁ w r₁).answer
    let answer₂ := (app₂.handle order₂ w r₂).answer
    (∃ e, answer₁ = (failureAnswer e).1 ∧ answer₂ = (failureAnswer e).1 ∧
      (Survey.portsOf s (.text host) (portChoice spec) = .error e ∨
        workers₁ = none ∧ s.portWorkers < 1 ∨
        ¬(Survey.ports (.text host) (portChoice spec)).IsCountable s)) ∨
    ∃ (chosen : List Int) (results : List PortAnswer) (time₁ time₂ : String),
      Survey.portsOf s (.text host) (portChoice spec) = .ok chosen ∧
      answer₁ = .ok (.data 200 (portsBody host results time₁)) ∧
      answer₂ = .ok (.data 200 (portsBody host results time₂)) ∧
      (Answer.data 200 (portsBody host results time₁)).status =
        (Answer.data 200 (portsBody host results time₂)).status ∧
      (results.Pairwise fun a b => a.port ≤ b.port) ∧
      (results.map (·.port)).Perm chosen ∧
      ∀ p ∈ results, p.time = w.connectTime? host p.port w.start := by
  intro answer₁ answer₂
  cases hchosen : Survey.portsOf s (.text host) (portChoice spec) with
  | error e =>
    exact .inl ⟨e, ports_answer_of_error hasks₁ hs₁ order₁ w hchosen,
      ports_answer_of_error hasks₂ hs₂ order₂ w hchosen, .inl rfl⟩
  | ok chosen =>
    by_cases hnone : workers₁ = none ∧ s.portWorkers < 1
    · -- Neither request chooses a number of workers, and the settings have none.
      have hnone₂ : workers₂ = none := by
        obtain ⟨rfl, hlt⟩ := hnone
        rcases hworkers with h | h
        · exact Option.isNone_iff_eq_none.mp (by simpa using h.symm)
        · omega
      exact .inl ⟨_, ports_answer_of_no_worker hasks₁ hs₁ order₁ w hnone.1 hnone.2 hchosen,
        ports_answer_of_no_worker hasks₂ hs₂ order₂ w hnone₂ hnone.2 hchosen, .inr (.inl hnone)⟩
    have hworkers₁ : workers₁.isSome = true ∨ 1 ≤ s.portWorkers := by
      by_contra! h
      exact hnone ⟨by simpa using h.1, by omega⟩
    have hworkers₂ : workers₂.isSome = true ∨ 1 ≤ s.portWorkers := by
      rcases hworkers with h | h
      · rwa [← h]
      · exact .inr h
    have hcandidates : (Survey.ports (.text host) (portChoice spec)).candidates s =
        .ok (chosen.map .int) := map_eq_ok_iff.mpr ⟨chosen, hchosen, rfl⟩
    have hcount : readings₁ = readings₂ ∨ chosen.length.log2 < 1023 :=
      hclock.imp_right fun h => by simpa using h _ hcandidates
    rcases answerTime_cases hcount with
      ⟨cause, htime₁, htime₂, hmany⟩ | ⟨time₁, time₂, htime₁, htime₂⟩
    · rw [← hwatch₁] at htime₁
      rw [← hwatch₂] at htime₂
      refine .inl ⟨_, ports_answer_of_no_time hasks₁ hs₁ order₁ w hworkers₁ hchosen htime₁,
        ports_answer_of_no_time hasks₂ hs₂ order₂ w hworkers₂ hchosen htime₂, .inr (.inr ?_)⟩
      exact fun h => hmany (by simpa using h _ hcandidates)
    · rw [← hwatch₁] at htime₁
      rw [← hwatch₂] at htime₂
      refine .inr ⟨chosen, portAnswers w host chosen, time₁, time₂, rfl,
        ports_answer_of_time hasks₁ hs₁ order₁ w hworkers₁ hchosen htime₁,
        ports_answer_of_time hasks₂ hs₂ order₂ w hworkers₂ hchosen htime₂,
        status_portsBody .., pairwise_portAnswers .., ports_portAnswers .., ?_⟩
      exact List.forall_mem_map.mpr fun port _ => rfl

end App

theorem asks_repeatedPort_nine :
    freshApp.Asks (repeatedPort "9") (.ports ⟨some 9, none⟩ "h" (some "80,70000,80")) :=
  ⟨"/recon/ports", (Text.encodeUtf8? (repeatedPort "9").body).getD [], .ports,
    .record [("host", .text "h"), ("ports", .text "80,70000,80"), ("workers", .int 9)],
    toOption_eq_some_iff.mp (by decide +kernel), rfl,
    toOption_eq_some_iff.mp (by decide +kernel), rfl, rfl⟩

/-- Two workers, one after the other, and nine, all started first and timed by another stopwatch,
tell the same about a port that is asked for twice. -/
theorem App.ports_answer_unscheduled_repeatedPort :
    let app : App := { freshApp with watch := [.float 1.0, .float 3.5] }
    let eager : Order := ⟨fun _ => .launcher⟩
    freshApp.Asks (repeatedPort "2") (.ports ⟨some 2, none⟩ "h" (some "80,70000,80")) ∧
    app.Asks (repeatedPort "9") (.ports ⟨some 9, none⟩ "h" (some "80,70000,80")) ∧
    ∃ (results : List PortAnswer) (time₁ time₂ : String),
      (freshApp.handle .serial World.closed (repeatedPort "2")).answer =
        .ok (.data 200 (portsBody "h" results time₁)) ∧
      (app.handle eager World.closed (repeatedPort "9")).answer =
        .ok (.data 200 (portsBody "h" results time₂)) ∧
      (results.map (·.port)).Perm [80, 80] := by
  intro app eager
  have hports : Survey.portsOf freshApp.settings.1 (.text "h") (portChoice (some "80,70000,80")) =
    .ok [80, 80] := rfl
  have hcount : (Survey.ports (.text "h") (portChoice (some "80,70000,80"))).IsCountable
      freshApp.settings.1 := by
    intro cs hcs
    obtain rfl := Except.ok.inj (candidates_repeatedPort.symm.trans hcs)
    decide
  have hnine : app.Asks (repeatedPort "9") (.ports ⟨some 9, none⟩ "h" (some "80,70000,80")) :=
    asks_repeatedPort_nine
  have hfirst : freshApp.watch = ([] : List Float).map .float := rfl
  have hsecond : app.watch = [1.0, 3.5].map .float := rfl
  refine ⟨asks_repeatedPort_two, hnine, ?_⟩
  obtain ⟨e, -, -, he | ⟨hnone, -⟩ | hmany⟩ |
      ⟨chosen, results, time₁, time₂, hchosen, h₁, h₂, -, -, hperm, -⟩ :=
    App.ports_answer_unscheduled asks_repeatedPort_two hnine rfl rfl
      (.inl rfl) hfirst hsecond (.inr hcount) .serial eager World.closed
  · cases hports.symm.trans he
  · cases hnone
  · exact absurd hcount hmany
  · obtain rfl := Except.ok.inj (hports.symm.trans hchosen)
    exact ⟨results, time₁, time₂, h₁, h₂, hperm⟩

end NetSurvey.Service
