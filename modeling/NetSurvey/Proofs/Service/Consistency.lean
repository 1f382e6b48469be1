import Mathlib.Data.List.Forall2
import NetSurvey.Proofs.Scan.Findings
import NetSurvey.Proofs.Service.Refusal
import NetSurvey.Proofs.Service.Schema

/-!
# Answers are consistent

Whenever the scan of a task comes to a report, the answer can be built: no field that may not be
null is null or missing. The figures of the answer agree with its lists, and every record in a list
says what its place in the list promises. That rests on what the outcomes of probes look like
(`Outcome.Timed`), and on what is recorded about candidates whose probes fail.
-/

namespace NetSurvey

/-- The fields of a record. -/
def Datum.fields? : Datum → Option Fields
  | .record fields => some fields
  | _ => none

namespace Service

open Schedule Scan Probe

/-! ### What is answered -/

/-- What the answer to a task is built from, but for the time: the report as data. -/
def Task.payload? (r : Report) : Task → Option Fields
  | .subnet .. => (subnetPayload r).fields?
  | .ports _ host _ =>
    let outcomes := r.outcomes.mergeSort fun a b => decide (portNumber a ≤ portNumber b)
    some [("host", .text host), ("open_ports", .int r.summary.positiveCount),
      ("results", .list (outcomes.map fun o => .record (portRecord o)))]
  | .directories _ base _ =>
    some [("base_url", .text base), ("scanned", .int r.summary.total),
      ("found", directoryPayload r)]
  | .subdomains _ domain _ =>
    (subdomainsPayload r).toOption.map fun found =>
      [("domain", .text domain), ("scanned", .int r.summary.total), ("found", found)]
  | .sweep .. => (sweepPayload r).fields?
  | .resolve .. | .ping .. => none

/-- The body of an answer agrees with itself, with the settings, and with the number of
candidates. -/
inductive Task.Consistent (s : Settings) (count : Nat) (time : Text) : Task → Datum → Prop
  | subnet {options : Options} {cidr : Text} (hosts : List AliveHost)
    (hports : ∀ h ∈ hosts, h.port ∈ s.reachabilityPorts) :
    Consistent s count time (.subnet options cidr) (.record [("scanned", .int count),
      ("alive", .int hosts.length), ("hosts", .list (hosts.map AliveHost.toDatum)),
      ("execution_time", .text time)])
  | ports {options : Options} {host : Text} {spec : Option Text} (results : List PortAnswer)
    (hlength : results.length = count) :
    Consistent s count time (.ports options host spec) (portsBody host results time)
  | directories {options : Options} {base : Text} {words : Option (List Text)}
    (pages : List FoundPage)
    (hstatus : ∀ p ∈ pages, 200 ≤ p.status ∧ p.status < 300 ∨ p.status ∈ foundStatuses) :
    Consistent s count time (.directories options base words) (.record [("base_url", .text base),
      ("scanned", .int count), ("found", .list (pages.map FoundPage.toDatum)),
      ("execution_time", .text time)])
  | subdomains {options : Options} {domain : Text} {words : Option (List Text)}
    (names : List FoundName) (haddresses : ∀ n ∈ names, n.addresses ≠ []) :
    Consistent s count time (.subdomains options domain words) (.record [("domain", .text domain),
      ("scanned", .int count), ("found", .list (names.map FoundName.toDatum)),
      ("execution_time", .text time)])
  | sweep {options : Options} {cidr : Text} (hosts : List PingAnswer)
    (hlength : hosts.length = count) :
    Consistent s count time (.sweep options cidr) (.record [("network", .text cidr),
      ("total_hosts", .int hosts.length),
      ("alive_hosts", .int (hosts.filter (·.isReachable)).length),
      ("hosts", .list (hosts.map PingAnswer.toDatum)), ("execution_time", .text time)])

/-- A result is the answer to a task about a report: it is built from the report, and consistent. -/
def Task.Answers (task : Task) (s : Settings) (count : Nat) (report : Report)
    (result : Except Failure Datum) : Prop :=
  ∃ (time : String) (fields : Fields) (body : Datum), executionTime report = .ok time ∧
    task.payload? report = some fields ∧
    task.answerShape.build? (.record (fields.set "execution_time" (.text time))) = some body ∧
    result = .ok body ∧ task.Consistent s count time body

/-! ### Lists of records -/

/-- Where every outcome has a record of some kind, their lists are built and completed alike. -/
theorem exists_records {β : Type} [Inhabited β] {toDatum : β → Datum} {shape : Shape}
    {keys : List Text} {record : Outcome → Fields} {outcomes : List Outcome}
    {P : Outcome → β → Prop}
    (h : ∀ o ∈ outcomes, ∃ b, Builds shape keys (record o) (toDatum b) ∧ P o b) :
    ∃ view : Outcome → β,
      (outcomes.map fun o => completed keys (record o)) = (outcomes.map view).map toDatum ∧
      (Shape.listOf shape).build? (.list (outcomes.map fun o => .record (record o))) =
        some (.list ((outcomes.map view).map toDatum)) ∧
      ∀ o ∈ outcomes, P o (view o) := by
  choose! view hview using h
  refine ⟨view, ?_, ?_, fun o ho => (hview o ho).2⟩
  · rw [List.map_map]
    exact List.map_congr_left fun o ho => (hview o ho).1.1
  · rw [List.map_map]
    exact Shape.build?_listOf fun o ho => (hview o ho).1.2

variable {order : Order} {w : World} {s : Settings} {watch : Stopwatch} {report : Report}

/-- The time of a report can be told. -/
theorem exists_executionTime {target : Text} {findings : List Outcome}
    (h : report.Tells target findings) : ∃ time, executionTime report = .ok time := by
  obtain ⟨-, -, t, hsummary, x, hx⟩ := h
  have helapsed : report.summary.elapsed = t.1 := by rw [hsummary]; rfl
  refine ⟨Decimal.fixed 4 x ++ " seconds", ?_⟩
  rw [executionTime, helapsed, Number.fixed, hx]
  rfl

/-- As many records have a mark as outcomes are positive, if a record has it just if its outcome is
positive. -/
theorem length_filter_map {β : Type} {view : Outcome → β} {mark : β → Bool}
    {outcomes : List Outcome} (h : ∀ o ∈ outcomes, mark (view o) = o.positive) :
    ((outcomes.map view).filter mark).length = (outcomes.filter (·.positive)).length := by
  rw [List.filter_map, List.length_map]
  congr 1
  exact List.filter_congr h

/-! ### The five kinds of scan -/

/-- What is answered about a block is consistent with its hosts and the report on them. -/
theorem answers_subnet {options : Options} {cidr : Text}
    (hreport : ((subnet order w (options.scanner .subnet s) (.text cidr)).run watch).result =
      .ok report) :
    ∃ hosts, (blockHosts (.text cidr) s.maxHosts).value = .ok hosts ∧
      (Task.subnet options cidr).Answers s hosts.length report
        (((Task.subnet options cidr).perform order w s).run watch).result := by
  obtain ⟨hosts, hhosts, htells⟩ := tells_subnet hreport
  obtain ⟨time, htime⟩ := exists_executionTime htells
  obtain ⟨outcomes, elapsed, rate, rfl, hperm⟩ := htells.exists_eq
  -- Only hosts that answered are listed, and such an outcome has a port and a time.
  have hrecord : ∀ o ∈ outcomes.filter (·.positive), ∃ a : AliveHost,
      Builds hostShape hostFields (subnetRecord o) a.toDatum ∧ a.port ∈ s.reachabilityPorts := by
    intro o ho
    obtain ⟨hmem, hpositive⟩ := List.mem_filter.mp ho
    obtain ⟨host, -, rfl⟩ := List.mem_map.mp (hperm.mem_iff.mp hmem)
    have htimed : (hostFinding w (options.scanner .subnet s) host).Timed _ _ :=
      timed_hostFinding host
    exact exists_aliveHost htimed hpositive
  obtain ⟨view, hcompleted, hbuilt, hports⟩ := exists_records hrecord
  have htotal : outcomes.length = hosts.length := by rw [hperm.length_eq, List.length_map]
  have hconsistent : (Task.subnet options cidr).Consistent s hosts.length time _ :=
    .subnet ((outcomes.filter (·.positive)).map view) (List.forall_mem_map.mpr hports)
  refine ⟨hosts, hhosts, time, _, _, htime, rfl, ?_, ?_, hconsistent⟩
  · rw [← htotal, List.length_map]
    exact Shape.build?_record (Shape.buildFields?_cons rfl
      (Shape.buildFields?_cons rfl (Shape.buildFields?_cons hbuilt rfl)))
  · rw [Task.perform, Activity.result_bind_of_ok hreport, reportBody, htime, ← hcompleted,
      ← htotal, List.length_map]
    rfl

theorem perform_ports (options : Options) (host : Text) (spec : Option Text) :
    (Task.ports options host spec).perform order w s = (do
      let r ← Scan.ports order w (options.scanner .ports s) (.text host) (portChoice spec)
      let outcomes := r.outcomes.mergeSort fun a b => decide (portNumber a ≤ portNumber b)
      reportBody r [("host", .text host), ("open_ports", .int r.summary.positiveCount),
        ("results", .list (outcomes.map fun o => completed portFields (portRecord o)))]) := by
  cases spec <;> rfl

/-- What is answered about ports is consistent with those that were chosen. The answer has them
sorted, and sorting adds and drops nothing. -/
theorem answers_ports {options : Options} {host : Text} {spec : Option Text}
    (hreport : ((Scan.ports order w (options.scanner .ports s) (.text host)
      (portChoice spec)).run watch).result = .ok report) :
    ∃ chosen, Survey.portsOf s (.text host) (portChoice spec) = .ok chosen ∧
      (Task.ports options host spec).Answers s chosen.length report
        (((Task.ports options host spec).perform order w s).run watch).result := by
  obtain ⟨chosen, hchosen, htells⟩ := tells_ports hreport
  obtain ⟨time, htime⟩ := exists_executionTime htells
  obtain ⟨outcomes, elapsed, rate, rfl, hperm⟩ := htells.exists_eq
  let sorted := outcomes.mergeSort fun a b => decide (portNumber a ≤ portNumber b)
  have hsorted : sorted.Perm outcomes := List.mergeSort_perm ..
  have hrecord : ∀ o ∈ sorted, ∃ p : PortAnswer,
      Builds portShape portFields (portRecord o) p.toDatum ∧ p.isOpen = o.positive := by
    intro o ho
    obtain ⟨port, -, rfl⟩ := List.mem_map.mp ((hsorted.trans hperm).mem_iff.mp ho)
    have htimed : (portFinding w (options.scanner .ports s) host port).Timed _ _ :=
      timed_portFinding host port
    obtain ⟨p, hbuilds, -, hopen⟩ := exists_portAnswer htimed
    exact ⟨p, hbuilds, hopen⟩
  obtain ⟨view, hcompleted, hbuilt, hopen⟩ := exists_records hrecord
  -- The report counts the outcomes as they came, the answer lists them sorted.
  have hcount : ((sorted.map view).filter (·.isOpen)).length =
      (outcomes.filter (·.positive)).length :=
    (length_filter_map hopen).trans (hsorted.filter _).length_eq
  have hlength : (sorted.map view).length = chosen.length := by
    rw [List.length_map, hsorted.length_eq, hperm.length_eq, List.length_map]
  have hconsistent : (Task.ports options host spec).Consistent s chosen.length time _ :=
    .ports (sorted.map view) hlength
  refine ⟨chosen, hchosen, time, _, _, htime, rfl, ?_, ?_, hconsistent⟩
  · rw [portsBody, hcount]
    exact Shape.build?_record (Shape.buildFields?_cons rfl
      (Shape.buildFields?_cons rfl (Shape.buildFields?_cons hbuilt rfl)))
  · rw [perform_ports, Activity.result_bind_of_ok hreport, reportBody, htime, portsBody,
      ← hcompleted, hcount]
    rfl

theorem answers_sweep {options : Options} {cidr : Text}
    (hreport : ((Scan.sweep order w (options.scanner .sweep s) .default (.text cidr)).run
      watch).result = .ok report) :
    ∃ hosts, (blockHosts (.text cidr) s.maxHosts).value = .ok hosts ∧
      (Task.sweep options cidr).Answers s hosts.length report
        (((Task.sweep options cidr).perform order w s).run watch).result := by
  obtain ⟨hosts, hhosts, htells⟩ := tells_sweep hreport
  obtain ⟨time, htime⟩ := exists_executionTime htells
  obtain ⟨outcomes, elapsed, rate, rfl, hperm⟩ := htells.exists_eq
  have hrecord : ∀ o ∈ outcomes, ∃ p : PingAnswer,
      Builds pingShape pingFields (hostRecord o) p.toDatum ∧ p.isReachable = o.positive := by
    intro o ho
    obtain ⟨host, -, rfl⟩ := List.mem_map.mp (hperm.mem_iff.mp ho)
    have htimed : (pingFinding w (options.scanner .sweep s) .default host).Timed _ _ :=
      timed_pingFinding .default host
    exact exists_pingAnswer htimed
  obtain ⟨view, hcompleted, hbuilt, hreachable⟩ := exists_records hrecord
  have hcount := length_filter_map hreachable
  have hlength : (outcomes.map view).length = hosts.length := by
    rw [List.length_map, hperm.length_eq, List.length_map]
  have hconsistent : (Task.sweep options cidr).Consistent s hosts.length time _ :=
    .sweep (outcomes.map view) hlength
  refine ⟨hosts, hhosts, time, _, _, htime, rfl, ?_, ?_, hconsistent⟩
  · rw [hcount, List.length_map]
    exact Shape.build?_record (Shape.buildFields?_cons rfl (Shape.buildFields?_cons rfl
      (Shape.buildFields?_cons rfl (Shape.buildFields?_cons hbuilt rfl))))
  · rw [Task.perform, Activity.result_bind_of_ok hreport, reportBody, htime, ← hcompleted, hcount,
      List.length_map]
    rfl

/-- What is answered about a web server is consistent with the pages that were asked for. Words that
the request gives take the place of those in the settings. -/
theorem answers_directories {options : Options} {base : Text} {words : Option (List Text)} :
    let t := { s with directoryWords := words.getD s.directoryWords }
    ((Scan.directory order w (options.scanner .directories t) (.text base) none).run
      watch).result = .ok report →
    ∃ paths, Survey.pathsOf t (.text base) none = .ok paths ∧
      (Task.directories options base words).Answers t paths.length report
        (((Task.directories options base words).perform order w s).run watch).result := by
  intro t hreport
  obtain ⟨paths, hpaths, htells⟩ := tells_directory hreport
  obtain ⟨time, htime⟩ := exists_executionTime htells
  obtain ⟨outcomes, elapsed, rate, rfl, hperm⟩ := htells.exists_eq
  have hrecord : ∀ o ∈ outcomes.filter (·.positive), ∃ p : FoundPage,
      Builds pageShape pageFields (directoryRecord o) p.toDatum ∧ isFound p.status = true := by
    intro o ho
    obtain ⟨hmem, hpositive⟩ := List.mem_filter.mp ho
    obtain ⟨path, -, rfl⟩ := List.mem_map.mp (hperm.mem_iff.mp hmem)
    exact exists_foundPage (isPage_pageFinding _ path) hpositive
  obtain ⟨view, hcompleted, hbuilt, hfound⟩ := exists_records hrecord
  have htotal : outcomes.length = paths.length := by rw [hperm.length_eq, List.length_map]
  have hconsistent : (Task.directories options base words).Consistent t paths.length time _ :=
    .directories ((outcomes.filter (·.positive)).map view) (List.forall_mem_map.mpr fun o ho => by
      simpa [isFound] using hfound o ho)
  refine ⟨paths, hpaths, time, _, _, htime, rfl, ?_, ?_, hconsistent⟩
  · rw [← htotal]
    exact Shape.build?_record (Shape.buildFields?_cons rfl
      (Shape.buildFields?_cons rfl (Shape.buildFields?_cons hbuilt rfl)))
  · rw [Task.perform, Activity.result_bind_of_ok hreport, reportBody, htime, ← hcompleted,
      ← htotal]
    rfl

theorem answers_subdomains {options : Options} {domain : Text} {words : Option (List Text)} :
    let t := { s with subdomainWords := words.getD s.subdomainWords }
    ((Scan.subdomains order w (options.scanner .subdomains t) .default (.text domain) none).run
      watch).result = .ok report →
    ∃ listed, Survey.wordsOf t (.text domain) none = .ok listed ∧
      (Task.subdomains options domain words).Answers t listed.length report
        (((Task.subdomains options domain words).perform order w s).run watch).result := by
  intro t hreport
  obtain ⟨listed, hlisted, htells⟩ := tells_subdomains hreport
  obtain ⟨time, htime⟩ := exists_executionTime htells
  obtain ⟨outcomes, elapsed, rate, rfl, hperm⟩ := htells.exists_eq
  -- There is no record of addresses that are no list, but those of a name that was found are one.
  have hname : ∀ o ∈ outcomes.filter (·.positive), ∃ (record : Fields) (n : FoundName),
      nameRecord o = .ok record ∧ Builds nameShape nameFields record n.toDatum ∧
        n.addresses ≠ [] := by
    intro o ho
    obtain ⟨hmem, hpositive⟩ := List.mem_filter.mp ho
    obtain ⟨name, -, rfl⟩ := List.mem_map.mp (hperm.mem_iff.mp hmem)
    obtain ⟨n, record, hrecord, hbuilds, hne⟩ :=
      exists_foundName (timed_nameFinding .default name) hpositive
    exact ⟨record, n, hrecord, hbuilds, hne⟩
  choose! record hrecord using hname
  obtain ⟨view, hcompleted, hbuilt, haddresses⟩ := exists_records fun o ho =>
    (hrecord o ho).imp fun n hn => hn.2
  have hrecords : (Summary.figures outcomes elapsed rate).positives.mapM nameRecord =
      .ok ((outcomes.filter (·.positive)).map record) :=
    mapM_of_forall₂ (List.forall₂_same.mpr fun o ho => (hrecord o ho).choose_spec.1)
  have htotal : outcomes.length = listed.length := by
    rw [hperm.length_eq, List.length_map, List.length_map]
  have hconsistent : (Task.subdomains options domain words).Consistent t listed.length time _ :=
    .subdomains ((outcomes.filter (·.positive)).map view) (List.forall_mem_map.mpr haddresses)
  let fields : Fields := [("domain", .text domain), ("scanned", .int outcomes.length),
    ("found", .list ((outcomes.filter (·.positive)).map fun o => .record (record o)))]
  have hpayload : (Task.subdomains options domain words).payload?
      ⟨domain, outcomes, .figures outcomes elapsed rate⟩ = some fields := by
    rw [Task.payload?, subdomainsPayload, hrecords, ok_bind, List.map_map]
    rfl
  refine ⟨listed, hlisted, time, fields, _, htime, hpayload, ?_, ?_, hconsistent⟩
  · rw [← htotal]
    exact Shape.build?_record (Shape.buildFields?_cons rfl
      (Shape.buildFields?_cons rfl (Shape.buildFields?_cons hbuilt rfl)))
  · rw [Task.perform, Activity.result_bind_of_ok hreport, hrecords, Activity.ofExcept_ok_bind,
      reportBody, htime, List.map_map, ← hcompleted, ← htotal]
    rfl

/-- **The answer to a task.** Where the scan of a task comes to a report, the task is answered. -/
theorem Task.answers_of_report {task : Task} {scanner : Scanner} {survey : Survey}
    (hsurvey : task.survey? s = some (scanner, survey))
    (hreport : ((survey.scan order w scanner).run watch).result = .ok report) :
    ∃ cs, survey.candidates scanner.settings = .ok cs ∧
      task.Answers scanner.settings cs.length report
        ((task.perform order w s).run watch).result := by
  cases task with
  | resolve | ping => cases hsurvey
  | subnet options cidr =>
    obtain ⟨rfl, rfl⟩ := Option.some.inj hsurvey
    obtain ⟨hosts, hhosts, hanswers⟩ := answers_subnet hreport
    refine ⟨_, map_eq_ok_iff.mpr ⟨hosts, hhosts, rfl⟩, ?_⟩
    rwa [List.length_map]
  | ports options host spec =>
    obtain ⟨rfl, rfl⟩ := Option.some.inj hsurvey
    obtain ⟨chosen, hchosen, hanswers⟩ := answers_ports hreport
    refine ⟨_, map_eq_ok_iff.mpr ⟨chosen, hchosen, rfl⟩, ?_⟩
    rwa [List.length_map]
  | directories options base words =>
    obtain ⟨rfl, rfl⟩ := Option.some.inj hsurvey
    obtain ⟨paths, hpaths, hanswers⟩ := answers_directories hreport
    refine ⟨_, map_eq_ok_iff.mpr ⟨paths, hpaths, rfl⟩, ?_⟩
    rwa [List.length_map]
  | subdomains options domain words =>
    obtain ⟨rfl, rfl⟩ := Option.some.inj hsurvey
    obtain ⟨listed, hlisted, hanswers⟩ := answers_subdomains hreport
    refine ⟨_, map_eq_ok_iff.mpr ⟨listed, hlisted, rfl⟩, ?_⟩
    rwa [List.length_map]
  | sweep options cidr =>
    obtain ⟨rfl, rfl⟩ := Option.some.inj hsurvey
    obtain ⟨hosts, hhosts, hanswers⟩ := answers_sweep hreport
    refine ⟨_, map_eq_ok_iff.mpr ⟨hosts, hhosts, rfl⟩, ?_⟩
    rwa [List.length_map]

namespace App

variable {app : App} {r : Request} {task : Task} {order : Order} {w : World}

/-- A task that comes to data is answered with them. -/
theorem answer_of_ok {body : Datum} (hasks : app.Asks r task)
    (h : ((task.perform order w app.settings.1).run app.watch).result = .ok body) :
    (app.handle order w r).answer = .ok (.data 200 body) := by
  rw [(handle_of_asks order w hasks).1, answer_perform, watch_settings, h]

/-- A task that fails is answered according to its failure. -/
theorem answer_of_error {e : Failure} (hasks : app.Asks r task)
    (h : ((task.perform order w app.settings.1).run app.watch).result = .error e) :
    (app.handle order w r).answer = (failureAnswer e).1 := by
  rw [(handle_of_asks order w hasks).1, answer_perform, watch_settings, h]

/-- **Answers are consistent.** A request that asks for a scan which comes to a report is answered
with the data that are built from the report: they have the shape of the answer, so that no field
that may not be null is null or missing, and they are consistent with the number of candidates and
the settings. -/
theorem consistent_answer {scanner : Scanner} {survey : Survey} (hasks : app.Asks r task)
    (hsurvey : task.survey? app.settings.1 = some (scanner, survey)) (order : Order) (w : World)
    {report : Report}
    (hreport : ((survey.scan order w scanner).run app.watch).result = .ok report) :
    ∃ (cs : List Datum) (time : String) (fields : Fields) (body : Datum),
      survey.candidates scanner.settings = .ok cs ∧ executionTime report = .ok time ∧
      task.payload? report = some fields ∧
      task.answerShape.build? (.record (fields.set "execution_time" (.text time))) = some body ∧
      task.Consistent scanner.settings cs.length time body ∧
      (app.handle order w r).answer = .ok (.data 200 body) := by
  obtain ⟨cs, hcs, time, fields, body, htime, hpayload, hbuilt, hbody, hconsistent⟩ :=
    Task.answers_of_report hsurvey hreport
  exact ⟨cs, time, fields, body, hcs, htime, hpayload, hbuilt, hconsistent,
    answer_of_ok hasks hbody⟩

end App

/-! ### A port that is asked for twice -/

/-- A request for a scan of one port twice and of one that does not exist, by some workers. -/
def repeatedPort (workers : Text) : Request where
  method := "POST"
  target := "/recon/ports"
  body := "\x7b\"host\": \"h\", \"ports\": \"80,70000,80\", \"workers\": " ++ workers ++ "\x7d"

theorem asks_repeatedPort_two :
    freshApp.Asks (repeatedPort "2") (.ports ⟨some 2, none⟩ "h" (some "80,70000,80")) :=
  ⟨"/recon/ports", (Text.encodeUtf8? (repeatedPort "2").body).getD [], .ports,
    .record [("host", .text "h"), ("ports", .text "80,70000,80"), ("workers", .int 2)],
    toOption_eq_some_iff.mp (by decide +kernel), rfl,
    toOption_eq_some_iff.mp (by decide +kernel), rfl, rfl⟩

theorem candidates_repeatedPort :
    (Survey.ports (.text "h") (.written "80,70000,80")).candidates freshApp.settings.1 =
      .ok [.int 80, .int 80] := by
  rfl

/-- The port is answered about twice. -/
theorem App.consistent_answer_repeatedPort :
    let task := Task.ports ⟨some 2, none⟩ "h" (some "80,70000,80")
    freshApp.Asks (repeatedPort "2") task ∧ ∃ (time : String) (body : Datum),
      task.Consistent freshApp.settings.1 2 time body ∧
      (freshApp.handle .serial World.closed (repeatedPort "2")).answer = .ok (.data 200 body) := by
  intro task
  have hsurvey : task.survey? freshApp.settings.1 =
    some (Options.scanner ⟨some 2, none⟩ .ports freshApp.settings.1,
      .ports (.text "h") (.written "80,70000,80")) := rfl
  have hcount : (Survey.ports (.text "h") (.written "80,70000,80")).IsCountable
      freshApp.settings.1 := by
    intro cs hcs
    obtain rfl := Except.ok.inj (candidates_repeatedPort.symm.trans hcs)
    decide
  obtain ⟨e, he, -⟩ | ⟨_, report, -, hreport, -⟩ := Survey.allOrNothing_scan .serial World.closed []
    (by decide : 1 ≤ (Options.scanner ⟨some 2, none⟩ .ports freshApp.settings.1).workers) hcount
  · cases candidates_repeatedPort.symm.trans he
  obtain ⟨cs, time, fields, body, hcs, -, -, -, hconsistent, hanswer⟩ :=
    App.consistent_answer asks_repeatedPort_two hsurvey .serial World.closed hreport
  obtain rfl := Except.ok.inj (candidates_repeatedPort.symm.trans hcs)
  exact ⟨asks_repeatedPort_two, time, body, hconsistent, hanswer⟩

end Service

end NetSurvey
