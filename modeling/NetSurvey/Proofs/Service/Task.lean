import NetSurvey.Proofs.Block.Hosts
import NetSurvey.Proofs.Probe.Calls
import NetSurvey.Proofs.Scan.Refusal
import NetSurvey.Service.Answer
import NetSurvey.Service.Task

/-!
# Tasks that make no call

A task either carries a survey out (`Task.survey?`) or probes a single name or host. A task that
makes no call has been refused, or its base URL could not be taken apart. The one other way to make
no call is a scan of a block by settings that name no port to try, and then no host answers.
-/

namespace NetSurvey.Service

open Schedule Scan

/-! ### The survey of a task -/

/-- The ports that a task asks for. -/
def portChoice : Option Text → PortChoice
  | some spec => .written spec
  | none => .usual

/-- The survey that a task carries out, if it does, and with what. -/
def Task.survey? (s : Settings) : Task → Option (Scanner × Survey)
  | .subnet options cidr => some (options.scanner .subnet s, .subnet (.text cidr))
  | .ports options host spec =>
    some (options.scanner .ports s, .ports (.text host) (portChoice spec))
  | .directories options base words =>
    let s := { s with directoryWords := words.getD s.directoryWords }
    some (options.scanner .directories s, .directories (.text base) none)
  | .subdomains options domain words =>
    let s := { s with subdomainWords := words.getD s.subdomainWords }
    some (options.scanner .subdomains s, .subdomains .default (.text domain) none)
  | .sweep options cidr => some (options.scanner .sweep s, .sweep .default (.text cidr))
  | .resolve .. | .ping .. => none

variable {task : Task} {s : Settings} {scanner : Scanner} {survey : Survey}

/-- A task carries its survey out first. -/
theorem Task.exists_perform_eq (h : task.survey? s = some (scanner, survey)) (order : Order)
    (w : World) :
    ∃ answer, task.perform order w s = survey.scan order w scanner >>= answer := by
  cases task with
  | ports options host spec =>
    obtain ⟨rfl, rfl⟩ := Option.some.inj h
    cases spec <;> exact ⟨_, rfl⟩
  | resolve | ping => cases h
  | _ =>
    obtain ⟨rfl, rfl⟩ := Option.some.inj h
    exact ⟨_, rfl⟩

theorem Task.isWritten_survey (h : task.survey? s = some (scanner, survey)) : survey.IsWritten := by
  cases task with
  | ports options host spec =>
    obtain ⟨rfl, rfl⟩ := Option.some.inj h
    cases spec <;> constructor
  | resolve | ping => cases h
  | _ =>
    obtain ⟨rfl, rfl⟩ := Option.some.inj h
    constructor

/-- Why the base URL of a task cannot be taken apart, if it cannot. -/
def Task.urlFault? : Task → Option UrlError
  | .directories _ base _ =>
    match Url.isBase base with
    | .error cause => some cause
    | .ok _ => none
  | _ => none

/-- Tasks name no files, so only their base URLs are left to go unreported. -/
theorem Task.unreported_survey (h : task.survey? s = some (scanner, survey)) :
    survey.unreported? = task.urlFault?.map .url := by
  cases task with
  | directories options base words =>
    obtain ⟨rfl, rfl⟩ := Option.some.inj h
    simp only [Survey.unreported?, urlFault?]
    cases Url.isBase base with
    | error cause => rfl
    | ok isBase => cases isBase <;> rfl
  | subdomains options domain words =>
    obtain ⟨rfl, rfl⟩ := Option.some.inj h
    simp [Survey.unreported?, urlFault?]
  | resolve | ping => cases h
  | _ =>
    obtain ⟨rfl, rfl⟩ := Option.some.inj h
    rfl

/-! ### Surveys make calls -/

variable {order : Order} {w : World}

/-- As many hosts are found out as some block has. -/
theorem exists_block_of_blockHosts {cidr : Datum} {limit : Int} {hosts : List Text}
    (h : (blockHosts cidr limit).value = .ok hosts) : ∃ b : Block, hosts.length = b.hostCount := by
  obtain ⟨b, -, rfl⟩ := Block.exists_of_expand (value_blockHosts_eq_ok_iff.mp h)
  exact ⟨b, by rw [List.length_map, b.length_hosts]⟩

theorem hosts_ne_nil {cidr : Datum} {limit : Int} {hosts : List Text}
    (h : (blockHosts cidr limit).value = .ok hosts) : hosts ≠ [] := by
  obtain ⟨b, hlength⟩ := exists_block_of_blockHosts h
  exact List.length_pos_iff.mp (hlength ▸ b.hostCount_pos)

theorem calls_ne_nil_of_agrees {α : Type} {scan : Scan Report} {found : Except Failure (List α)}
    {as : List α} {carry : List α → Scan Report}
    (hscan : scan.Agrees (Activity.ofExcept found >>= carry)) (hfound : found = .ok as)
    (hcarry : (carry as).MakesCall) (watch : Stopwatch) : (scan.run watch).calls ≠ [] := by
  rw [(hscan watch).2.2, hfound]
  exact hcarry watch

/-- A survey of a task that has its candidates makes a call, unless it is of a block and there is no
port to try. -/
theorem Task.calls_survey_ne_nil (h : task.survey? s = some (scanner, survey))
    (hworkers : 1 ≤ scanner.workers) {cs : List Datum}
    (hcs : survey.candidates scanner.settings = .ok cs)
    (hports : ∀ cidr, survey = .subnet cidr → scanner.settings.reachabilityPorts ≠ [])
    (watch : Stopwatch) : ((survey.scan order w scanner).run watch).calls ≠ [] := by
  cases task with
  | resolve | ping => cases h
  | subnet options cidr =>
    obtain ⟨rfl, rfl⟩ := Option.some.inj h
    obtain ⟨hosts, hfound, -⟩ := map_eq_ok_iff.mp hcs
    exact calls_ne_nil_of_agrees (agrees_subnet order w _ _) hfound
      (makesCall_carryOut (fun host => Probe.makesCall_reachable w host _ (hports _ rfl)) hworkers
        (hosts_ne_nil hfound)) watch
  | ports options host spec =>
    obtain ⟨rfl, rfl⟩ := Option.some.inj h
    obtain ⟨ports, hfound, -⟩ := map_eq_ok_iff.mp hcs
    exact calls_ne_nil_of_agrees (agrees_ports order w _ _ _) hfound
      (makesCall_carryOut (fun port => Probe.makesCall_portOpen w _ port _ _) hworkers
        (Survey.of_checked_eq_ok hfound).2) watch
  | directories options base words =>
    obtain ⟨rfl, rfl⟩ := Option.some.inj h
    obtain ⟨paths, hfound, -⟩ := map_eq_ok_iff.mp hcs
    -- The session is closed whatever happened.
    exact calls_ne_nil_of_agrees (agrees_directory order w _ _ _) hfound
      (fun _ => List.append_ne_nil_of_right_ne_nil _ (List.cons_ne_nil _ _)) watch
  | subdomains options domain words =>
    obtain ⟨rfl, rfl⟩ := Option.some.inj h
    obtain ⟨words, hfound, -⟩ := map_eq_ok_iff.mp hcs
    have hne : words.map (Survey.nameUnder domain) ≠ [] := by
      simpa using (Survey.of_checked_eq_ok hfound).2
    exact calls_ne_nil_of_agrees (agrees_subdomains order w _ _ _ _) hfound
      (makesCall_carryOut (fun name => Probe.makesCall_nameResolves w _ name) hworkers hne) watch
  | sweep options cidr =>
    obtain ⟨rfl, rfl⟩ := Option.some.inj h
    obtain ⟨hosts, hfound, -⟩ := map_eq_ok_iff.mp hcs
    exact calls_ne_nil_of_agrees (agrees_sweep order w _ _ _) hfound
      (makesCall_carryOut (fun host => Probe.makesCall_ping w host _ _) hworkers
        (hosts_ne_nil hfound)) watch

/-! ### Blocks without a port to try -/

theorem isCountable_subnet (cidr : Datum) (s : Settings) : (Survey.subnet cidr).IsCountable s := by
  intro cs hcs
  obtain ⟨hosts, hfound, rfl⟩ := map_eq_ok_iff.mp hcs
  obtain ⟨b, hlength⟩ := exists_block_of_blockHosts hfound
  have hlog := b.log2_hostCount_lt
  rw [List.length_map, hlength]
  omega

/-- Where there is no port to try, no host answers. -/
theorem not_positive_of_no_port {cidr : Datum} {watch : Stopwatch} {report : Report}
    (hports : scanner.settings.reachabilityPorts = [])
    (hreport : ((Scan.subnet order w scanner cidr).run watch).result = .ok report) :
    ∀ o ∈ report.outcomes, o.positive = false := by
  rw [(agrees_subnet order w scanner cidr watch).1] at hreport
  cases hfound : (blockHosts cidr scanner.settings.maxHosts).value with
  | error e =>
    rw [hfound] at hreport
    cases hreport
  | ok hosts =>
    rw [hfound, Activity.ofExcept_ok_bind] at hreport
    have houtcomes := (yields_carryOut watch report hreport).outcomes_perm
    intro o ho
    obtain ⟨host, -, rfl⟩ := List.mem_map.mp (houtcomes.mem_iff.mp ho)
    rw [hports]
    rfl

/-- The answer to a scan of a block without a port to try can be written. -/
theorem Task.perform_of_no_port {options : Options} {cidr : Text} {cs : List Datum}
    (hworkers : 1 ≤ (options.scanner .subnet s).workers) (hports : s.reachabilityPorts = [])
    (hcs : (Survey.subnet (.text cidr)).candidates s = .ok cs) (readings : List Float) :
    ∃ body, (((Task.subnet options cidr).perform order w s).run
        (readings.map Number.float)).result = .ok body ∧ isWritable body = true := by
  obtain ⟨e, he, -⟩ | ⟨_, report, -, hresult, hcovers⟩ := Survey.allOrNothing_scan order w readings
    hworkers (isCountable_subnet (.text cidr) s)
  · cases hcs.symm.trans he
  obtain ⟨x, hx⟩ := hcovers.exists_elapsed
  have hpositives : report.summary.positives = [] := by
    rw [hcovers.positives_eq, List.filter_eq_nil_iff]
    intro o ho
    rw [not_positive_of_no_port hports hresult o ho]
    exact Bool.false_ne_true
  have hsubnet : ((Scan.subnet order w (options.scanner .subnet s) (.text cidr)).run
      (readings.map Number.float)).result = .ok report := hresult
  have htime : executionTime report = .ok (Decimal.fixed 4 x ++ " seconds") := by
    rw [executionTime, hx]
    rfl
  rw [Task.perform, Activity.result_bind_of_ok hsubnet]
  refine ⟨.record [("scanned", .int report.summary.total),
    ("alive", .int report.summary.positiveCount), ("hosts", .list []),
    ("execution_time", .text (Decimal.fixed 4 x ++ " seconds" : String))], ?_, ?_⟩
  · simp only [reportBody, htime, hpositives]
    rfl
  · simp [isWritable, haveWritable, areWritable]

/-! ### Tasks without a call -/

/-- What a task without a call comes to: an answer that can be written, a refusal, or what is wrong
with its base URL. -/
inductive Task.Settled (task : Task) : Except Failure Datum → Prop
  | answered {body : Datum} (hurl : task.urlFault? = none) (h : isWritable body = true) :
    Settled task (.ok body)
  | refused {e : Failure} (hurl : task.urlFault? = none) (h : e.IsRefusal) :
    Settled task (.error e)
  | unreported {cause : UrlError} (hurl : task.urlFault? = some cause) :
    Settled task (.error (.url cause))

theorem makesCall_ofProbe {α : Type} {probe : Probe α} (h : probe.MakesCall) :
    (ofProbe w probe).MakesCall := fun _ => h w.start

/-- A name that is a text can always be put under a domain. -/
theorem exists_qualify (hostname : Text) (domain : Datum) :
    ∃ name, Hostname.qualify (.text hostname) domain = .ok name := by
  simp only [Hostname.qualify, Hostname.hasPoint]
  cases domain.isPresent with
  | false => exact ⟨_, rfl⟩
  | true => cases hostname.contains (.char '.') <;> exact ⟨_, rfl⟩

/-- A lookup of a single name is refused or makes a call. -/
theorem settled_resolve {hostname : Text} {domain : Option Text} {watch : Stopwatch}
    (hcalls : (((Task.resolve hostname domain).perform order w s).run watch).calls = []) :
    (Task.resolve hostname domain).Settled
      (((Task.resolve hostname domain).perform order w s).run watch).result := by
  cases hostname with
  | nil => exact .refused rfl (.specification rfl)
  | cons c cs =>
    refine absurd hcalls (Activity.MakesCall.bind ?_ watch)
    exact .of_bind (fun _ => exists_qualify (c :: cs) _) fun _ =>
      makesCall_ofProbe (Probe.makesCall_nameResolves w _ _)

/-- A ping of a single host is refused or makes a call. -/
theorem settled_ping {host : Text} {port : Int} {watch : Stopwatch}
    (hcalls : (((Task.ping host port).perform order w s).run watch).calls = []) :
    (Task.ping host port).Settled
      (((Task.ping host port).perform order w s).run watch).result := by
  cases host with
  | nil => exact .refused rfl (.specification rfl)
  | cons c cs =>
    by_cases hport : 0 < port ∧ port < 65536
    · refine absurd hcalls (Activity.MakesCall.bind ?_ watch)
      simp only [pingHost, hport]
      exact makesCall_ofProbe (Probe.makesCall_ping w _ _ _)
    · have hresult : (((Task.ping (c :: cs) port).perform order w s).run watch).result =
          .error (.specification (.port port)) := by
        refine Activity.result_bind_of_error ?_
        simp only [pingHost, hport]
        rfl
      rw [hresult]
      exact .refused rfl (.specification (Text.isWhole_ofString _))

/-- **Tasks without a call.** -/
theorem Task.settled {readings : List Float}
    (hworkers : ∀ scanner survey, task.survey? s = some (scanner, survey) → 1 ≤ scanner.workers)
    (hcalls : ((task.perform order w s).run (readings.map Number.float)).calls = []) :
    task.Settled ((task.perform order w s).run (readings.map Number.float)).result := by
  cases hsurvey : task.survey? s with
  | none =>
    cases task with
    | resolve hostname domain => exact settled_resolve hcalls
    | ping host port => exact settled_ping hcalls
    | _ => cases hsurvey
  | some pair =>
    obtain ⟨scanner, survey⟩ := pair
    have hone := hworkers scanner survey hsurvey
    obtain ⟨answer, hperform⟩ := Task.exists_perform_eq hsurvey order w
    have hscan : ((survey.scan order w scanner).run (readings.map Number.float)).calls = [] := by
      have hprefix := Activity.calls_prefix_bind (survey.scan order w scanner) answer
        (readings.map Number.float)
      rwa [← hperform, hcalls, List.prefix_nil] at hprefix
    have hunreported := Task.unreported_survey hsurvey
    cases hcs : survey.candidates scanner.settings with
    | error e =>
      obtain ⟨hresult, -⟩ := Survey.failed_of_candidates hcs order w (readings.map Number.float)
      rw [hperform, Activity.result_bind_of_error hresult]
      cases hurl : task.urlFault? with
      | some cause =>
        rw [hurl] at hunreported
        obtain rfl := Except.error.inj
          (hcs.symm.trans (Survey.candidates_of_unreported _ hunreported))
        exact .unreported hurl
      | none =>
        rw [hurl] at hunreported
        exact .refused hurl (Survey.isRefusal_of_candidates (Task.isWritten_survey hsurvey)
          hunreported hcs)
    | ok cs =>
      have hurl : task.urlFault? = none := by
        cases hurl : task.urlFault? with
        | none => rfl
        | some cause =>
          rw [hurl] at hunreported
          cases hcs.symm.trans (Survey.candidates_of_unreported _ hunreported)
      -- Only a scan of a block without a port to try is left.
      obtain ⟨cidr, rfl, hports⟩ : ∃ cidr, survey = .subnet cidr ∧
          scanner.settings.reachabilityPorts = [] :=
        Classical.byContradiction fun hnot => Task.calls_survey_ne_nil hsurvey hone hcs
          (fun cidr heq hnil => hnot ⟨cidr, heq, hnil⟩) _ hscan
      cases task with
      | subnet options cidr =>
        obtain ⟨rfl, rfl⟩ := Option.some.inj hsurvey
        obtain ⟨body, hbody, hwritable⟩ := Task.perform_of_no_port hone hports hcs readings
        rw [hbody]
        exact .answered hurl hwritable
      | _ => simp [Task.survey?] at hsurvey

end NetSurvey.Service
