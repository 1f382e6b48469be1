import NetSurvey.Proofs.Probe.Shape
import NetSurvey.Proofs.Scan.Report
import NetSurvey.Scan.Directory
import NetSurvey.Scan.Ports
import NetSurvey.Scan.Sweep

/-!
# Surveys

A survey is a scan of one of the five kinds with what it is asked for. Each of them first finds out
its candidates, which takes no call and does not depend on the network (`Survey.candidates`), and
then carries a plan out on them. So a survey is all or nothing: without candidates it fails before
the first call, and with them it comes to a report on every one of them, whatever the probes meet.
-/

namespace NetSurvey

open Schedule Probe

/-- A network without an open port. -/
def World.closed : World :=
  .ofScript { start := 0.0, connections := [], lookups := [], requests := [], noResolver := none }

/-- A network that interrupts whoever calls it. -/
def World.interrupting : World where
  start := 0.0
  connect _ _ := ⟨none, .error (.interrupt .keyboard {})⟩
  lookup _ _ := ⟨none, .error (.interrupt .exit {})⟩
  get _ := .error (.interrupt .stopped {})
  noResolver := none

/-- What can be asked for: a scan of one of the five kinds. -/
inductive Survey where
  | subnet (cidr : Datum)
  | ports (host : Datum) (choice : PortChoice)
  | directories (base : Datum) (file : Option WordFile)
  | subdomains (resolver : Resolver) (domain : Datum) (file : Option WordFile)
  | sweep (resolver : Resolver) (cidr : Datum)

namespace Scan

/-- What a scan comes to, if it does not look at its stopwatch. -/
def value {α : Type} (x : Scan α) : Except Failure α :=
  (x.run []).result

end Scan

namespace Survey

open Scan

/-- Carries a survey out. -/
def scan (order : Order) (w : World) (scanner : Scanner) : Survey → Scan Report
  | subnet cidr => Scan.subnet order w scanner cidr
  | ports host choice => Scan.ports order w scanner host choice
  | directories base file => Scan.directory order w scanner base file
  | subdomains resolver domain file => Scan.subdomains order w scanner resolver domain file
  | sweep resolver cidr => Scan.sweep order w scanner resolver cidr

/-- Candidates that are found out after a check, and of which there has to be one. -/
def checked {α : Type} (isFit : Except Failure Bool) (unfit : SpecificationError)
    (found : Except Failure (List α)) (nothing : SpecificationError) :
    Except Failure (List α) := do
  if !(← isFit) then .error (.specification unfit)
  let candidates ← found
  if candidates.isEmpty then .error (.specification nothing) else .ok candidates

/-- What passes the checks before a scan is found, and is not empty. -/
theorem of_checked_eq_ok {α : Type} {isFit : Except Failure Bool}
    {unfit nothing : SpecificationError} {found : Except Failure (List α)} {candidates : List α}
    (h : checked isFit unfit found nothing = .ok candidates) :
    found = .ok candidates ∧ candidates ≠ [] := by
  rcases isFit with e | fit
  · cases h
  cases fit with
  | false => cases h
  | true =>
    match found, h with
    | .ok (c :: cs), h =>
      obtain rfl := Except.ok.inj h
      exact ⟨rfl, List.cons_ne_nil c cs⟩

/-- The ports that a survey is to probe. -/
def portsOf (s : Settings) (host : Datum) (choice : PortChoice) : Except Failure (List Int) :=
  checked (Hostname.isTarget host) (.target host.shown)
    (choosePorts s choice).value (.noPorts choice.shown)

/-- The paths that a survey is to ask for. -/
def pathsOf (s : Settings) (base : Datum) (file : Option WordFile) : Except Failure (List Text) :=
  checked (isBase base) (.baseUrl base.shown) (loadWords file s.directoryWords).value .noPaths

/-- The words that a survey is to look up under a domain. -/
def wordsOf (s : Settings) (domain : Datum) (file : Option WordFile) : Except Failure (List Text) :=
  checked (Hostname.isDomain domain) (.domain domain.shown)
    (loadWords file s.subdomainWords).value .noNames

/-- A word as a name under a domain. -/
def nameUnder (domain word : Text) : Text :=
  word ++ "." ++ domain

/-- The candidates of a survey, in the order in which they are found out. -/
def candidates (s : Settings) : Survey → Except Failure (List Datum)
  | subnet cidr | sweep _ cidr => (blockHosts cidr s.maxHosts).value.map (·.map .text)
  | ports host choice => (portsOf s host choice).map (·.map .int)
  | directories base file => (pathsOf s base file).map (·.map .text)
  | subdomains _ domain file =>
    (wordsOf s domain file).map (·.map fun word => .text (nameUnder domain.display word))

/-- The candidates of a survey can be counted with a double: there are fewer than `2 ^ 1023` of
them, which no list that fits into a memory comes near to. -/
def IsCountable (survey : Survey) (s : Settings) : Prop :=
  ∀ cs, survey.candidates s = .ok cs → cs.length.log2 < 1023

/-- A survey without candidates has none to count. -/
theorem isCountable_of_error {survey : Survey} {s : Settings} {e : Failure}
    (h : survey.candidates s = .error e) : survey.IsCountable s := by
  intro cs hcs
  cases h.symm.trans hcs

end Survey

namespace Scan

/-! ### Finding out the candidates -/

/-- A calculation is its value. -/
theorem agrees_value {α : Type} {x : Scan α} (h : x.IsCalculation) :
    x.Agrees (Activity.ofExcept x.value) := by
  obtain ⟨r, hr⟩ := h
  have hvalue : x.value = r := (hr []).1
  rwa [hvalue]

theorem isCalculation_blockHosts (cidr : Datum) (limit : Int) :
    (blockHosts cidr limit).IsCalculation := by
  rw [blockHosts]
  cases Block.expand cidr (some limit) with
  | ok hosts => exact .bind (.note _) fun _ => .pure _
  | error e => cases e <;> exact .throw _

/-- The hosts of a block are found before a scan as they are when the block is expanded. -/
theorem value_blockHosts_eq_ok_iff {cidr : Datum} {limit : Int} {hosts : List Text} :
    (blockHosts cidr limit).value = .ok hosts ↔ Block.expand cidr (some limit) = .ok hosts := by
  rw [value, blockHosts]
  cases Block.expand cidr (some limit) with
  | ok found =>
    constructor
    · intro h
      rw [Except.ok.inj h]
    · intro h
      rw [← Except.ok.inj h]
      rfl
  | error e => cases e <;> exact ⟨nofun, nofun⟩

theorem isCalculation_loadWords (file : Option WordFile) (default : List Text) :
    (loadWords file default).IsCalculation := by
  rw [loadWords]
  cases Wordlist.load file default with
  | words list => exact .pure _
  | unreadable path list => exact .bind (.note _) fun _ => .pure _
  | nullCharacter => exact .throw _
  | noBytes found => exact .throw _

theorem isCalculation_listPorts (limit : Int) (items : List Datum) (taken : Nat) :
    (listPorts limit taken items).IsCalculation := by
  induction items generalizing taken with
  | nil => exact .pure _
  | cons item items ih =>
    refine .bind (.ofExcept _) fun port => ?_
    split
    · split
      · exact .throw _
      · exact .bind (ih _) fun _ => .pure _
    · exact .bind (.note _) fun _ => ih _

theorem isCalculation_choosePorts (s : Settings) (choice : PortChoice) :
    (choosePorts s choice).IsCalculation := by
  cases choice with
  | usual => exact .pure _
  | written spec => exact .bind (.ofExcept _) fun _ => .bind (.note _) fun _ => .ofExcept _
  | listed items => exact .bind (.ofExcept _) fun _ => isCalculation_listPorts ..

theorem result_writtenPorts (s : Settings) (spec : Text) (watch : Stopwatch) :
    ((choosePorts s (.written spec)).run watch).result =
      (PortSpec.expand spec (some s.maxPorts)).mapError .exhaustion := by
  cases spec <;> rfl

/-! ### Carrying the plans out -/

/-- The plan of a scan of a block. -/
def subnetPlan (w : World) (scanner : Scanner) : Plan Text :=
  planOf w .text fun host =>
    reachable w host (some scanner.timeout) scanner.settings.reachabilityPorts

/-- The plan of a scan of ports. -/
def portsPlan (w : World) (scanner : Scanner) (host : Text) : Plan Int :=
  planOf w .int fun port => portOpen w host port (some scanner.timeout) (.int port)

/-- The plan of a scan of a web server. -/
def directoryPlan (w : World) (scanner : Scanner) (base : Text) : Plan Text :=
  planOf w .text fun path =>
    pageFound w base path (some scanner.timeout) true scanner.settings.userAgent

/-- The plan of a scan for subdomains. -/
def subdomainsPlan (w : World) (scanner : Scanner) (resolver : Resolver) : Plan Text :=
  planOf w .text fun name => nameResolves w name (some scanner.timeout) resolver

/-- The plan of a sweep. -/
def sweepPlan (w : World) (scanner : Scanner) (resolver : Resolver) : Plan Text :=
  planOf w .text fun host => ping w host fallbackPort (some scanner.timeout) resolver

variable (order : Order) (w : World) (scanner : Scanner)

/-- A scan that checks what it is asked for, finds out its candidates without a call, looks whether
there is one and carries on with them. -/
theorem agrees_checked {α β : Type} {isFit : Except Failure Bool}
    {unfit nothing : SpecificationError} {x : Scan (List α)} {f : Bool → Scan β}
    {g carry : List α → Scan β} (hx : x.IsCalculation)
    (hfalse : (f false).Agrees (throw (.specification unfit))) (htrue : (f true).Agrees (x >>= g))
    (hnil : (g []).Agrees (throw (.specification nothing)))
    (hcons : ∀ a as, (g (a :: as)).Agrees (carry (a :: as))) :
    (Activity.ofExcept isFit >>= f).Agrees
      (Activity.ofExcept (Survey.checked isFit unfit x.value nothing) >>= carry) := by
  have hvalue := agrees_value hx
  cases isFit with
  | error e => exact .refl _
  | ok fit =>
    cases fit with
    | false => exact hfalse
    | true =>
      refine .trans htrue ?_
      cases hfound : x.value with
      | error e =>
        rw [hfound] at hvalue
        exact hvalue.bind_error
      | ok found =>
        rw [hfound] at hvalue
        refine .trans hvalue.bind_ok ?_
        cases found with
        | nil => exact hnil
        | cons a as => exact hcons a as

theorem agrees_subnet (cidr : Datum) : (subnet order w scanner cidr).Agrees (
    Activity.ofExcept (blockHosts cidr scanner.settings.maxHosts).value >>= fun hosts =>
      carryOut order (subnetPlan w scanner) hosts scanner.workers cidr.display) :=
  (agrees_value (isCalculation_blockHosts ..)).bind fun _ => .note_bind _ _

theorem agrees_sweep (resolver : Resolver) (cidr : Datum) :
    (sweep order w scanner resolver cidr).Agrees (
      Activity.ofExcept (blockHosts cidr scanner.settings.maxHosts).value >>= fun hosts =>
        carryOut order (sweepPlan w scanner resolver) hosts scanner.workers cidr.display) :=
  (agrees_value (isCalculation_blockHosts ..)).bind fun _ => .note_bind _ _

/-- A scan of ports is a calculation of the ports, and then carried out on them. -/
theorem agrees_ports (host : Datum) (choice : PortChoice) :
    (ports order w scanner host choice).Agrees (
      Activity.ofExcept (Survey.portsOf scanner.settings host choice) >>= fun ports =>
        carryOut order (portsPlan w scanner host.display) ports scanner.workers host.display) :=
  agrees_checked (isCalculation_choosePorts ..) (.refl _) (.refl _) (.refl _)
    fun _ _ => .note_bind _ _

/-- A scan of a web server is carried out within a session, which is closed after it. -/
theorem agrees_directory (base : Datum) (file : Option WordFile) :
    (directory order w scanner base file).Agrees (
      Activity.ofExcept (Survey.pathsOf scanner.settings base file) >>= fun paths =>
        closingSession (carryOut order (directoryPlan w scanner base.display) paths
          scanner.workers base.display)) :=
  agrees_checked (isCalculation_loadWords ..) (.refl _) (.refl _) (.refl _)
    fun _ _ => .note_bind _ _

theorem agrees_subdomains (resolver : Resolver) (domain : Datum) (file : Option WordFile) :
    (subdomains order w scanner resolver domain file).Agrees (
      Activity.ofExcept (Survey.wordsOf scanner.settings domain file) >>= fun words =>
        carryOut order (subdomainsPlan w scanner resolver)
          (words.map (Survey.nameUnder domain.display)) scanner.workers domain.display) :=
  agrees_checked (isCalculation_loadWords ..) (.refl _) (.refl _) (.refl _)
    fun _ _ => .note_bind _ _

end Scan

namespace Survey

open Scan

/-- The probe that a survey does for a candidate. -/
inductive Probes (w : World) (scanner : Scanner) : Survey → Datum → Probe Outcome → Prop
  | subnet (cidr : Datum) (host : Text) : Probes w scanner (.subnet cidr) (.text host)
    (reachable w host (some scanner.timeout) scanner.settings.reachabilityPorts)
  | ports (host : Datum) (choice : PortChoice) (port : Int) :
    Probes w scanner (.ports host choice) (.int port)
      (portOpen w host.display port (some scanner.timeout) (.int port))
  | directories (base : Datum) (file : Option WordFile) (path : Text) :
    Probes w scanner (.directories base file) (.text path)
      (pageFound w base.display path (some scanner.timeout) true scanner.settings.userAgent)
  | subdomains (resolver : Resolver) (domain : Datum) (file : Option WordFile) (name : Text) :
    Probes w scanner (.subdomains resolver domain file) (.text name)
      (nameResolves w name (some scanner.timeout) resolver)
  | sweep (resolver : Resolver) (cidr : Datum) (host : Text) :
    Probes w scanner (.sweep resolver cidr) (.text host)
      (ping w host fallbackPort (some scanner.timeout) resolver)

/-- Whatever a survey probes, its candidate is named in the outcome. -/
theorem Probes.names {w : World} {scanner : Scanner} {survey : Survey} {candidate : Datum}
    {probe : Probe Outcome} (h : survey.Probes w scanner candidate probe) :
    probe.Yields fun o => o.candidate = candidate := by
  cases h with
  | subnet cidr host => exact (timed_reachable w host _ _).imp fun _ h => h.candidate_eq
  | ports host choice port => exact (timed_portOpen w _ _ port port).imp fun _ h => h.candidate_eq
  | directories base file path =>
    exact (isPage_pageFound w _ _ path _ _).imp fun _ h => h.candidate_eq
  | subdomains resolver domain file name =>
    exact (timed_nameResolves w _ name resolver).imp fun _ h => h.candidate_eq
  | sweep resolver cidr host => exact (timed_ping w host _ _ resolver).imp fun _ h => h.candidate_eq

/-- What is called when the probes of a survey are over, or could not be started. -/
def closing : Survey → List Call
  | directories .. => [.closeSession]
  | _ => []

/-- What a survey does around its probes. -/
def around : Survey → Scan Report → Scan Report
  | directories .. => closingSession
  | _ => id

/-- What surrounds the carrying out of a survey makes calls after it, and changes nothing else. -/
theorem run_around (survey : Survey) (x : Scan Report) (watch : Stopwatch) :
    ((survey.around x).run watch).result = (x.run watch).result ∧
      ((survey.around x).run watch).state = (x.run watch).state ∧
      ((survey.around x).run watch).calls = (x.run watch).calls ++ survey.closing := by
  cases survey with
  | directories base file => exact ⟨rfl, rfl, rfl⟩
  | _ => exact ⟨rfl, rfl, (List.append_nil _).symm⟩

/-- **What a survey does.** It finds out what stands for its candidates and carries out a plan to
probe each of them. -/
theorem exists_plan (survey : Survey) (order : Order) (w : World) (scanner : Scanner) :
    ∃ (α : Type) (label : α → Datum) (probe : α → Probe Outcome) (found : Except Failure (List α))
      (target : Text), survey.candidates scanner.settings = found.map (·.map label) ∧
      (∀ a, survey.Probes w scanner (label a) (probe a)) ∧
      (survey.scan order w scanner).Agrees (Activity.ofExcept found >>= fun as =>
        survey.around (carryOut order (planOf w label probe) as scanner.workers target)) := by
  cases survey with
  | subnet cidr =>
    exact ⟨_, _, _, _, _, rfl, .subnet cidr, agrees_subnet order w scanner cidr⟩
  | ports host choice =>
    exact ⟨_, _, _, _, _, rfl, .ports host choice, agrees_ports order w scanner host choice⟩
  | directories base file =>
    exact ⟨_, _, _, _, _, rfl, .directories base file, agrees_directory order w scanner base file⟩
  | subdomains resolver domain file =>
    -- The names under the domain stand for themselves.
    have hnames := Activity.Agrees.ofExcept_map_bind (wordsOf scanner.settings domain file)
      (fun words => words.map (nameUnder domain.display)) fun names =>
        carryOut order (subdomainsPlan w scanner resolver) names scanner.workers domain.display
    refine ⟨_, _, _, _, _, ?_, .subdomains resolver domain file,
      (agrees_subdomains order w scanner resolver domain file).trans hnames⟩
    rw [candidates]
    cases wordsOf scanner.settings domain file with
    | error e => rfl
    | ok words => exact congrArg Except.ok (List.map_map ..).symm
  | sweep resolver cidr =>
    exact ⟨_, _, _, _, _, rfl, .sweep resolver cidr, agrees_sweep order w scanner resolver cidr⟩

/-- A survey that has its candidates carries its plan out. -/
theorem exists_carryOut {scanner : Scanner} {survey : Survey} {cs : List Datum}
    (hcs : survey.candidates scanner.settings = .ok cs) (order : Order) (w : World) :
    ∃ (α : Type) (label : α → Datum) (probe : α → Probe Outcome) (as : List α) (target : Text),
      as.map label = cs ∧ (∀ a, survey.Probes w scanner (label a) (probe a)) ∧
      (survey.scan order w scanner).Agrees
        (survey.around (carryOut order (planOf w label probe) as scanner.workers target)) := by
  obtain ⟨α, label, probe, found, target, hfound, hprobes, hscan⟩ :=
    survey.exists_plan order w scanner
  obtain ⟨as, rfl, hlabel⟩ := map_eq_ok_iff.mp (hfound.symm.trans hcs)
  exact ⟨α, label, probe, as, target, hlabel, hprobes, hscan⟩

/-! ### All or nothing -/

/-- A scan whose candidates cannot be calculated fails for that reason, without a call. -/
theorem failed_of_agrees {α : Type} {found : Except Failure (List α)} {scan : Scan Report}
    {carry : List α → Scan Report} {e : Failure}
    (hscan : scan.Agrees (Activity.ofExcept found >>= carry)) (hfound : found = .error e)
    (watch : Stopwatch) :
    (scan.run watch).result = .error e ∧ (scan.run watch).calls = [] := by
  obtain ⟨hresult, -, hcalls⟩ := hscan watch
  rw [hfound] at hresult hcalls
  exact ⟨hresult, hcalls⟩

/-- A survey whose candidates cannot be found out fails without a call. -/
theorem failed_of_candidates {scanner : Scanner} {survey : Survey} {e : Failure}
    (h : survey.candidates scanner.settings = .error e) (order : Order) (w : World)
    (watch : Stopwatch) :
    ((survey.scan order w scanner).run watch).result = .error e ∧
      ((survey.scan order w scanner).run watch).calls = [] := by
  obtain ⟨α, label, probe, found, target, hfound, -, hscan⟩ := survey.exists_plan order w scanner
  exact failed_of_agrees hscan (map_eq_error_iff.mp (hfound.symm.trans h)) watch

/-- What is done for candidates: if they cannot be found out, there is a failure and not a single
call, and otherwise there is a report that covers them. -/
def AllOrNothing (candidates : Except Failure (List Datum))
    (attempt : Attempt Stopwatch Report) : Prop :=
  (∃ e, candidates = .error e ∧ attempt.result = .error e ∧ attempt.calls = []) ∨
    ∃ cs report, candidates = .ok cs ∧ attempt.result = .ok report ∧ report.Covers cs

/-- A scan has no candidates and fails, or it reports on all of them. -/
theorem AllOrNothing.of_agrees {α : Type} {found : Except Failure (List α)} {scan : Scan Report}
    {carry : List α → Scan Report} {label : α → Datum} {watch : Stopwatch}
    (hscan : scan.Agrees (Activity.ofExcept found >>= carry))
    (hcount : ∀ cs, found.map (·.map label) = .ok cs → cs.length.log2 < 1023)
    (hcarry : ∀ as, as.length.log2 < 1023 →
      ∃ report, ((carry as).run watch).result = .ok report ∧ report.Covers (as.map label)) :
    AllOrNothing (found.map (·.map label)) (scan.run watch) := by
  obtain ⟨hresult, -, hcalls⟩ := hscan watch
  cases found with
  | error e => exact .inl ⟨e, rfl, hresult, hcalls⟩
  | ok as =>
    have hlength := hcount _ rfl
    rw [List.length_map] at hlength
    obtain ⟨report, hcarry, hcovers⟩ := hcarry as hlength
    exact .inr ⟨_, report, rfl, hresult.trans hcarry, hcovers⟩

variable {scanner : Scanner} {survey : Survey}

/-- A survey finds its candidates out without a call or fails, and then comes to a report on all of
them. -/
theorem allOrNothing_scan (order : Order) (w : World) (readings : List Float)
    (hworkers : 1 ≤ scanner.workers)
    (hcount : survey.IsCountable scanner.settings) :
    AllOrNothing (survey.candidates scanner.settings)
      ((survey.scan order w scanner).run (readings.map Number.float)) := by
  obtain ⟨α, label, probe, found, target, hfound, hprobes, hscan⟩ :=
    survey.exists_plan order w scanner
  rw [IsCountable, hfound] at hcount
  rw [hfound]
  refine .of_agrees hscan hcount fun as hlength => ?_
  rw [(run_around ..).1]
  exact result_carryOut (fun a => (hprobes a).names) hworkers hlength readings

/-- With workers and a stopwatch that gives doubles, a survey of candidates comes to a report. -/
theorem exists_report {cs : List Datum} (hcandidates : survey.candidates scanner.settings = .ok cs)
    (hworkers : 1 ≤ scanner.workers) (hcount : cs.length.log2 < 1023) (order : Order) (w : World)
    (readings : List Float) :
    ∃ report, ((survey.scan order w scanner).run (readings.map .float)).result = .ok report := by
  have hcountable : survey.IsCountable scanner.settings := by
    intro cs' hcs'
    rwa [← Except.ok.inj (hcandidates.symm.trans hcs')]
  obtain ⟨e, he, -⟩ | ⟨-, report, -, hreport, -⟩ :=
    allOrNothing_scan order w readings hworkers hcountable
  · cases hcandidates.symm.trans he
  · exact ⟨report, hreport⟩

end Survey

end NetSurvey
