import NetSurvey.Proofs.Service.Task
import NetSurvey.Service.App

/-!
# How the service refuses

A request that asks for a task and makes no call gets status 400 or 413 where it is refused. Status
500 is left for base URLs that cannot be taken apart. The number of workers that a request chooses
is checked before, so it is enough that the settings have workers for every kind of scan.
-/

namespace NetSurvey.Service

open Schedule

/-! ### Workers -/

theorem Form.of_both_eq_ok {α β : Type} {f : Form α} {g : Form β} {a : α} {b : β}
    (h : f.both g = .ok (a, b)) : f = .ok a ∧ g = .ok b := by
  match f, g, h with
  | .ok _, .ok _, rfl => exact ⟨rfl, rfl⟩

theorem one_le_of_workerCount {d : Datum} {n : Int} (h : workerCount d = .ok n) : 1 ≤ n := by
  rw [workerCount] at h
  cases hinteger : integer d with
  | error fault =>
    rw [hinteger] at h
    cases h
  | ok m =>
    simp only [hinteger, bind, Except.bind] at h
    split at h
    · cases h
    · split at h
      · cases h
      · obtain rfl := Except.ok.inj h
        omega

theorem one_le_of_optional {fields : Fields} {key : String} {n : Int}
    (h : Form.optional fields key workerCount = .ok (some n)) : 1 ≤ n := by
  rw [Form.optional] at h
  split at h
  · cases h
  · next d _ _ =>
    obtain ⟨m, hm, hsome⟩ := map_eq_ok_iff.mp h
    obtain rfl := Option.some.inj hsome
    rw [Form.ofField] at hm
    cases hcount : workerCount d with
    | error fault =>
      rw [hcount] at hm
      cases hm
    | ok k =>
      rw [hcount] at hm
      obtain rfl := Except.ok.inj hm
      exact one_le_of_workerCount hcount
  · cases h

/-- A request that chooses a number of workers chooses at least one. -/
theorem one_le_of_form {fields : Fields} {options : Options} {n : Int}
    (h : Options.form fields = .ok options) (hn : options.workers = some n) : 1 ≤ n := by
  obtain ⟨⟨workers, timeout⟩, hboth, rfl⟩ := map_eq_ok_iff.mp h
  obtain ⟨hworkers, -⟩ := Form.of_both_eq_ok hboth
  rw [show workers = some n from hn] at hworkers
  exact one_le_of_optional hworkers

theorem one_le_workers_scanner {options : Options} {kind : ScanKind} {s : Settings}
    (hoptions : ∀ n, options.workers = some n → 1 ≤ n) (hs : 1 ≤ kind.workers s) :
    1 ≤ (options.scanner kind s).workers := by
  rw [Options.scanner, Scanner.ofKind]
  cases hworkers : options.workers with
  | none => exact hs
  | some n =>
    have hn := hoptions n hworkers
    have hne : n ≠ 0 := by omega
    have hfilter : (some n).filter (· ≠ 0) = some n := by simp [hne]
    rw [hfilter]
    exact hn

theorem one_le_workers_of_both {β : Type} {fields : Fields} {options : Options} {rest : Form β}
    {b : β} {kind : ScanKind} {s : Settings}
    (h : (Options.form fields).both rest = .ok (options, b)) (hs : 1 ≤ kind.workers s) :
    1 ≤ (options.scanner kind s).workers :=
  one_le_workers_scanner (fun _ => one_le_of_form (Form.of_both_eq_ok h).1) hs

variable {task : Task} {s : Settings}

/-- The scanner of a task that was read has a worker if the settings have workers for every kind of
scan. -/
theorem one_le_workers_of_readTask {kind : TaskKind} {body : Datum} {scanner : Scanner}
    {survey : Survey} (h : readTask kind body = .ok task)
    (hs : ∀ kind : ScanKind, 1 ≤ kind.workers s)
    (hsurvey : task.survey? s = some (scanner, survey)) : 1 ≤ scanner.workers := by
  cases body with
  | record fields =>
    have hform : kind.form fields = .ok task := h
    cases kind with
    | subnet | sweep =>
      obtain ⟨⟨options, cidr⟩, hboth, rfl⟩ := map_eq_ok_iff.mp hform
      obtain ⟨rfl, rfl⟩ := Option.some.inj hsurvey
      exact one_le_workers_of_both hboth (hs _)
    | ports =>
      obtain ⟨⟨options, host, spec⟩, hboth, rfl⟩ := map_eq_ok_iff.mp hform
      obtain ⟨rfl, rfl⟩ := Option.some.inj hsurvey
      exact one_le_workers_of_both hboth (hs .ports)
    -- The words of a request replace those of the settings, and the workers stay.
    | directories =>
      obtain ⟨⟨options, base, words⟩, hboth, rfl⟩ := map_eq_ok_iff.mp hform
      obtain ⟨rfl, rfl⟩ := Option.some.inj hsurvey
      exact one_le_workers_of_both hboth (hs .directories)
    | subdomains =>
      obtain ⟨⟨options, domain, words⟩, hboth, rfl⟩ := map_eq_ok_iff.mp hform
      obtain ⟨rfl, rfl⟩ := Option.some.inj hsurvey
      exact one_le_workers_of_both hboth (hs .subdomains)
    | resolve | ping =>
      obtain ⟨_, -, rfl⟩ := map_eq_ok_iff.mp hform
      cases hsurvey
  | _ => cases h

/-! ### Answers -/

theorem Answer.status_detail {text : Text} (status : Nat) (h : text.isWhole = true) :
    (Answer.detail status text).status = status := by
  have hwritable : isWritable (.record [("detail", .text text)]) = true := by
    simp [isWritable, haveWritable, h]
  rw [detail, data, if_pos hwritable]

/-- A failure of the service is told as one, whether its message can be written or not. -/
theorem Answer.status_detail_serverError (text : Text) : (Answer.detail 500 text).status = 500 := by
  rw [detail, data]
  split <;> rfl

namespace App

/-- A request that is sent, routed to a kind of task, admitted and well formed asks for a task. -/
def Asks (app : App) (r : Request) (task : Task) : Prop :=
  ∃ path bytes kind body, r.send = .ok (path, bytes) ∧
    route (Text.raised r.method) path = .ok (.task kind) ∧ readBody r bytes = .ok body ∧
    admits app.settings.1 r = true ∧ readTask kind body = .ok task

/-- What is routed has a route of that path, and one that allows the method. -/
theorem of_route_eq_ok {method path : Text} {found : Route} (h : route method path = .ok found) :
    findRoute? path = some found ∧ method ∈ found.methods := by
  rw [route] at h
  split at h
  · next r hfound =>
    split at h
    · next hmethod =>
      obtain rfl := Except.ok.inj h
      exact ⟨hfound, hmethod⟩
    · cases h
  · split at h <;> cases h

theorem method_of_route_task {method path : Text} {kind : TaskKind}
    (h : route method path = .ok (.task kind)) : method = "POST" :=
  List.mem_singleton.mp (of_route_eq_ok h).2

/-- The answer to a request that asks for a task is that of the task. -/
theorem handle_of_asks {app : App} {r : Request} (order : Order) (w : World)
    (h : app.Asks r task) :
    (app.handle order w r).answer =
        (app.settings.2.2.perform order w app.settings.1 task).answer ∧
      (app.handle order w r).calls =
        (app.settings.2.2.perform order w app.settings.1 task).calls := by
  obtain ⟨path, bytes, kind, body, hsend, hroute, hbody, hadmits, htask⟩ := h
  have hmethod := method_of_route_task hroute
  have hhead : ¬(Text.raised r.method = "HEAD") := by
    rw [hmethod]
    decide
  simp only [handle, hsend, if_neg hhead, answer, hroute, hbody, guarded, hadmits, if_true, htask,
    and_self]

theorem watch_settings (app : App) : app.settings.2.2.watch = app.watch := by
  rw [settings]
  split <;> rfl

variable {order : Order} {w : World}

theorem answer_perform (s : Settings) (app : App) :
    (app.perform order w s task).answer =
      match ((task.perform order w s).run app.watch).result with
      | .ok body => .ok (.data 200 body)
      | .error e => (failureAnswer e).1 := by
  rw [perform]
  cases ((task.perform order w s).run app.watch).result <;> rfl

theorem calls_perform (s : Settings) (app : App) :
    (app.perform order w s task).calls = ((task.perform order w s).run app.watch).calls := rfl

/-- The status of what a task without a call comes to. -/
theorem status_of_settled {s : Settings} {app : App}
    (h : task.Settled ((task.perform order w s).run app.watch).result) :
    ∃ a, (app.perform order w s task).answer = .ok a ∧
      (task.urlFault? = none ∧ (a.status = 200 ∨ a.status = 400 ∨ a.status = 413) ∨
        task.urlFault?.isSome = true ∧ a.status = 500) := by
  rw [answer_perform]
  generalize ((task.perform order w s).run app.watch).result = result at h
  cases h with
  | answered hurl hwritable =>
    refine ⟨_, rfl, .inl ⟨hurl, .inl ?_⟩⟩
    rw [Answer.data, if_pos hwritable]
  | refused hurl hrefusal =>
    cases hrefusal with
    | specification hwhole =>
      exact ⟨_, rfl, .inl ⟨hurl, .inr (.inl (Answer.status_detail 400 hwhole))⟩⟩
    | exhaustion hwhole =>
      exact ⟨_, rfl, .inl ⟨hurl, .inr (.inr (Answer.status_detail 413 hwhole))⟩⟩
  | unreported hurl =>
    exact ⟨_, rfl, .inr ⟨by rw [hurl]; rfl, Answer.status_detail_serverError _⟩⟩

/-- A task whose base URL cannot be taken apart makes no call. -/
theorem calls_of_urlFault {s : Settings} {app : App} (hurl : task.urlFault?.isSome = true) :
    (app.perform order w s task).calls = [] := by
  obtain ⟨cause, hurl⟩ := Option.isSome_iff_exists.mp hurl
  cases task with
  | directories options base words =>
    have hsurvey : (Task.directories options base words).survey? s = some _ := rfl
    have hunreported := Task.unreported_survey hsurvey
    rw [hurl] at hunreported
    obtain ⟨hresult, hcalls⟩ := Survey.failed_of_candidates
      (Survey.candidates_of_unreported _ hunreported) order w app.watch
    obtain ⟨answer, hperform⟩ := Task.exists_perform_eq hsurvey order w
    rw [calls_perform, hperform, Activity.calls_bind_of_error hresult, hcalls]
  | _ => cases hurl

/-- A request that asks for a task and makes no call gets status 500 exactly if its base URL cannot
be taken apart. -/
theorem status_of_no_call {app : App} {r : Request} (readings : List Float)
    (hasks : app.Asks r task) (hwatch : app.watch = readings.map Number.float)
    (hworkers : ∀ kind : ScanKind, 1 ≤ kind.workers app.settings.1)
    (hcalls : (app.handle order w r).calls = []) :
    ∃ a, (app.handle order w r).answer = .ok a ∧
      (task.urlFault? = none ∧ (a.status = 200 ∨ a.status = 400 ∨ a.status = 413) ∨
        task.urlFault?.isSome = true ∧ a.status = 500) := by
  obtain ⟨hanswer, hperform⟩ := handle_of_asks order w hasks
  have hreadings : app.settings.2.2.watch = readings.map Number.float :=
    app.watch_settings.trans hwatch
  rw [hanswer]
  refine status_of_settled ?_
  rw [hreadings]
  obtain ⟨_, _, _, _, -, -, -, -, htask⟩ := hasks
  refine Task.settled (fun _ _ => one_le_workers_of_readTask htask hworkers) ?_
  rw [← hreadings, ← calls_perform, ← hperform, hcalls]

end App

/-- **How bad input is answered.** What is asked for in texts fails before the first call, with a
refusal, unless the failure is an unreported one, which is met exactly where `Survey.unreported?`
names it. A wordlist that cannot be read is no failure. A request that asks for a task and makes no
call gets status 500 exactly if its base URL cannot be taken apart, and otherwise it is answered, or
refused with status 400 or 413. -/
theorem bad_input_reported (order : Order) (w : World) (readings : List Float) :
    (∀ (scanner : Scanner) (survey : Survey), survey.IsWritten → 1 ≤ scanner.workers →
      survey.IsCountable scanner.settings →
      let attempt := (survey.scan order w scanner).run (readings.map Number.float)
      (∀ e, attempt.result = .error e → attempt.calls = [] ∧
        (survey.unreported? = none ∧ (e.isSpecification = true ∨ e.isExhaustion = true) ∨
          survey.unreported? = some e)) ∧
      ∀ e, survey.unreported? = some e →
        attempt.result = .error e ∧ e.isSpecification = false ∧ e.isExhaustion = false) ∧
    (∀ (s : Settings) (path : Text), WordFile.pathFault? ⟨path, none⟩ = none →
      (∀ base, (Survey.directories base (some ⟨path, none⟩)).candidates s =
        (Survey.directories base none).candidates s) ∧
      ∀ resolver domain, (Survey.subdomains resolver domain (some ⟨path, none⟩)).candidates s =
        (Survey.subdomains resolver domain none).candidates s) ∧
    ∀ (app : App) (r : Request) (task : Task), app.Asks r task →
      app.watch = readings.map Number.float →
      (∀ kind : ScanKind, 1 ≤ kind.workers app.settings.1) →
      let reply := app.handle order w r
      (reply.calls = [] → ∃ a, reply.answer = .ok a ∧
        (task.urlFault? = none ∧ (a.status = 200 ∨ a.status = 400 ∨ a.status = 413) ∨
          task.urlFault?.isSome = true ∧ a.status = 500)) ∧
      (task.urlFault?.isSome = true → reply.calls = []) := by
  refine ⟨fun scanner survey hwritten hworkers hcount => ?_, fun s path hpath => ?_,
    fun app r task hasks hwatch hworkers => ?_⟩
  · have hsettles := Survey.allOrNothing_scan order w readings hworkers hcount
    refine ⟨fun e he => ?_, fun e he => ⟨?_, Survey.kind_of_unreported he⟩⟩
    · obtain ⟨e', hcandidates, hresult, hcalls⟩ | ⟨_, report, -, hresult, -⟩ := hsettles
      · obtain rfl := Except.error.inj (he.symm.trans hresult)
        refine ⟨hcalls, ?_⟩
        cases hunreported : survey.unreported? with
        | none =>
          exact .inl ⟨rfl, (Survey.isRefusal_of_candidates hwritten hunreported hcandidates).kind⟩
        | some e' =>
          obtain rfl := Except.error.inj
            (hcandidates.symm.trans (Survey.candidates_of_unreported _ hunreported))
          exact .inr rfl
      · cases he.symm.trans hresult
    · exact (Survey.failed_of_candidates (Survey.candidates_of_unreported _ he) order w _).1
  · have hwords := Survey.value_loadWords_unreadable hpath
    refine ⟨fun base => ?_, fun resolver domain => ?_⟩
    · simp only [Survey.candidates, Survey.pathsOf, hwords]
    · simp only [Survey.candidates, Survey.wordsOf, hwords]
  · obtain ⟨-, hcalls⟩ := App.handle_of_asks order w hasks
    exact ⟨App.status_of_no_call readings hasks hwatch hworkers,
      fun hurl => hcalls.trans (App.calls_of_urlFault hurl)⟩

/-! ### A bracket that is not closed -/

/-- A service that has not been asked for anything. -/
def freshApp : App where
  environment _ := none

/-- A request for a scan of a web server whose base URL has a bracket that is not closed. -/
def openBracket : Request where
  method := "POST"
  target := "/recon/dirs"
  body := "\x7b\"base_url\": \"http://[::1\"\x7d"

theorem send_openBracket :
    openBracket.send = .ok ("/recon/dirs", (Text.encodeUtf8? openBracket.body).getD []) :=
  toOption_eq_some_iff.mp (by decide +kernel)

theorem asks_openBracket :
    freshApp.Asks openBracket (.directories ⟨none, none⟩ "http://[::1" none) :=
  ⟨_, _, .directories, .record [("base_url", .text "http://[::1")], send_openBracket, rfl,
    toOption_eq_some_iff.mp (by decide +kernel), rfl, rfl⟩

theorem one_le_workers_freshApp (kind : ScanKind) : 1 ≤ kind.workers freshApp.settings.1 := by
  cases kind <;> decide

/-- A scanner with a single worker. -/
def plainScanner : Scanner where
  settings := {}
  workers := 1
  timeout := .int 1

/-- A host that is no name is refused, a base URL with a bracket that is not closed goes unreported,
a wordlist that is missing is the default list, and the service answers the second with status
500. -/
theorem bad_input_reported_open_bracket :
    let ports := Survey.ports (.text "a b") .usual
    let directories := Survey.directories (.text "http://[::1") none
    let reply := freshApp.handle .serial .closed openBracket
    (∃ e, ((ports.scan .serial .closed plainScanner).run []).result = .error e ∧
      ((ports.scan .serial .closed plainScanner).run []).calls = [] ∧ e.isSpecification = true) ∧
    ((directories.scan .serial .closed plainScanner).run []).result = .error (.url .brackets) ∧
    (Survey.directories (.text "http://h") (some ⟨"missing.txt", none⟩)).candidates {} =
      (Survey.directories (.text "http://h") none).candidates {} ∧
    reply.calls = [] ∧ ∃ a, reply.answer = .ok a ∧ a.status = 500 := by
  intro ports directories reply
  obtain ⟨hscan, hfile, happ⟩ := bad_input_reported .serial .closed []
  have hports : ports.candidates plainScanner.settings =
      .error (.specification (.target "'a b'")) := by rfl
  have hdirectories : directories.candidates plainScanner.settings =
      .error (.url .brackets) := by rfl
  have hpath : WordFile.pathFault? ⟨"missing.txt", none⟩ = none := rfl
  obtain ⟨hrefused, -⟩ := hscan plainScanner ports (.usualPorts _) (by decide)
    (Survey.isCountable_of_error hports)
  obtain ⟨-, hunreported⟩ := hscan plainScanner directories (.directories _ _) (by decide)
    (Survey.isCountable_of_error hdirectories)
  obtain ⟨hstatus, hcalls⟩ := happ freshApp openBracket _ asks_openBracket rfl
    one_le_workers_freshApp
  have hresult := (Survey.failed_of_candidates hports .serial .closed []).1
  refine ⟨⟨_, hresult, (hrefused _ hresult).1, rfl⟩, (hunreported _ rfl).1,
    (hfile {} "missing.txt" hpath).1 _, hcalls rfl, ?_⟩
  obtain ⟨a, ha, ⟨hnone, -⟩ | ⟨-, h500⟩⟩ := hstatus (hcalls rfl)
  · cases hnone
  · exact ⟨a, ha, h500⟩

/-- A base URL with a bracket that is not closed fails without a call and is no refusal, and neither
is a wordlist with a null character in its path. The service answers the former with status 500. -/
theorem open_bracket_unreported :
    let directories := Survey.directories (.text "http://[::1") none
    let subdomains := Survey.subdomains .default (.text "a.bc") (some ⟨[Char.ofNat 0], none⟩)
    let reply := freshApp.handle .serial .closed openBracket
    (((directories.scan .serial .closed plainScanner).run []).result = .error (.url .brackets) ∧
      ((directories.scan .serial .closed plainScanner).run []).calls = []) ∧
    (((subdomains.scan .serial .closed plainScanner).run []).result = .error .nullCharacter ∧
      ((subdomains.scan .serial .closed plainScanner).run []).calls = []) ∧
    reply.calls = [] ∧ ∃ a, reply.answer = .ok a ∧ a.status = 500 := by
  intro directories subdomains reply
  have hbracket : directories.unreported? = some (.url .brackets) := rfl
  have hnull : subdomains.unreported? = some .nullCharacter := rfl
  have hcalls : reply.calls = [] :=
    (App.handle_of_asks .serial .closed asks_openBracket).2.trans (App.calls_of_urlFault rfl)
  refine ⟨Survey.failed_of_candidates (Survey.candidates_of_unreported _ hbracket) _ _ _,
    Survey.failed_of_candidates (Survey.candidates_of_unreported _ hnull) _ _ _, hcalls, ?_⟩
  obtain ⟨a, ha, ⟨hnone, -⟩ | ⟨-, hstatus⟩⟩ :=
    App.status_of_no_call [] asks_openBracket rfl one_le_workers_freshApp hcalls
  · cases hnone
  · exact ⟨a, ha, hstatus⟩

end NetSurvey.Service
