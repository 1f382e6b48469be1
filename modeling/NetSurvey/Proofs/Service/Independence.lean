import NetSurvey.Proofs.Scan.Stopwatch
import NetSurvey.Proofs.Service.BodySize
import NetSurvey.Proofs.Service.Determinacy

/-!
# Requests do not influence one another

A service keeps its settings from one request to the next, and a stopwatch. All that an answer has
of the stopwatch is the time that its task took. So the answer to a request is the one that it would
get as the first request of all, but for that time (`Answer.untimed`), and it is the very same if
the stopwatch shows the same.
-/

namespace NetSurvey

/-- A datum without a field. -/
def Datum.without (key : Text) : Datum → Datum
  | .record fields => .record (fields.filter fun field => field.1 ≠ key)
  | d => d

/-- Setting a field makes no difference without it. -/
theorem Fields.filter_set (fields : Fields) (key : Text) (d : Datum) :
    (fields.set key d).filter (fun field => field.1 ≠ key) =
      fields.filter fun field => field.1 ≠ key := by
  induction fields with
  | nil => simp [Fields.set]
  | cons field fields ih =>
    obtain ⟨k, v⟩ := field
    rw [Fields.set]
    split
    · next hk => simp [hk]
    · next hk => rw [List.filter_cons, List.filter_cons, ih]

namespace Service

open Schedule Scan Stopwatch

/-! ### Answers but for the time -/

/-- An answer but for the time that its task took. -/
def Answer.untimed (a : Answer) : Answer :=
  { a with body := a.body.without "execution_time" }

/-- The body of an answer about a scan that took some time. -/
def timedBody (fields : Fields) (time : String) : Datum :=
  .record (fields.set "execution_time" (.text time))

theorem haveWritable_set (fields : Fields) (key : Text) {d₁ d₂ : Datum}
    (h : isWritable d₁ = isWritable d₂) :
    haveWritable (fields.set key d₁) = haveWritable (fields.set key d₂) := by
  induction fields with
  | nil => simp [Fields.set, haveWritable, h]
  | cons field fields ih =>
    obtain ⟨k, v⟩ := field
    simp only [Fields.set]
    split
    · simp only [haveWritable, h]
    · simp only [haveWritable, ih]

/-- Whatever the time, the body can be written or cannot, and is the same without the time. -/
theorem Answer.untimed_data (fields : Fields) (time₁ time₂ : String) :
    (Answer.data 200 (timedBody fields time₁)).untimed =
      (Answer.data 200 (timedBody fields time₂)).untimed := by
  have htext : isWritable (.text time₁) = isWritable (.text time₂) := by
    simp only [isWritable, Text.isWhole_ofString]
  have hwritable : isWritable (timedBody fields time₁) = isWritable (timedBody fields time₂) := by
    simp only [timedBody, isWritable]
    exact haveWritable_set fields _ htext
  have hbody : (timedBody fields time₁).without "execution_time" =
      (timedBody fields time₂).without "execution_time" := by
    simp only [timedBody, Datum.without, Fields.filter_set]
  rw [data, data, hwritable]
  split
  · simp only [untimed, hbody]
  · rfl

/-! ### What a task has of the stopwatch -/

variable {task : Task} {s : Settings} {scanner : Scanner} {survey : Survey}

/-- What a task tells about the report of its survey, but for the time: the figures that depend on
the time are not among it. -/
def Tells (scan : Scan Report) (body : Scan Datum) : Prop :=
  ∃ tell : Report → Except Failure Fields,
    (∀ target outcomes (t u : Number × Float),
      tell ⟨target, outcomes, .figures outcomes t.1 t.2⟩ =
        tell ⟨target, outcomes, .figures outcomes u.1 u.2⟩) ∧
    body = scan >>= fun r => Activity.ofExcept (tell r) >>= reportBody r

theorem tells_of_fields {scan : Scan Report} {body : Scan Datum} {fields : Report → Fields}
    (hbody : body = scan >>= fun r => reportBody r (fields r))
    (hfields : ∀ target outcomes (t u : Number × Float),
      fields ⟨target, outcomes, .figures outcomes t.1 t.2⟩ =
        fields ⟨target, outcomes, .figures outcomes u.1 u.2⟩) : Tells scan body :=
  ⟨fun r => .ok (fields r), fun target outcomes t u => congrArg _ (hfields target outcomes t u),
    hbody⟩

theorem Task.tells (h : task.survey? s = some (scanner, survey)) (order : Order) (w : World) :
    Tells (survey.scan order w scanner) (task.perform order w s) := by
  cases task with
  | resolve | ping => cases h
  | subnet | directories | sweep =>
    obtain ⟨rfl, rfl⟩ := Option.some.inj h
    exact tells_of_fields rfl fun _ _ _ _ => rfl
  | ports options host spec =>
    obtain ⟨rfl, rfl⟩ := Option.some.inj h
    cases spec <;> exact tells_of_fields rfl fun _ _ _ _ => rfl
  | subdomains options domain words =>
    obtain ⟨rfl, rfl⟩ := Option.some.inj h
    refine ⟨fun r => (r.summary.positives.mapM nameRecord).map fun records =>
      [("domain", .text domain), ("scanned", .int r.summary.total),
        ("found", .list (records.map (completed nameFields)))], fun _ _ _ _ => rfl, ?_⟩
    refine congrArg (_ >>= ·) (funext fun r => ?_)
    dsimp only
    cases r.summary.positives.mapM nameRecord <;> rfl

/-- What an activity comes to with every stopwatch that gives doubles: always the same, or a body
that is the same but for the time. -/
inductive Amounts (x : Scan Datum) : Prop
  | same (result : Except Failure Datum)
    (h : ∀ watch, GivesDoubles watch → (x.run watch).result = result)
  | timed (fields : Fields) (h : ∀ watch, GivesDoubles watch →
      ∃ time, (x.run watch).result = .ok (timedBody fields time))

/-- A task that carries a survey out tells the time, and all else is the same with every
stopwatch. -/
theorem amounts_of_tells {candidates : Except Failure (List Datum)} {scan : Scan Report}
    {body : Scan Datum} (hscan : Survey.Reports candidates scan) (hbody : Tells scan body)
    (hcount : ∀ cs, candidates = .ok cs → cs.length.log2 < 1023) : Amounts body := by
  obtain ⟨tell, htell, rfl⟩ := hbody
  cases hscan with
  | @failed e hresult =>
    exact .same (.error e) fun watch _ => Activity.result_bind_of_error (hresult watch)
  | @reported cs target outcomes hcandidates hresult =>
    -- With doubles there is a time, so there is a report.
    have hreport : ∀ watch, GivesDoubles watch → ∃ elapsed rate : Float,
        (scan.run watch).result =
          .ok ⟨target, outcomes, .figures outcomes (.float elapsed) rate⟩ := by
      rintro _ ⟨readings, rfl⟩
      obtain ⟨elapsed, rate, htiming⟩ := exists_timing (hcount cs hcandidates) readings
      refine ⟨elapsed, rate, ?_⟩
      rw [hresult, htiming]
      rfl
    have htold (elapsed rate : Float) := htell target outcomes (.float elapsed, rate) (.float 0, 0)
    cases htells : tell ⟨target, outcomes, .figures outcomes (.float 0) 0⟩ with
    | error e =>
      refine .same (.error e) fun watch hwatch => ?_
      obtain ⟨elapsed, rate, hok⟩ := hreport watch hwatch
      rw [Activity.result_bind_of_ok hok, (htold elapsed rate).trans htells]
      rfl
    | ok fields =>
      refine .timed fields fun watch hwatch => ?_
      obtain ⟨elapsed, rate, hok⟩ := hreport watch hwatch
      rw [Activity.result_bind_of_ok hok, (htold elapsed rate).trans htells,
        Activity.ofExcept_ok_bind, result_reportBody]
      exact ⟨_, rfl⟩

theorem isStateless_ofProbe {α : Type} (w : World) (probe : Probe α) :
    (ofProbe w probe).IsStateless := ⟨_, _, _, fun _ => rfl⟩

/-- A task without a survey does not look at the stopwatch. -/
theorem Task.isStateless (h : task.survey? s = none) (order : Order) (w : World) :
    (task.perform order w s).IsStateless := by
  cases task with
  | resolve hostname domain =>
    refine .bind ?_ fun _ => .bind (.ofExcept _) fun _ => .pure _
    rw [resolveName]
    split
    · exact .throw _
    · exact .bind (.ofExcept _) fun _ => isStateless_ofProbe w _
  | ping host port =>
    refine .bind ?_ fun _ => .pure _
    rw [pingHost]
    dsimp only
    split
    · exact .throw _
    split
    · exact .throw _
    · exact isStateless_ofProbe w _
  | _ => cases h

theorem quiet_reportBody (r : Report) (fields : Fields) : (reportBody r fields).Quiet :=
  .bind (.ofExcept _) fun _ => .pure _

/-- The calls of a task are the same with every stopwatch. -/
theorem Task.exists_calls (task : Task) (s : Settings) (order : Order) (w : World) :
    ∃ calls, ∀ watch, ((task.perform order w s).run watch).calls = calls := by
  cases hsurvey : task.survey? s with
  | none =>
    obtain ⟨result, calls, log, hrun⟩ := Task.isStateless hsurvey order w
    exact ⟨calls, fun watch => by rw [hrun]⟩
  | some pair =>
    obtain ⟨scanner, survey⟩ := pair
    obtain ⟨calls, hcalls⟩ := (survey.scan_cases order w scanner).1
    obtain ⟨tell, -, hperform⟩ := Task.tells hsurvey order w
    refine ⟨calls, fun watch => ?_⟩
    rw [hperform, Activity.calls_bind_of_quiet fun r => .bind (.ofExcept _) (quiet_reportBody r)]
    exact hcalls watch

theorem Task.amounts (hcount : ∀ scanner survey, task.survey? s = some (scanner, survey) →
      survey.IsCountable scanner.settings) (order : Order) (w : World) :
    Amounts (task.perform order w s) := by
  cases hsurvey : task.survey? s with
  | none =>
    obtain ⟨result, calls, log, hrun⟩ := Task.isStateless hsurvey order w
    exact .same result fun watch _ => by rw [hrun]
  | some pair =>
    obtain ⟨scanner, survey⟩ := pair
    exact amounts_of_tells (survey.scan_cases order w scanner).2 (Task.tells hsurvey order w)
      (hcount scanner survey hsurvey)

/-- A task leaves a stopwatch that gives doubles as one that does. -/
theorem Task.keeps (task : Task) (s : Settings) (order : Order) (w : World) :
    (task.perform order w s).Keeps GivesDoubles := by
  cases hsurvey : task.survey? s with
  | none => exact (Task.isStateless hsurvey order w).keeps _
  | some pair =>
    obtain ⟨scanner, survey⟩ := pair
    obtain ⟨tell, -, hperform⟩ := Task.tells hsurvey order w
    rw [hperform]
    exact .bind (survey.keeps_scan order w scanner) fun r => .bind (.ofExcept _) fun fields =>
      .bind (.ofExcept _) fun _ => .pure _

namespace App

variable {app : App} {env : Environment} {order : Order} {w : World} {r : Request}

/-! ### Histories -/

/-- One request leaves a stopwatch that gives doubles as one that does. -/
theorem givesDoubles_handle (h : GivesDoubles app.watch) (order : Order) (w : World) (r : Request) :
    GivesDoubles (app.handle order w r).app.watch := by
  rcases app_handle_cases order w app r with happ | happ | ⟨task, happ⟩
  · rwa [happ]
  · rwa [happ, watch_settings]
  · rw [happ]
    exact task.keeps _ order w _ h

/-- And so does a whole history. -/
theorem givesDoubles_after (h : GivesDoubles app.watch) (history : List Visit) :
    GivesDoubles (app.after history).watch := by
  induction history generalizing app with
  | nil => exact h
  | cons v history ih => exact ih (givesDoubles_handle h v.order v.world v.request)

/-- What a service answers about a task has nothing else of the stopwatch than the time. -/
theorem untimed_perform {app₁ app₂ : App} {task : Task} {s : Settings}
    (hcount : ∀ scanner survey, task.survey? s = some (scanner, survey) →
      survey.IsCountable scanner.settings)
    (h₁ : GivesDoubles app₁.watch) (h₂ : GivesDoubles app₂.watch) :
    (app₁.perform order w s task).answer.map Answer.untimed =
      (app₂.perform order w s task).answer.map Answer.untimed := by
  rw [answer_perform, answer_perform]
  cases Task.amounts hcount order w with
  | same result h => rw [h _ h₁, h _ h₂]
  | timed fields h =>
    obtain ⟨time₁, htime₁⟩ := h _ h₁
    obtain ⟨time₂, htime₂⟩ := h _ h₂
    rw [htime₁, htime₂]
    exact congrArg Except.ok (Answer.untimed_data fields time₁ time₂)

/-- **Requests do not influence one another.** After any history, a request makes the calls that it
would make as the first one to a service with the same environment. It gets the same answer if the
stopwatch shows the same; and whatever the two stopwatches show, if they give doubles, it gets the
same answer but for the time. Its body has to have fewer than `2 ^ 1000` code points, which no text
that fits into a memory comes near to. -/
theorem independent_of_history (env : Environment) (readings : List Float) (history : List Visit)
    (order : Order) (w : World) (r : Request) :
    let later := (ofEnvironment env (readings.map .float)).after history
    (later.handle order w r).answer =
      ((ofEnvironment env later.watch).handle order w r).answer ∧
    ∀ others : List Float,
      let first := ofEnvironment env (others.map .float)
      (later.handle order w r).calls = (first.handle order w r).calls ∧
      (r.body.length.log2 < 1000 →
        (later.handle order w r).answer.map Answer.untimed =
          (first.handle order w r).answer.map Answer.untimed) := by
  intro later
  have hserves : later.Serves env := (serves_ofEnvironment env _).after history
  have hdoubles : GivesDoubles later.watch := givesDoubles_after ⟨readings, rfl⟩ history
  have hs := hserves.settings.1
  constructor
  · have heffect : (later.handle order w r).effect =
        ((ofEnvironment env later.watch).handle order w r).effect :=
      handle_lockstep hs (serves_ofEnvironment env later.watch).settings.1 rfl (fun _ => rfl) rfl
    exact congrArg (·.1) heffect
  intro others first
  have hfirst : first.settings.1 = (Settings.ofEnvironment env).1 :=
    (serves_ofEnvironment env _).settings.1
  constructor
  · refine handle_congr (fun effect => effect.2.1) hs hfirst rfl (fun _ => rfl) fun task _ => ?_
    obtain ⟨calls, hcalls⟩ := task.exists_calls (Settings.ofEnvironment env).1 order w
    exact (hcalls later.watch).trans (hcalls first.watch).symm
  · intro hsize
    refine handle_congr (fun effect => effect.1.map Answer.untimed) hs hfirst rfl (fun _ => rfl)
      fun task hwants => ?_
    exact untimed_perform (fun scanner survey => isCountable_of_wants hsize hwants) hdoubles
      ⟨others, rfl⟩

/-- A port that is asked for twice is answered in the same way after the same with more workers, on
another network, and after a base URL that cannot be taken apart. -/
theorem independent_of_history_repeatedPort :
    let history : List Visit := [⟨.serial, .interrupting, repeatedPort "9"⟩,
      ⟨.serial, .closed, openBracket⟩]
    let later := (ofEnvironment (fun _ => none) [.float 1.0, .float 3.5]).after history
    (repeatedPort "2").body.length.log2 < 1000 ∧
    (later.handle .serial .closed (repeatedPort "2")).answer.map Answer.untimed =
      (freshApp.handle .serial .closed (repeatedPort "2")).answer.map Answer.untimed := by
  intro history later
  have hsize : (repeatedPort "2").body.length.log2 < 1000 := by decide
  obtain ⟨-, hothers⟩ := independent_of_history (fun _ => none) [1.0, 3.5] history .serial .closed
    (repeatedPort "2")
  exact ⟨hsize, (hothers []).2 hsize⟩

end App

end Service

end NetSurvey
