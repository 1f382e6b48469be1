import NetSurvey.Proofs.Service.History

/-!
# The key decides who is let in, and nothing else

A service whose environment has a key lets a request to its survey part pass only if it carries the
key: any other one makes no call, and its answer is no success. The settings that go with the key
differ from those without it in the key alone, which no task looks at. So a request that carries the
key comes to what it comes to where there is no key.
-/

namespace NetSurvey

open Schedule

/-- An environment without a variable. -/
def Environment.without (env : Environment) (name : String) : Environment :=
  fun other => if other = name then none else env other

/-- The variable that holds the key. -/
def keyName : String := "RECONLAB_API_KEY"

namespace Settings

variable {env : Environment} {name other : String}

theorem readInteger_without (h : other ≠ name) (default : Int) :
    readInteger (env.without name) other default = readInteger env other default := by
  simp only [readInteger, Environment.without, if_neg h]

theorem readTime_without (h : other ≠ name) (default : Number) :
    readTime (env.without name) other default = readTime env other default := by
  simp only [readTime, Environment.without, if_neg h]

/-- Without its variable there is no key, and the other settings stay. -/
theorem ofEnvironment_without_key (env : Environment) :
    (ofEnvironment (env.without keyName)).1 = { (ofEnvironment env).1 with apiKey := none } := by
  have hkey : readText (env.without keyName) "RECONLAB_API_KEY" = none := by
    simp [readText, Environment.without, keyName]
  simp (disch := decide) only [ofEnvironment, readInteger_without, readTime_without, hkey]

theorem apiKey_ofEnvironment {key : Text} (hkey : env keyName = some key) (hne : key ≠ []) :
    (ofEnvironment env).1.apiKey = some key := by
  have hread : readText env "RECONLAB_API_KEY" = some key := by
    rw [keyName] at hkey
    simp [readText, hkey, hne]
  exact hread

end Settings

namespace Service

/-- No task looks at the key. -/
theorem Task.perform_without_key (order : Order) (w : World) (s : Settings) (task : Task) :
    task.perform order w { s with apiKey := none } = task.perform order w s := by
  cases task <;> rfl

namespace App

variable {env : Environment} {key : Text} {r : Request} {s : Settings}

theorem admits_of_none (h : s.apiKey = none) (r : Request) : admits s r = true := by
  rw [admits, h]

theorem admits_iff (h : s.apiKey = some key) (hne : key ≠ []) :
    admits s r = true ↔ r.header? "X-API-Key" = some key := by
  simp [admits, h, hne]

/-- What is not let in makes no call and gets no success. -/
theorem refused_of_not_admits {app : App} (hadmits : admits app.settings.1 r = false)
    (hsurvey : r.IsForSurvey) (order : Order) (w : World) :
    (app.handle order w r).calls = [] ∧
      ∃ a, (app.handle order w r).answer = .ok a ∧ ¬a.IsSuccess ∧
        ((∃ task, r.Wants task) → a.status = 403) := by
  have hstatus : (Answer.detail 403 "Invalid or missing API Key").status = 403 :=
    Answer.status_detail 403 (Text.isWhole_ofString _)
  have hforbidden : ¬(Answer.detail 403 "Invalid or missing API Key").IsSuccess := by
    rw [Answer.IsSuccess, hstatus]
    decide
  by_cases hwants : ∃ task, r.Wants task
  · obtain ⟨task, htask⟩ := hwants
    rw [handle_of_wants htask, guarded_of_not_admits hadmits]
    exact ⟨rfl, _, rfl, hforbidden, fun _ => hstatus⟩
  rcases handle_cases r with ⟨answer, hanswer, h⟩ | ⟨a, h⟩ | ⟨task, htask, -⟩
  · obtain ⟨a, rfl, ha⟩ := hanswer hsurvey
    rw [h]
    exact ⟨rfl, a, rfl, ha, fun hw => absurd hw hwants⟩
  · rw [h, guarded_of_not_admits hadmits]
    exact ⟨rfl, _, rfl, hforbidden, fun _ => hstatus⟩
  · exact absurd ⟨task, htask⟩ hwants

/-- A request that carries the key comes to what it comes to where there is no key. -/
theorem handle_without_key (hkey : env keyName = some key) (hne : key ≠ [])
    (hheader : r.header? "X-API-Key" = some key) {app₁ app₂ : App} (h₁ : app₁.Serves env)
    (h₂ : app₂.Serves (env.without keyName)) (hwatch : app₁.watch = app₂.watch) (order : Order)
    (w : World) : (app₁.handle order w r).effect = (app₂.handle order w r).effect := by
  have hs₂ : app₂.settings.1 = { (Settings.ofEnvironment env).1 with apiKey := none } :=
    h₂.settings.1.trans (Settings.ofEnvironment_without_key env)
  refine handle_lockstep h₁.settings.1 hs₂ ?_ (fun task => ?_) hwatch
  · rw [(admits_iff (Settings.apiKey_ofEnvironment hkey hne) hne).mpr hheader,
      admits_of_none rfl r]
  · exact (Task.perform_without_key order w _ task).symm

/-- The same goes for a history of requests that all carry the key: it leaves the same stopwatch. -/
theorem watch_after_without_key (hkey : env keyName = some key) (hne : key ≠ [])
    {history : List Visit} (hheader : ∀ v ∈ history, v.request.header? "X-API-Key" = some key)
    {app₁ app₂ : App} (h₁ : app₁.Serves env) (h₂ : app₂.Serves (env.without keyName))
    (hwatch : app₁.watch = app₂.watch) :
    (app₁.after history).watch = (app₂.after history).watch := by
  induction history generalizing app₁ app₂ with
  | nil => exact hwatch
  | cons v history ih =>
    have heffect := handle_without_key hkey hne (hheader v List.mem_cons_self) h₁ h₂ hwatch
      v.order v.world
    refine ih (fun v hv => hheader v (List.mem_cons_of_mem _ hv)) (h₁.handle ..) (h₂.handle ..) ?_
    exact congrArg (·.2.2) heffect

/-- **The key.** Let an environment have a key, and let the service have any history. A request to
the survey part that does not carry the key makes no call and gets no success, and if it wants a
task, it is forbidden. A request that carries the key gets the answer, and makes the calls, that it
does where the environment has no key, whatever the history there, if the stopwatch shows the same
then; and that it does after a history in which all requests carry the key. -/
theorem key_enforced (env : Environment) (key : Text) (hkey : env "RECONLAB_API_KEY" = some key)
    (hne : key ≠ []) (watch : Stopwatch) (history : List Visit) (order : Order) (w : World)
    (r : Request) :
    let app := (ofEnvironment env watch).after history
    let keyless := env.without "RECONLAB_API_KEY"
    (r.IsForSurvey → r.header? "X-API-Key" ≠ some key →
      (app.handle order w r).calls = [] ∧
      ∃ a, (app.handle order w r).answer = .ok a ∧ ¬a.IsSuccess ∧
        ((∃ task, r.Wants task) → a.status = 403)) ∧
    (r.header? "X-API-Key" = some key → ∀ (watch' : Stopwatch) (history' : List Visit),
      let other := (ofEnvironment keyless watch').after history'
      (other.watch = app.watch ∨ watch' = watch ∧ history' = history ∧
        ∀ v ∈ history, v.request.header? "X-API-Key" = some key) →
      (app.handle order w r).answer = (other.handle order w r).answer ∧
        (app.handle order w r).calls = (other.handle order w r).calls) := by
  intro app keyless
  have happ : app.Serves env := (serves_ofEnvironment env watch).after history
  constructor
  · intro hsurvey hheader
    have hadmits : admits app.settings.1 r = false := by
      rw [happ.settings.1, Bool.eq_false_iff]
      exact fun h => hheader ((admits_iff (Settings.apiKey_ofEnvironment hkey hne) hne).mp h)
    exact refused_of_not_admits hadmits hsurvey order w
  · intro hheader watch' history' other hclock
    have hother : other.Serves keyless := (serves_ofEnvironment keyless watch').after history'
    have hwatch : app.watch = other.watch := by
      rcases hclock with hwatch | ⟨rfl, rfl, hheaders⟩
      · exact hwatch.symm
      · exact watch_after_without_key hkey hne hheaders (serves_ofEnvironment env watch')
          (serves_ofEnvironment keyless watch') rfl
    have heffect := handle_without_key hkey hne hheader happ hother hwatch order w
    exact ⟨congrArg (·.1) heffect, congrArg (·.2.1) heffect⟩

end App

theorem isForSurvey_openBracket : openBracket.IsForSurvey :=
  ⟨_, _, send_openBracket, by decide⟩

/-- A service with a key, after a request that carries it, forbids one that does not, and answers
one that does as it would without a key. -/
theorem App.key_enforced_openBracket :
    let env : Environment := fun name => if name = "RECONLAB_API_KEY" then some "k" else none
    let keyed : Request := { openBracket with headers := [("X-API-Key", "k")] }
    let history : List Visit := [⟨.serial, .closed, keyed⟩]
    let app := (App.ofEnvironment env []).after history
    let other := (App.ofEnvironment (env.without "RECONLAB_API_KEY") []).after history
    openBracket.IsForSurvey ∧ openBracket.header? "X-API-Key" = none ∧
    keyed.header? "X-API-Key" = some "k" ∧
    (app.handle .serial .closed openBracket).calls = [] ∧
    (∃ a, (app.handle .serial .closed openBracket).answer = .ok a ∧ a.status = 403) ∧
    (app.handle .serial .closed keyed).answer = (other.handle .serial .closed keyed).answer := by
  intro env keyed history app other
  have hkey : env "RECONLAB_API_KEY" = some "k" := if_pos rfl
  have hne : Text.ofString "k" ≠ [] := by decide
  have hnone : openBracket.header? "X-API-Key" = none := rfl
  have hkeyed : keyed.header? "X-API-Key" = some "k" := by decide
  obtain ⟨hrefused, -⟩ :=
    App.key_enforced env "k" hkey hne [] history .serial .closed openBracket
  obtain ⟨-, hadmitted⟩ := App.key_enforced env "k" hkey hne [] history .serial .closed keyed
  obtain ⟨hcalls, a, ha, -, hstatus⟩ := hrefused isForSurvey_openBracket (by rw [hnone]; nofun)
  obtain ⟨path, bytes, kind, body, hsend, hroute, hbody, -, htask⟩ := asks_openBracket
  have hwants : ∃ task, openBracket.Wants task :=
    ⟨_, path, bytes, kind, body, hsend, hroute, hbody, htask⟩
  have hhistory : ∀ v ∈ history, v.request.header? "X-API-Key" = some "k" := by
    intro v hv
    rw [List.mem_singleton.mp hv]
    exact hkeyed
  exact ⟨isForSurvey_openBracket, hnone, hkeyed, hcalls, ⟨a, ha, hstatus hwants⟩,
    (hadmitted hkeyed [] history (.inr ⟨rfl, rfl, hhistory⟩)).1⟩

end Service

end NetSurvey
