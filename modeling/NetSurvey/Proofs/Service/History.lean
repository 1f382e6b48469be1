import NetSurvey.Proofs.Service.Refusal

/-!
# What a service keeps from one request to the next

What a request comes to depends on the service only where it is answered behind the key
(`App.handle_cases`), and there only on the settings and on the stopwatch. So a request leaves the
service with the settings that it had, and with a stopwatch that its task may have read
(`App.app_handle_cases`). That a service serves an environment is therefore kept by one request
(`App.Serves.handle`), and so by a whole history (`App.Serves.after`).
-/

namespace NetSurvey.Service

open Schedule Text

/-- A request as it comes in: with the network that its task meets, and the order in which the
probes end. -/
structure Visit where
  order : Order
  world : World
  request : Request

/-- The status of a success. -/
def Answer.IsSuccess (a : Answer) : Prop :=
  200 ≤ a.status ∧ a.status < 300

/-- A request is sent to the path of a task, and the task can be read from its body. -/
def Request.Wants (r : Request) (task : Task) : Prop :=
  ∃ path bytes kind body, r.send = .ok (path, bytes) ∧
    route (raised r.method) path = .ok (.task kind) ∧ readBody r bytes = .ok body ∧
    readTask kind body = .ok task

/-- The path of a request is one of the survey part of the service. -/
def Request.IsForSurvey (r : Request) : Prop :=
  ∃ path bytes, r.send = .ok (path, bytes) ∧ Text.ofString "/recon/" <+: path

/-- What a reply amounts to, its log aside: the answer, the calls, and the stopwatch that is
left. -/
def Reply.effect (reply : Reply) : Except NoAnswer Answer × List Call × Stopwatch :=
  (reply.answer, reply.calls, reply.app.watch)

/-! ### Routes behind the key -/

/-- Whether a route is behind the key. -/
def Route.isGuarded : Route → Bool
  | surveyHealth | task _ => true
  | root | health | manual => false

theorem isGuarded_of_findRoute? {path : Text} {route : Route}
    (hpath : Text.ofString "/recon/" <+: path) (h : findRoute? path = some route) :
    route.isGuarded = true := by
  have hroutes : ∀ r ∈ routes, (Text.ofString "/recon/" <+: r.1 ∨
      Text.ofString "/recon/" <+: r.1 ++ Text.ofString "\n") → r.2.isGuarded = true := by decide
  obtain ⟨r, hfind, rfl⟩ := Option.map_eq_some_iff.mp h
  have hr := List.find?_some hfind
  refine hroutes r (List.mem_of_find?_eq_some hfind) ?_
  rcases of_decide_eq_true hr with rfl | rfl
  · exact .inl hpath
  · exact .inr hpath

theorem not_isSuccess_of_route {method path : Text} {a : Answer}
    (h : route method path = .error a) : ¬a.IsSuccess := by
  have hdetail (status : Nat) (text : String) :
      (Answer.detail status text).status = status :=
    Answer.status_detail status (Text.isWhole_ofString text)
  rw [Answer.IsSuccess]
  rw [route] at h
  split at h
  · split at h
    · cases h
    · obtain rfl := Except.error.inj h
      rw [hdetail]
      decide
  · split at h
    · obtain rfl := Except.error.inj h
      decide
    · obtain rfl := Except.error.inj h
      rw [hdetail]
      decide

theorem not_isSuccess_of_readBody {r : Request} {bytes : List UInt8} {a : Answer}
    (h : readBody r bytes = .error a) : ¬a.IsSuccess := by
  have hunreadable : ¬unreadableBody.IsSuccess := by
    rw [Answer.IsSuccess, unreadableBody, Answer.status_detail 400 (Text.isWhole_ofString _)]
    decide
  have hinvalid : ¬(Answer.complaints [{ fault := .jsonInvalid }]).IsSuccess := by
    simp [Answer.IsSuccess, Answer.complaints, isWritable]
  rw [readBody] at h
  split at h
  · cases h
  split at h
  · rw [readJson] at h
    split at h
    · rwa [← Except.error.inj h]
    · split at h
      · cases h
      · rwa [← Except.error.inj h]
      · rwa [← Except.error.inj h]
  · cases h

namespace App

/-- A service that has not been asked for anything. -/
def ofEnvironment (env : Environment) (watch : Stopwatch) : App where
  environment := env
  watch := watch

/-- A service after a history of requests. -/
def after (app : App) (history : List Visit) : App :=
  history.foldl (fun app v => (app.handle v.order v.world v.request).app) app

variable {order : Order} {w : World} {app : App} {r : Request}

/-! ### What a request comes to -/

/-- What every service answers in the same way: it is not a success for the survey part. -/
def Settles (r : Request) (answer : Except NoAnswer Answer) : Prop :=
  (r.IsForSurvey → ∃ a, answer = .ok a ∧ ¬a.IsSuccess) ∧
    ∀ order w (app : App), app.handle order w r = ⟨answer, [], [], app⟩

variable {path : Text} {bytes : List UInt8}

/-- An answer that is found before the key is checked. -/
theorem exists_settles {a : Answer} (hsend : r.send = .ok (path, bytes))
    (hanswer : ∀ order w (app : App),
      app.answer order w r (raised r.method) path bytes = app.plainly a [])
    (hsuccess : Text.ofString "/recon/" <+: path → ¬a.IsSuccess) :
    ∃ answer, Settles r answer := by
  refine ⟨.ok (if raised r.method = "HEAD" then a.withoutBody else a), ?_, ?_⟩
  · rintro ⟨path, bytes, hsent, hpath⟩
    obtain ⟨rfl, rfl⟩ := Prod.mk.inj (Except.ok.inj (hsend.symm.trans hsent))
    -- Leaving the body out keeps the status.
    refine ⟨_, rfl, ?_⟩
    split <;> exact hsuccess hpath
  · intro order w app
    simp only [handle, hsend, hanswer]
    split <;> rfl

/-- Behind the key no request is for the head only. -/
theorem handle_of_isGuarded {found : Route} (hsend : r.send = .ok (path, bytes))
    (hroute : route (raised r.method) path = .ok found) (hguarded : found.isGuarded = true)
    (order : Order) (w : World) (app : App) :
    app.handle order w r = app.answer order w r (raised r.method) path bytes := by
  have hhead : raised r.method ≠ "HEAD" := by
    intro hhead
    have hmethod := (of_route_eq_ok hroute).2
    rw [hhead] at hmethod
    cases found with
    | surveyHealth | task => exact absurd (List.mem_singleton.mp hmethod) (by decide)
    | root | health | manual => cases hguarded
  simp only [handle, hsend, if_neg hhead]

/-- A task that a request wants is carried out behind the key. -/
theorem handle_of_wants {task : Task} (h : r.Wants task) (order : Order) (w : World) (app : App) :
    app.handle order w r = app.guarded r fun app s entries =>
      { app.perform order w s task with log := entries ++ (app.perform order w s task).log } := by
  obtain ⟨path, bytes, kind, body, hsend, hroute, hbody, htask⟩ := h
  rw [handle_of_isGuarded hsend hroute rfl]
  simp only [answer, hroute, hbody, htask]

/-- **What a request comes to.** Either every service answers it in the same way; or it is answered
behind the key, in the same way by every service that lets it pass; or there is a task behind the
key, which is carried out. -/
theorem handle_cases (r : Request) :
    (∃ answer, Settles r answer) ∨
    (∃ a, ∀ order w (app : App), app.handle order w r =
      app.guarded r fun app _ entries => app.plainly a entries) ∨
    ∃ task, r.Wants task ∧ ∀ order w (app : App),
      app.handle order w r = app.guarded r fun app s entries =>
        { app.perform order w s task with log := entries ++ (app.perform order w s task).log } := by
  cases hsend : r.send with
  | error cause =>
    refine .inl ⟨.error (.unsent cause), ?_, fun order w app => by simp only [handle, hsend]⟩
    rintro ⟨path, bytes, hsent, -⟩
    cases hsend.symm.trans hsent
  | ok sent =>
    obtain ⟨path, bytes⟩ := sent
    cases hroute : route (raised r.method) path with
    | error a =>
      exact .inl (exists_settles hsend (fun order w app => by simp only [answer, hroute])
        fun _ => not_isSuccess_of_route hroute)
    | ok found =>
      have hhandle := handle_of_isGuarded hsend hroute
      cases found with
      | root | health | manual =>
        refine .inl (exists_settles hsend (fun order w app => by simp only [answer, hroute]; rfl)
          fun hpath => ?_)
        cases isGuarded_of_findRoute? hpath (of_route_eq_ok hroute).1
      | surveyHealth =>
        refine .inr (.inl ⟨⟨200, .record [("status", .text "healthy"),
          ("module", .text "reconnaissance")]⟩, fun order w app => ?_⟩)
        rw [hhandle rfl]
        simp only [answer, hroute]
      | task kind =>
        cases hbody : readBody r bytes with
        | error a =>
          exact .inl (exists_settles hsend (fun order w app => by simp only [answer, hroute, hbody])
            fun _ => not_isSuccess_of_readBody hbody)
        | ok body =>
          cases htask : readTask kind body with
          | error complaints =>
            refine .inr (.inl ⟨.complaints complaints, fun order w app => ?_⟩)
            rw [hhandle rfl]
            simp only [answer, hroute, hbody, htask]
          | ok task =>
            have hwants : r.Wants task := ⟨_, _, kind, body, hsend, hroute, hbody, htask⟩
            exact .inr (.inr ⟨task, hwants, handle_of_wants hwants⟩)

/-! ### Behind the key -/

theorem guarded_of_admits {answer : App → Settings → List Entry → Reply}
    (h : admits app.settings.1 r = true) :
    app.guarded r answer = answer app.settings.2.2 app.settings.1 app.settings.2.1 := by
  simp only [guarded, h, if_true]

theorem guarded_of_not_admits {answer : App → Settings → List Entry → Reply}
    (h : admits app.settings.1 r = false) :
    app.guarded r answer =
      app.settings.2.2.plainly (.detail 403 "Invalid or missing API Key") app.settings.2.1 := by
  simp only [guarded, h, Bool.false_eq_true, if_false]

/-- Two services that both let a request pass, or both do not, come to the same with it, as far as a
view goes, if they do so where the request is answered at once and for the task that it wants. -/
theorem handle_congr {β : Type} (view : Except NoAnswer Answer × List Call × Stopwatch → β)
    {app₁ app₂ : App} {s₁ s₂ : Settings} (hs₁ : app₁.settings.1 = s₁) (hs₂ : app₂.settings.1 = s₂)
    (hadmits : admits s₁ r = admits s₂ r)
    (hplainly : ∀ answer, view (answer, [], app₁.watch) = view (answer, [], app₂.watch))
    (hperform : ∀ task, r.Wants task →
      view (app₁.perform order w s₁ task).effect = view (app₂.perform order w s₂ task).effect) :
    view (app₁.handle order w r).effect = view (app₂.handle order w r).effect := by
  subst hs₁ hs₂
  have hsettled (a : Answer) : view (app₁.settings.2.2.plainly a app₁.settings.2.1).effect =
      view (app₂.settings.2.2.plainly a app₂.settings.2.1).effect := by
    simpa only [Reply.effect, plainly, watch_settings] using hplainly (.ok a)
  rcases handle_cases r with ⟨answer, -, h⟩ | ⟨a, h⟩ | ⟨task, hwants, h⟩
  · rw [h, h]
    exact hplainly answer
  · rw [h, h]
    cases hadmits₁ : admits app₁.settings.1 r with
    | true =>
      rw [guarded_of_admits hadmits₁, guarded_of_admits (hadmits ▸ hadmits₁)]
      exact hsettled a
    | false =>
      rw [guarded_of_not_admits hadmits₁, guarded_of_not_admits (hadmits ▸ hadmits₁)]
      exact hsettled _
  · rw [h, h]
    cases hadmits₁ : admits app₁.settings.1 r with
    | true =>
      rw [guarded_of_admits hadmits₁, guarded_of_admits (hadmits ▸ hadmits₁)]
      -- Reading the settings leaves the stopwatch, which is all that a task sees of a service.
      simpa only [Reply.effect, perform, watch_settings] using hperform task hwants
    | false =>
      rw [guarded_of_not_admits hadmits₁, guarded_of_not_admits (hadmits ▸ hadmits₁)]
      exact hsettled _

/-- Two services with the same stopwatch, whose settings let a request pass alike and make no
difference to a task, come to the same with it. -/
theorem handle_lockstep {app₁ app₂ : App} {s₁ s₂ : Settings} (hs₁ : app₁.settings.1 = s₁)
    (hs₂ : app₂.settings.1 = s₂) (hadmits : admits s₁ r = admits s₂ r)
    (hperform : ∀ task : Task, task.perform order w s₁ = task.perform order w s₂)
    (hwatch : app₁.watch = app₂.watch) :
    (app₁.handle order w r).effect = (app₂.handle order w r).effect := by
  refine handle_congr id hs₁ hs₂ hadmits (fun answer => by rw [hwatch]) fun task _ => ?_
  simp only [Reply.effect, perform, hperform, hwatch]

/-- What a service is left with: it is as it was, or has the settings read, or has also carried a
task out. -/
theorem app_handle_cases (order : Order) (w : World) (app : App) (r : Request) :
    (app.handle order w r).app = app ∨ (app.handle order w r).app = app.settings.2.2 ∨
      ∃ task : Task, (app.handle order w r).app = { app.settings.2.2 with
        watch := ((task.perform order w app.settings.1).run app.watch).state } := by
  rcases handle_cases r with ⟨answer, -, h⟩ | ⟨a, h⟩ | ⟨task, -, h⟩
  · exact .inl (by rw [h])
  · refine .inr (.inl ?_)
    rw [h]
    cases hadmits : admits app.settings.1 r with
    | true => rw [guarded_of_admits hadmits]; rfl
    | false => rw [guarded_of_not_admits hadmits]; rfl
  · rw [h]
    cases hadmits : admits app.settings.1 r with
    | true =>
      refine .inr (.inr ⟨task, ?_⟩)
      rw [guarded_of_admits hadmits, ← watch_settings]
      rfl
    | false =>
      refine .inr (.inl ?_)
      rw [guarded_of_not_admits hadmits]
      rfl

/-! ### What stays -/

/-- A service that serves an environment: its settings are those of the environment, once they have
been read. -/
structure Serves (env : Environment) (app : App) : Prop where
  environment_eq : app.environment = env
  replaced_eq : app.replaced = none
  cached_eq : ∀ s ∈ app.cached, s = (Settings.ofEnvironment env).1

variable {env : Environment}

theorem serves_ofEnvironment (env : Environment) (watch : Stopwatch) :
    (ofEnvironment env watch).Serves env where
  environment_eq := rfl
  replaced_eq := rfl
  cached_eq s hs := absurd hs (Option.not_mem_none s)

namespace Serves

/-- Reading the settings gives those of the environment and keeps them. -/
theorem settings (h : app.Serves env) :
    app.settings.1 = (Settings.ofEnvironment env).1 ∧ app.settings.2.2.Serves env := by
  have hreplaced := h.replaced_eq
  cases hs : app.cached with
  | some s =>
    have hsettings : app.settings = (s, [], app) := by simp only [App.settings, hreplaced, hs]
    rw [hsettings]
    exact ⟨h.cached_eq s hs, h⟩
  | none =>
    obtain ⟨entries, hsettings⟩ : ∃ entries, app.settings =
        ((Settings.ofEnvironment app.environment).1, entries,
          { app with cached := some (Settings.ofEnvironment app.environment).1 }) := by
      simp only [App.settings, hreplaced, hs]
      exact ⟨_, rfl⟩
    obtain rfl := h.environment_eq
    rw [hsettings]
    refine ⟨rfl, rfl, hreplaced, fun s hs => ?_⟩
    rw [Option.mem_some.mp hs]

/-- One request leaves a service as one that serves the environment. -/
theorem handle (h : app.Serves env) (order : Order) (w : World) (r : Request) :
    (app.handle order w r).app.Serves env := by
  rcases app_handle_cases order w app r with happ | happ | ⟨task, happ⟩
  · rwa [happ]
  · rw [happ]
    exact h.settings.2
  · rw [happ]
    exact ⟨h.settings.2.environment_eq, h.settings.2.replaced_eq, h.settings.2.cached_eq⟩

/-- And so does a whole history. -/
theorem after (h : app.Serves env) (history : List Visit) : (app.after history).Serves env := by
  induction history generalizing app with
  | nil => exact h
  | cons v history ih => exact ih (h.handle v.order v.world v.request)

end Serves

end App

end NetSurvey.Service
