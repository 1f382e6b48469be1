import NetSurvey.Activity

/-!
# Reasoning about activities

Ways to speak about an activity without opening it. `Yields` says what holds of every result that it
comes to, from whatever state. `CallsOnly` and `MakesCall` say what it calls, and that it calls at
all. `Agrees` compares two activities in all but their logs: the same result, the same state at the
end, and the same calls. Most of what an activity does before the first call is only logged, so in
that sense it agrees with the plain result of a calculation (`ofExcept`), and what follows can be
compared with what follows the calculation.
-/

namespace NetSurvey

/-! ### Results -/

/-- Mapping the result of a calculation keeps its failure. -/
theorem map_eq_error_iff {ε α β : Type} {r : Except ε α} {f : α → β} {e : ε} :
    r.map f = .error e ↔ r = .error e := by
  cases r <;> simp [Except.map]

/-- A mapped result comes from a result. -/
theorem map_eq_ok_iff {ε α β : Type} {r : Except ε α} {f : α → β} {b : β} :
    r.map f = .ok b ↔ ∃ a, r = .ok a ∧ f a = b := by
  cases r <;> simp [Except.map]

/-- That a calculation comes to a result can be decided where results can be compared, also if
failures cannot. -/
theorem toOption_eq_some_iff {ε α : Type} {r : Except ε α} {a : α} :
    r.toOption = some a ↔ r = .ok a := by
  cases r <;> simp [Except.toOption]

theorem ok_bind {ε α β : Type} (a : α) (f : α → Except ε β) : (Except.ok a >>= f) = f a := rfl

/-- Two calculations come to a result exactly if the first one does, and the second one does from
there. -/
theorem bind_eq_ok_iff {ε α β : Type} {r : Except ε α} {f : α → Except ε β} {b : β} :
    r >>= f = .ok b ↔ ∃ a, r = .ok a ∧ f a = .ok b := by
  cases r <;> simp [bind, Except.bind]

/-- Naming failures in another way does not touch the results. -/
theorem mapError_eq_ok_iff {ε ε' α : Type} {r : Except ε α} {f : ε → ε'} {a : α} :
    r.mapError f = .ok a ↔ r = .ok a := by
  cases r with
  | error e => exact ⟨nofun, nofun⟩
  | ok b =>
    exact ⟨fun h => congrArg Except.ok (Except.ok.inj h), fun h => congrArg _ (Except.ok.inj h)⟩

/-- A failure of a probe has nothing but its text. -/
theorem Failure.exists_of_isProbe {e : Failure} (h : e.isProbe = true) :
    ∃ text, e = .probe text := by
  cases e with
  | probe text => exact ⟨text, rfl⟩
  | _ => cases h

namespace Activity

variable {σ α β : Type}

/-! ### Steps one after the other -/

theorem pure_bind (a : α) (f : α → Activity σ β) :
    ((pure a : Activity σ α) >>= f) = f a := rfl

/-- A calculation that comes to a result does nothing but hand it on. -/
theorem ofExcept_ok_bind (a : α) (f : α → Activity σ β) :
    (ofExcept (.ok a) >>= f) = f a := rfl

theorem ofArithmetic_ok_bind (a : α) (f : α → Activity σ β) :
    (ofArithmetic (.ok a) >>= f) = f a := rfl

/-- A step that ends without a result ends everything that was to follow. -/
theorem result_bind (x : Activity σ α) (f : α → Activity σ β) (s : σ) :
    ((x >>= f).run s).result =
      (x.run s).result >>= fun a => ((f a).run (x.run s).state).result := by
  cases hx : x.run s with
  | mk result t calls log =>
    cases result with
    | ok a => rw [run_bind_of_ok hx]; rfl
    | error e => rw [run_bind_of_error hx]; rfl

/-- After a first step that comes to a result, the result is that of the second, from the state in
which the first one ended. -/
theorem result_bind_of_ok {x : Activity σ α} {f : α → Activity σ β} {s : σ} {a : α}
    (h : (x.run s).result = .ok a) :
    ((x >>= f).run s).result = ((f a).run (x.run s).state).result := by
  rw [result_bind, h]
  rfl

theorem result_bind_of_error {x : Activity σ α} {f : α → Activity σ β} {s : σ} {e : Failure}
    (h : (x.run s).result = .error e) : ((x >>= f).run s).result = .error e := by
  rw [result_bind, h]
  rfl

/-- What would have followed a step that fails makes no calls. -/
theorem calls_bind_of_error {x : Activity σ α} {f : α → Activity σ β} {s : σ} {e : Failure}
    (h : (x.run s).result = .error e) : ((x >>= f).run s).calls = (x.run s).calls := by
  cases hx : x.run s with
  | mk result t calls log =>
    rw [hx] at h
    obtain rfl : result = .error e := h
    rw [run_bind_of_error hx]

/-- The calls of the first step are made whatever follows. -/
theorem calls_prefix_bind (x : Activity σ α) (f : α → Activity σ β) (s : σ) :
    (x.run s).calls <+: ((x >>= f).run s).calls := by
  cases hx : x.run s with
  | mk result t calls log =>
    cases result with
    | ok a =>
      rw [run_bind_of_ok hx]
      exact List.prefix_append ..
    | error e => simpa only [run_bind_of_error hx] using List.prefix_refl calls

/-- An attempt at what comes to a result comes to it, as a success. -/
theorem result_attempt_of_ok {x : Activity σ α} {s : σ} {a : α} (h : (x.run s).result = .ok a) :
    ((attempt x).run s).result = .ok (.ok a) := by
  cases hx : x.run s with
  | mk result t calls log =>
    rw [hx] at h
    obtain rfl : result = .ok a := h
    rw [run_attempt_of_ok hx]

/-- A failure that a probe reports is a result of the attempt. -/
theorem result_attempt_of_probe {x : Activity σ α} {s : σ} {text : Text}
    (h : (x.run s).result = .error (.probe text)) :
    ((attempt x).run s).result = .ok (.error text) := by
  cases hx : x.run s with
  | mk result t calls log =>
    rw [hx] at h
    obtain rfl : result = .error (.probe text) := h
    rw [run_attempt_of_probe hx]

/-- Any other failure stays one. -/
theorem result_attempt_of_error {x : Activity σ α} {s : σ} {e : Failure} (he : e.isProbe = false)
    (h : (x.run s).result = .error e) : ((attempt x).run s).result = .error e := by
  rw [run] at h ⊢
  rw [attempt]
  cases hx : x s with
  | mk result t calls log =>
    rw [hx] at h
    obtain rfl : result = .error e := h
    cases e with
    | probe text => cases he
    | _ => rfl

/-- An attempt at what fails otherwise than a probe does is no different from it at all. -/
theorem run_attempt_of_error {x : Activity σ α} {s t : σ} {e : Failure} {calls : List Call}
    {log : List Entry} (he : e.isProbe = false) (h : x.run s = ⟨.error e, t, calls, log⟩) :
    (attempt x).run s = ⟨.error e, t, calls, log⟩ := by
  rw [run] at h ⊢
  rw [attempt, h]
  cases e with
  | probe text => cases he
  | _ => rfl

/-! ### What holds of every result -/

/-- Every result that an activity comes to has a property. -/
def Yields (x : Activity σ α) (P : α → Prop) : Prop :=
  ∀ s a, (x.run s).result = .ok a → P a

namespace Yields

variable {P : α → Prop} {Q : β → Prop}

theorem pure {a : α} (h : P a) : (Pure.pure a : Activity σ α).Yields P := by
  rintro s b hb
  rwa [← Except.ok.inj hb]

/-- What fails yields anything, since it comes to nothing. -/
theorem throw {e : Failure} : (throw e : Activity σ α).Yields P :=
  nofun

theorem imp {x : Activity σ α} {P' : α → Prop} (hx : x.Yields P) (h : ∀ a, P a → P' a) :
    x.Yields P' := fun s a ha => h a (hx s a ha)

/-- What follows a result yields what it yields after any result of the first step. -/
theorem bind_of {x : Activity σ α} {f : α → Activity σ β} (hx : x.Yields P)
    (hf : ∀ a, P a → (f a).Yields Q) : (x >>= f).Yields Q := by
  intro s b hb
  rw [result_bind] at hb
  cases hres : (x.run s).result with
  | error e => rw [hres] at hb; cases hb
  | ok a =>
    rw [hres] at hb
    exact hf a (hx s a hres) _ b hb

/-- What is yielded after every result of the first step need not be known of the first step. -/
theorem bind {x : Activity σ α} {f : α → Activity σ β} (hf : ∀ a, (f a).Yields Q) :
    (x >>= f).Yields Q :=
  bind_of (P := fun _ => True) (fun _ _ _ => trivial) fun a _ => hf a

/-- An attempt that succeeds yields what is yielded without it. -/
theorem attempt {x : Activity σ α} (hx : x.Yields P) :
    (attempt x).Yields fun answer => ∀ a, answer = .ok a → P a := by
  rintro s answer hanswer a rfl
  cases hresult : (x.run s).result with
  | ok b =>
    rw [result_attempt_of_ok hresult] at hanswer
    obtain rfl := Except.ok.inj (Except.ok.inj hanswer)
    exact hx s b hresult
  | error e =>
    by_cases hprobe : e.isProbe = true
    · obtain ⟨text, rfl⟩ := Failure.exists_of_isProbe hprobe
      rw [result_attempt_of_probe hresult] at hanswer
      cases hanswer
    · rw [result_attempt_of_error (Bool.eq_false_iff.mpr hprobe) hresult] at hanswer
      cases hanswer

end Yields

/-! ### What is called -/

/-- All calls of an activity have a property. -/
def CallsOnly (p : Call → Prop) (x : Activity σ α) : Prop :=
  ∀ s, ∀ c ∈ (x.run s).calls, p c

namespace CallsOnly

variable {p : Call → Prop}

theorem pure (a : α) : (Pure.pure a : Activity σ α).CallsOnly p := fun _ => nofun

theorem throw (e : Failure) : (throw e : Activity σ α).CallsOnly p := fun _ => nofun

theorem current : (current : Activity σ σ).CallsOnly p := fun _ => nofun

theorem change (f : σ → σ) : (change f).CallsOnly p := fun _ => nofun

theorem note (entries : List Entry) : (note entries : Activity σ Unit).CallsOnly p := fun _ => nofun

theorem ofExcept (r : Except Failure α) : (ofExcept r : Activity σ α).CallsOnly p := fun _ => nofun

/-- A single call is all that is called. -/
theorem call {c : Call} (h : p c) : (call c : Activity σ Unit).CallsOnly p := by
  intro s c' hc
  rwa [List.mem_singleton.mp hc]

/-- The calls of two steps are those of the first and, if it comes to a result, those of the
second. -/
theorem bind {x : Activity σ α} {f : α → Activity σ β} (hx : x.CallsOnly p)
    (hf : ∀ a, (f a).CallsOnly p) : (x >>= f).CallsOnly p := by
  intro s c hc
  cases hrun : x.run s with
  | mk result t calls log =>
    have hfirst := hx s c
    rw [hrun] at hfirst
    cases result with
    | error e =>
      rw [run_bind_of_error hrun] at hc
      exact hfirst hc
    | ok a =>
      rw [run_bind_of_ok hrun] at hc
      obtain hc | hc := List.mem_append.mp hc
      · exact hfirst hc
      · exact hf a t c hc

end CallsOnly

/-- An activity makes no calls. -/
def Quiet (x : Activity σ α) : Prop :=
  x.CallsOnly fun _ => False

/-- What is quiet has made no calls when it ends, from whatever state. -/
theorem Quiet.calls_eq {x : Activity σ α} (h : x.Quiet) (s : σ) : (x.run s).calls = [] :=
  List.eq_nil_iff_forall_not_mem.mpr (h s)

/-- What makes no calls adds none to those that were made before. -/
theorem calls_bind_of_quiet {x : Activity σ α} {f : α → Activity σ β} (hf : ∀ a, (f a).Quiet)
    (s : σ) : ((x >>= f).run s).calls = (x.run s).calls := by
  cases hx : x.run s with
  | mk result t calls log =>
    cases result with
    | error e => rw [run_bind_of_error hx]
    | ok a => rw [run_bind_of_ok hx, (hf a).calls_eq, List.append_nil]

/-- An attempt turns a failure into a result, and the calls before it are made all the same. -/
theorem calls_attempt (x : Activity σ α) (s : σ) : ((attempt x).run s).calls = (x.run s).calls := by
  rw [run, run, attempt]
  cases x s with
  | mk result t calls log =>
    cases result with
    | ok a => rfl
    | error e => cases e <;> rfl

/-- An attempt calls what is called without it. -/
theorem CallsOnly.attempt {p : Call → Prop} {x : Activity σ α} (hx : x.CallsOnly p) :
    (attempt x).CallsOnly p := by
  intro s
  rw [calls_attempt]
  exact hx s

/-- An activity makes at least one call. -/
def MakesCall (x : Activity σ α) : Prop :=
  ∀ s, (x.run s).calls ≠ []

namespace MakesCall

theorem call (c : Call) : (call c : Activity σ Unit).MakesCall := fun _ => List.cons_ne_nil c []

/-- A call that was made stays made. -/
theorem bind {x : Activity σ α} {f : α → Activity σ β} (hx : x.MakesCall) :
    (x >>= f).MakesCall := by
  intro s hnil
  have hprefix := calls_prefix_bind x f s
  rw [hnil, List.prefix_nil] at hprefix
  exact hx s hprefix

/-- A call is made after a step that always comes to a result. -/
theorem of_bind {x : Activity σ α} {f : α → Activity σ β} (hx : ∀ s, ∃ a, (x.run s).result = .ok a)
    (hf : ∀ a, (f a).MakesCall) : (x >>= f).MakesCall := by
  intro s
  obtain ⟨a, ha⟩ := hx s
  cases hrun : x.run s with
  | mk result t calls log =>
    rw [hrun] at ha
    obtain rfl : result = .ok a := ha
    rw [run_bind_of_ok hrun]
    exact List.append_ne_nil_of_right_ne_nil _ (hf a t)

/-- An attempt at what makes a call makes it. -/
theorem attempt {x : Activity σ α} (hx : x.MakesCall) : (attempt x).MakesCall := by
  intro s
  rw [calls_attempt]
  exact hx s

end MakesCall

/-! ### The same but for the log -/

/-- Two activities do the same, but for what they log. -/
def Agrees (x y : Activity σ α) : Prop :=
  ∀ s, (x.run s).result = (y.run s).result ∧ (x.run s).state = (y.run s).state ∧
    (x.run s).calls = (y.run s).calls

namespace Agrees

variable {x y z : Activity σ α}

theorem refl (x : Activity σ α) : x.Agrees x := fun _ => ⟨rfl, rfl, rfl⟩

/-- Agreement is transitive. -/
theorem trans (hxy : x.Agrees y) (hyz : y.Agrees z) : x.Agrees z := by
  intro s
  obtain ⟨hr, hs, hc⟩ := hxy s
  obtain ⟨hr', hs', hc'⟩ := hyz s
  exact ⟨hr.trans hr', hs.trans hs', hc.trans hc'⟩

/-- Agreement goes on from step to step: the states in which the first steps end are the same, and
what follows does not see the logs. -/
theorem bind {f g : α → Activity σ β} (hxy : x.Agrees y) (hfg : ∀ a, (f a).Agrees (g a)) :
    (x >>= f).Agrees (y >>= g) := by
  intro s
  obtain ⟨hr, hs, hc⟩ := hxy s
  cases hx : x.run s with
  | mk result t calls log =>
    cases hy : y.run s with
    | mk result' t' calls' log' =>
      -- The first steps differ in their logs only, so what follows starts from the same state.
      rw [hx, hy] at hr hs hc
      dsimp only at hr hs hc
      subst hr hs hc
      cases result with
      | error e => rw [run_bind_of_error hx, run_bind_of_error hy]; exact ⟨rfl, rfl, rfl⟩
      | ok a =>
        obtain ⟨hr, hs, hc⟩ := hfg a t
        rw [run_bind_of_ok hx, run_bind_of_ok hy]
        exact ⟨hr, hs, congrArg (calls ++ ·) hc⟩

/-- Writing to the log first changes nothing else. -/
theorem note_bind (entries : List Entry) (f : Unit → Activity σ α) :
    (note entries >>= f).Agrees (f ()) := fun _ => ⟨rfl, rfl, rfl⟩

/-- After a calculation that came to a result, what follows is all that is done. -/
theorem bind_ok {f : α → Activity σ β} {a : α} (h : x.Agrees (ofExcept (.ok a))) :
    (x >>= f).Agrees (f a) :=
  h.bind fun a => refl (f a)

/-- After a calculation that failed, nothing else is done. -/
theorem bind_error {f : α → Activity σ β} {e : Failure} (h : x.Agrees (ofExcept (.error e))) :
    (x >>= f).Agrees (throw e) :=
  h.bind fun a => refl (f a)

/-- A part of what follows a calculation may be taken for a part of the calculation. -/
theorem ofExcept_map_bind {γ : Type} (r : Except Failure α) (g : α → β) (f : β → Activity σ γ) :
    (ofExcept r >>= fun a => f (g a)).Agrees (ofExcept (r.map g) >>= f) := by
  cases r with
  | error e => exact refl _
  | ok a => exact refl _

end Agrees

/-! ### Calculations -/

/-- An activity only calculates: it comes to the same result in every state, changes nothing and
makes no calls. -/
def IsCalculation (x : Activity σ α) : Prop :=
  ∃ r, x.Agrees (ofExcept r)

namespace IsCalculation

theorem pure (a : α) : (Pure.pure a : Activity σ α).IsCalculation := ⟨.ok a, .refl _⟩

theorem throw (e : Failure) : (throw e : Activity σ α).IsCalculation := ⟨.error e, .refl _⟩

/-- Writing to the log is a calculation of nothing, since the log is not compared. -/
theorem note (entries : List Entry) : (note entries : Activity σ Unit).IsCalculation :=
  ⟨.ok (), fun _ => ⟨rfl, rfl, rfl⟩⟩

/-- A plain result is a calculation. -/
theorem ofExcept (r : Except Failure α) : (ofExcept r : Activity σ α).IsCalculation :=
  ⟨r, .refl _⟩

/-- Calculations one after the other are one calculation. If the first one fails, that is its
failure. -/
theorem bind {x : Activity σ α} {f : α → Activity σ β} (hx : x.IsCalculation)
    (hf : ∀ a, (f a).IsCalculation) : (x >>= f).IsCalculation := by
  obtain ⟨r, hr⟩ := hx
  cases r with
  | error e => exact ⟨.error e, hr.bind_error⟩
  | ok a =>
    obtain ⟨r, hf⟩ := hf a
    exact ⟨r, hr.bind_ok.trans hf⟩

end IsCalculation

/-! ### The state -/

/-- An activity keeps a property of the state. -/
def Keeps (P : σ → Prop) (x : Activity σ α) : Prop :=
  ∀ s, P s → P (x.run s).state

namespace Keeps

variable {P : σ → Prop}

theorem pure (a : α) : (Pure.pure a : Activity σ α).Keeps P := fun _ h => h

theorem ofExcept (r : Except Failure α) : (ofExcept r : Activity σ α).Keeps P := fun _ h => h

theorem note (entries : List Entry) : (note entries : Activity σ Unit).Keeps P := fun _ h => h

/-- A property that both steps keep is kept by them together, also where the second is not
reached. -/
theorem bind {x : Activity σ α} {f : α → Activity σ β} (hx : x.Keeps P) (hf : ∀ a, (f a).Keeps P) :
    (x >>= f).Keeps P := by
  intro s hs
  have hfirst := hx s hs
  cases hrun : x.run s with
  | mk result t calls log =>
    rw [hrun] at hfirst
    cases result with
    | error e => rwa [run_bind_of_error hrun]
    | ok a =>
      rw [run_bind_of_ok hrun]
      exact hf a t hfirst

/-- What is kept depends on the state alone, so an activity keeps what one that agrees with it
keeps. -/
theorem of_agrees {x y : Activity σ α} (h : x.Agrees y) (hy : y.Keeps P) : x.Keeps P := by
  intro s hs
  rw [(h s).2.1]
  exact hy s hs

end Keeps

/-- An activity that does not look at the state, and leaves it as it is. -/
def IsStateless (x : Activity σ α) : Prop :=
  ∃ result calls log, ∀ s, x.run s = ⟨result, s, calls, log⟩

namespace IsStateless

theorem pure (a : α) : (Pure.pure a : Activity σ α).IsStateless := ⟨_, _, _, fun _ => rfl⟩

theorem throw (e : Failure) : (throw e : Activity σ α).IsStateless := ⟨_, _, _, fun _ => rfl⟩

theorem ofExcept (r : Except Failure α) : (ofExcept r : Activity σ α).IsStateless :=
  ⟨_, _, _, fun _ => rfl⟩

/-- Two steps that do not look at the state do not look at it together: the second is told the
result of the first, which does not depend on the state. -/
theorem bind {x : Activity σ α} {f : α → Activity σ β} (hx : x.IsStateless)
    (hf : ∀ a, (f a).IsStateless) : (x >>= f).IsStateless := by
  obtain ⟨result, calls, log, hrun⟩ := hx
  cases result with
  | error e => exact ⟨_, _, _, fun s => run_bind_of_error (hrun s)⟩
  | ok a =>
    obtain ⟨result', calls', log', hrun'⟩ := hf a
    refine ⟨result', calls ++ calls', log ++ log', fun s => ?_⟩
    rw [run_bind_of_ok (hrun s), hrun']

/-- What leaves the state as it is keeps every property of it. -/
theorem keeps {x : Activity σ α} (h : x.IsStateless) (P : σ → Prop) : x.Keeps P := by
  obtain ⟨result, calls, log, hrun⟩ := h
  intro s hs
  rwa [hrun]

end IsStateless

end Activity

end NetSurvey
