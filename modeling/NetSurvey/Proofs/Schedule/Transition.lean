import Mathlib.Logic.Relation
import NetSurvey.Schedule.Run

/-!
# What one step can do

`State.step` is told who moves. `Transition` lists what can happen: it has one constructor for each
thing that the launcher or a worker does, with its guard and with everything that it changes. The
two agree (`moves_iff_transition`), so an invariant of all runs is a case split over `Transition`
and never opens `State.step`.

`Reaches` is the closure of `Moves`: steps of the launcher and of the workers, in any order. A run
that is driven by an order is one of them (`reaches_drive`).
-/

namespace NetSurvey

namespace Schedule

variable {α τ : Type}

/-- Somebody takes a step. -/
def Moves (plan : Plan α) (s t : State α) : Prop :=
  ∃ actor, s.step plan actor = some t

/-- Steps in some order lead from one moment to another. -/
def Reaches (plan : Plan α) : State α → State α → Prop :=
  Relation.ReflTransGen (Moves plan)

/-- What can happen at a moment of a run: nine things that the launcher does, and five that a worker
does. -/
inductive Transition (plan : Plan α) (s : State α) : State α → Prop where
  | beginDrain (hl : s.launcher = .ready) (hp : s.pending = []) :
      Transition plan s { s with launcher := .draining 0 }
  | acquire {a : α} {rest : List α} (hl : s.launcher = .ready) (hp : s.pending = a :: rest)
      (hfree : 0 < s.gate.free) :
      Transition plan s { s with
        gate := { s.gate with free := s.gate.free - 1 }
        launcher := .holding }
  | refuse {a : α} {rest : List α} (hl : s.launcher = .holding) (hp : s.pending = a :: rest)
      (hr : plan.refusesStart s.launched = true) :
      Transition plan s { s with launcher := .refused }
  | launch {a : α} {rest : List α} (hl : s.launcher = .holding) (hp : s.pending = a :: rest)
      (hr : plan.refusesStart s.launched = false) :
      Transition plan s { s with
        launcher := .ready
        pending := rest
        launched := s.launched + 1
        workers := s.workers ++ [⟨s.launched, a, .started⟩] }
  | giveUp (hl : s.launcher = .refused) :
      Transition plan s { s with gate := s.gate.release, launcher := .gaveUp }
  | drain {held : Nat} (hl : s.launcher = .draining held) (hlt : held < s.gate.capacity)
      (hfree : 0 < s.gate.free) :
      Transition plan s { s with
        gate := { s.gate with free := s.gate.free - 1 }
        launcher := .draining (held + 1) }
  | beginRefill {held : Nat} (hl : s.launcher = .draining held) (hge : s.gate.capacity ≤ held) :
      Transition plan s { s with launcher := .refilling s.gate.capacity }
  | refill {held : Nat} (hl : s.launcher = .refilling (held + 1)) :
      Transition plan s { s with gate := s.gate.release, launcher := .refilling held }
  | finish (hl : s.launcher = .refilling 0) :
      Transition plan s { s with launcher := .returned, log := s.log.add s.finishedEntry }
  | enter {before after : List (Worker α)} {w : Worker α}
      (hs : s.workers = before ++ w :: after) (hw : w.stage = .started) :
      Transition plan s { s with
        load := s.load.enter
        workers := before ++ { w with stage := .probing } :: after }
  | probe {before after : List (Worker α)} {w : Worker α}
      (hs : s.workers = before ++ w :: after) (hw : w.stage = .probing) :
      Transition plan s { s with
        workers := before ++ { w with stage := .settled (plan.outcome w.candidate) } :: after
        calls := s.calls.addAll (plan.probe w.candidate).calls
        log := (s.log.addAll (plan.probe w.candidate).log).addAll (plan.settled w.candidate).2 }
  | record {before after : List (Worker α)} {w : Worker α} {outcome : Option Outcome}
      (hs : s.workers = before ++ w :: after) (hw : w.stage = .settled outcome) :
      Transition plan s { s with
        workers := before ++ { w with stage := .recorded } :: after
        collector := s.collector.add outcome }
  | leave {before after : List (Worker α)} {w : Worker α}
      (hs : s.workers = before ++ w :: after) (hw : w.stage = .recorded) :
      Transition plan s { s with
        load := s.load.leave
        workers := before ++ { w with stage := .leaving } :: after }
  | release {before after : List (Worker α)} {w : Worker α}
      (hs : s.workers = before ++ w :: after) (hw : w.stage = .leaving) :
      Transition plan s { s with gate := s.gate.release, workers := before ++ after }

variable {plan : Plan α} {s t u : State α}

/-! ### The two descriptions of a step agree -/

theorem Transition.of_launcherStep (h : s.launcherStep plan = some t) : Transition plan s t := by
  unfold State.launcherStep at h
  split at h
  case h_1 hl =>
    split at h
    case h_1 hp =>
      cases h
      exact .beginDrain hl hp
    case h_2 hp =>
      obtain ⟨g, hg, rfl⟩ := Option.map_eq_some_iff.mp h
      obtain ⟨hfree, rfl⟩ := Gate.acquire?_eq_some_iff.mp hg
      exact .acquire hl hp hfree
  case h_2 hl =>
    split at h
    case h_1 => cases h
    case h_2 hp =>
      split at h
      case isTrue hr =>
        cases h
        exact .refuse hl hp hr
      case isFalse hr =>
        cases h
        exact .launch hl hp (Bool.eq_false_iff.mpr hr)
  case h_3 hl =>
    cases h
    exact .giveUp hl
  case h_4 held hl =>
    split at h
    case isTrue hlt =>
      obtain ⟨g, hg, rfl⟩ := Option.map_eq_some_iff.mp h
      obtain ⟨hfree, rfl⟩ := Gate.acquire?_eq_some_iff.mp hg
      exact .drain hl hlt hfree
    case isFalse hge =>
      cases h
      exact .beginRefill hl (Nat.le_of_not_lt hge)
  case h_5 hl =>
    cases h
    exact .refill hl
  case h_6 hl =>
    cases h
    exact .finish hl
  case h_7 => cases h
  case h_8 => cases h

theorem Transition.of_workerStep {place : Nat} {w : Worker α} (h : s.workers[place]? = some w) :
    Transition plan s (s.workerStep plan place w) := by
  obtain ⟨before, after, hs, hset, herase⟩ := State.exists_split h
  unfold State.workerStep
  split
  case h_1 hw =>
    simp only [State.advance, hset]
    exact .enter hs hw
  case h_2 hw =>
    simp only [State.advance, hset]
    exact .probe hs hw
  case h_3 hw =>
    simp only [State.advance, hset]
    exact .record hs hw
  case h_4 hw =>
    simp only [State.advance, hset]
    exact .leave hs hw
  case h_5 hw =>
    rw [herase]
    exact .release hs hw

theorem Moves.transition (h : Moves plan s t) : Transition plan s t := by
  obtain ⟨actor, h⟩ := h
  cases actor with
  | launcher => exact .of_launcherStep h
  | worker place =>
    obtain ⟨w, hw, rfl⟩ := Option.map_eq_some_iff.mp h
    exact .of_workerStep hw

/-- The worker between two parts of the list stands at the place that the first part ends at. -/
private theorem moves_of_split {before after : List (Worker α)} {w : Worker α}
    (hs : s.workers = before ++ w :: after) (ht : t = s.workerStep plan before.length w) :
    Moves plan s t := by
  refine ⟨.worker before.length, ?_⟩
  have hw : s.workers[before.length]? = some w := by
    rw [hs, List.getElem?_append_right (Nat.le_refl _), Nat.sub_self, List.getElem?_cons_zero]
  rw [State.step, hw, Option.map_some, ht]

private theorem set_split {before after : List (Worker α)} (w v : Worker α) :
    (before ++ w :: after).set before.length v = before ++ v :: after := by
  rw [List.set_append_right _ _ (Nat.le_refl _), Nat.sub_self, List.set_cons_zero]

theorem Transition.moves (h : Transition plan s t) : Moves plan s t := by
  cases h with
  | beginDrain hl hp => exact ⟨.launcher, by simp [State.step, State.launcherStep, hl, hp]⟩
  | acquire hl hp hfree =>
    exact ⟨.launcher, by simp [State.step, State.launcherStep, hl, hp, Gate.acquire?, hfree]⟩
  | refuse hl hp hr => exact ⟨.launcher, by simp [State.step, State.launcherStep, hl, hp, hr]⟩
  | launch hl hp hr => exact ⟨.launcher, by simp [State.step, State.launcherStep, hl, hp, hr]⟩
  | giveUp hl => exact ⟨.launcher, by simp [State.step, State.launcherStep, hl]⟩
  | drain hl hlt hfree =>
    exact ⟨.launcher, by simp [State.step, State.launcherStep, hl, hlt, Gate.acquire?, hfree]⟩
  | beginRefill hl hge =>
    exact ⟨.launcher, by simp [State.step, State.launcherStep, hl, Nat.not_lt.mpr hge]⟩
  | refill hl => exact ⟨.launcher, by simp [State.step, State.launcherStep, hl]⟩
  | finish hl => exact ⟨.launcher, by simp [State.step, State.launcherStep, hl]⟩
  | enter hs hw =>
    refine moves_of_split hs ?_
    simp only [State.workerStep, hw, State.advance, hs, set_split]
  | probe hs hw =>
    refine moves_of_split hs ?_
    simp only [State.workerStep, hw, State.advance, hs, set_split, Plan.outcome]
  | record hs hw =>
    refine moves_of_split hs ?_
    simp only [State.workerStep, hw, State.advance, hs, set_split]
  | leave hs hw =>
    refine moves_of_split hs ?_
    simp only [State.workerStep, hw, State.advance, hs, set_split]
  | release hs hw =>
    refine moves_of_split hs ?_
    simp only [State.workerStep, hw, hs]
    rw [List.eraseIdx_append_of_length_le (Nat.le_refl _), Nat.sub_self, List.eraseIdx_cons_zero]

/-- Somebody can take a step exactly when something can happen. -/
theorem moves_iff_transition : Moves plan s t ↔ Transition plan s t :=
  ⟨Moves.transition, Transition.moves⟩

/-! ### Invariants of all runs -/

/-- What every transition keeps, every run keeps. -/
theorem Reaches.preserves {P : State α → Prop}
    (hP : ∀ {t u : State α}, P t → Transition plan t u → P u) (h : Reaches plan s t) (hs : P s) :
    P t := by
  induction h with
  | refl => exact hs
  | tail _ hmove ih => exact hP ih hmove.transition

theorem moves_of_anyStep {plan : Plan α} (h : s.anyStep plan = some t) : Moves plan s t := by
  unfold State.anyStep at h
  split at h
  case h_1 hl =>
    cases h
    exact ⟨.launcher, hl⟩
  case h_2 => exact ⟨.worker 0, h⟩

/-- What the steps keep that an order chooses, a run in that order keeps. -/
theorem drive_preserves {choose : τ → State α → τ × Actor} {P : State α → Prop}
    (hchosen : ∀ memory t u, P t → t.step plan (choose memory t).2 = some u → P u)
    (hany : ∀ memory t u, P t → t.step plan (choose memory t).2 = none → t.anyStep plan = some u →
      P u)
    (fuel : Nat) (memory : τ) (hs : P s) : P (drive plan choose fuel memory s).2 := by
  induction fuel generalizing memory s with
  | zero => exact hs
  | succ fuel ih =>
    simp only [drive]
    split
    case isTrue => exact hs
    case isFalse =>
      split
      case h_1 next hn => exact ih _ (hchosen memory s next hs hn)
      case h_2 hnone =>
        split
        case h_1 next hn => exact ih _ (hany memory s next hs hnone hn)
        case h_2 => exact hs

/-- A run that is driven by an order takes steps and does nothing else. -/
theorem reaches_drive (plan : Plan α) (choose : τ → State α → τ × Actor) (fuel : Nat) (memory : τ)
    (s : State α) : Reaches plan s (drive plan choose fuel memory s).2 := by
  refine drive_preserves (P := Reaches plan s) ?_ ?_ fuel memory .refl
  · intro memory t u ht hstep
    exact ht.tail ⟨_, hstep⟩
  · intro memory t u ht _ hstep
    exact ht.tail (moves_of_anyStep hstep)

/-! ### Runs that are written out -/

/-- Steps that can be taken one after the other make up a run. -/
theorem reaches_of_foldlM {σ ι : Type} {step : σ → ι → Option σ} {inputs : List ι} {s t : σ}
    (h : inputs.foldlM step s = some t) :
    Relation.ReflTransGen (fun s t => ∃ input, step s input = some t) s t := by
  induction inputs generalizing s with
  | nil =>
    cases h
    exact .refl
  | cons input inputs ih =>
    obtain ⟨u, hu, h⟩ := Option.bind_eq_some_iff.mp h
    exact .head ⟨input, hu⟩ (ih h)

end Schedule

/-- A plan for candidates that are themselves what their probes come to. -/
def Plan.ofResults (refusesStart : Nat → Bool) : Plan (Except Failure (Option Outcome)) where
  label _ := .null
  probe result := ⟨result, 0.0, [], []⟩
  refusesStart

/-- A scheduler with two permits that has had no run. -/
def Scheduler.pair : Scheduler := ⟨2, {}, by decide⟩

end NetSurvey
