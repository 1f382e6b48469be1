import NetSurvey.Proofs.Schedule.Progress

/-!
# Every candidate is recorded once

What is recorded about a candidate does not depend on when its worker runs (`Plan.expected`). The
invariant `Accounted` follows the candidates: each of them waits for a worker, has a worker that has
not recorded it, or has been recorded, and at every moment these three lists together are a
permutation of all candidates. Every start but the last one of a run that gave up was accepted
(`Queued`). When the launcher has returned, nothing waits and no worker is left, so exactly the
expected outcomes have been recorded, in some order.

In the serial order the three lists are in the order of the candidates (`InTurn`), so that order
records the expected outcomes one after the other.
-/

namespace NetSurvey

/-- What is to be recorded about a candidate: what its probe returned, be it no outcome, or that the
candidate could not be probed, with what the failure says. An interrupt is shown with its name. -/
def Plan.expected {α : Type} (plan : Plan α) (a : α) : Option Outcome :=
  match (plan.probe a).result with
  | .ok outcome => outcome
  | .error (.interrupt kind said) =>
    some { candidate := plan.label a, positive := false,
           error := some (Failure.interruptText kind said) }
  | .error e => some { candidate := plan.label a, positive := false, error := some e.message }

theorem Plan.outcome_eq_expected {α : Type} (plan : Plan α) : plan.outcome = plan.expected := by
  funext a
  unfold Plan.outcome Plan.settled Plan.expected
  cases (plan.probe a).result with
  | ok outcome => rfl
  | error e => cases e <;> rfl

namespace Schedule

variable {α : Type} {plan : Plan α} {s t : State α} {candidates : List α} {collector : Collector}

/-! ### Where each candidate is -/

/-- The outcome of a worker at this stage has been recorded. -/
def Stage.isRecorded : Stage → Bool
  | .started => false
  | .probing => false
  | .settled _ => false
  | .recorded => true
  | .leaving => true

/-- The candidates of workers that have not recorded them. -/
def unrecordedBy (ws : List (Worker α)) : List α :=
  (ws.filter fun w => !w.stage.isRecorded).map Worker.candidate

/-- The candidates that have a worker and have not been recorded. -/
def State.unrecorded (s : State α) : List α := unrecordedBy s.workers

theorem unrecordedBy_split (before after : List (Worker α)) (w : Worker α) :
    unrecordedBy (before ++ w :: after) =
      unrecordedBy before ++
        (if w.stage.isRecorded then unrecordedBy after else w.candidate :: unrecordedBy after) := by
  cases h : w.stage.isRecorded <;> simp [unrecordedBy, h]

/-- A worker that has probed its candidate has the outcome that belongs to it. -/
def State.Faithful (plan : Plan α) (s : State α) : Prop :=
  ∀ w ∈ s.workers, ∀ outcome, w.stage = .settled outcome → outcome = plan.outcome w.candidate

theorem State.Faithful.step (h : s.Faithful plan) (ht : Transition plan s t) : t.Faithful plan := by
  cases ht with
  | beginDrain | acquire | refuse | giveUp | drain | beginRefill | refill | finish => exact h
  | launch =>
    intro w hw outcome hstage
    simp only [List.mem_append, List.mem_singleton] at hw
    obtain hw | rfl := hw
    · exact h w hw outcome hstage
    · cases hstage
  | @probe before after v hs hv =>
    intro w hw outcome hstage
    simp only [List.mem_append, List.mem_cons] at hw
    obtain hw | rfl | hw := hw
    · exact h w (by simp [hs, hw]) outcome hstage
    · cases hstage
      rfl
    · exact h w (by simp [hs, hw]) outcome hstage
  | enter hs | record hs | leave hs =>
    intro w hw outcome hstage
    simp only [List.mem_append, List.mem_cons] at hw
    obtain hw | rfl | hw := hw
    · exact h w (by simp [hs, hw]) outcome hstage
    · cases hstage
    · exact h w (by simp [hs, hw]) outcome hstage
  | release hs =>
    intro w hw outcome hstage
    refine h w ?_ outcome hstage
    simp only [hs, List.mem_append, List.mem_cons] at hw ⊢
    exact hw.imp_right .inr

/-- Every candidate has been recorded, has a worker that has not recorded it, or waits for one.
What the collector held at first stays in front. -/
structure Accounted (plan : Plan α) (candidates : List α) (collector : Collector) (s : State α) :
    Prop where
  faithful : s.Faithful plan
  exists_recorded : ∃ recorded : List α,
    s.collector.toList = collector.toList ++ recorded.map plan.outcome ∧
      (recorded ++ (s.unrecorded ++ s.pending)).Perm candidates

/-- A step that neither records nor starts a worker leaves every candidate where it is. -/
private theorem Accounted.of_eq (h : Accounted plan candidates collector s)
    (ht : t.Faithful plan) (hc : t.collector = s.collector) (hu : t.unrecorded = s.unrecorded)
    (hp : t.pending = s.pending) : Accounted plan candidates collector t := by
  obtain ⟨recorded, hrec, hperm⟩ := h.exists_recorded
  exact ⟨ht, recorded, by rw [hc, hrec], by rw [hu, hp]; exact hperm⟩

theorem Accounted.step (h : Accounted plan candidates collector s) (ht : Transition plan s t) :
    Accounted plan candidates collector t := by
  have hfaith := h.faithful.step ht
  cases ht with
  | beginDrain | acquire | refuse | giveUp | drain | beginRefill | refill | finish =>
    exact h.of_eq hfaith rfl rfl rfl
  | enter hs hw | probe hs hw | leave hs hw =>
    refine h.of_eq hfaith rfl ?_ rfl
    simp only [State.unrecorded, hs, unrecordedBy_split, hw, Stage.isRecorded, ↓reduceIte,
      Bool.false_eq_true]
  | release hs hw =>
    refine h.of_eq hfaith rfl ?_ rfl
    simp [State.unrecorded, hs, unrecordedBy, hw, Stage.isRecorded]
  | launch hl hp =>
    obtain ⟨recorded, hrec, hperm⟩ := h.exists_recorded
    refine ⟨hfaith, recorded, hrec, ?_⟩
    -- the candidate moves from the head of the one list to the end of the other
    simpa [State.unrecorded, unrecordedBy, Stage.isRecorded, hp] using hperm
  | @record before after w outcome hs hw =>
    obtain ⟨recorded, hrec, hperm⟩ := h.exists_recorded
    have hout : outcome = plan.outcome w.candidate := h.faithful w (by simp [hs]) outcome hw
    refine ⟨hfaith, recorded ++ [w.candidate], ?_, ?_⟩
    · simp [hrec, hout]
    · refine List.Perm.trans ?_ hperm
      simp only [State.unrecorded, hs, unrecordedBy_split, hw, Stage.isRecorded, ↓reduceIte,
        Bool.false_eq_true, List.append_assoc, List.cons_append, List.nil_append]
      exact List.perm_middle.symm.append_left recorded

theorem accounted_initial (plan : Plan α) (capacity : Nat) (load : Load) (candidates : List α)
    (collector : Collector) :
    Accounted plan candidates collector (.initial capacity load candidates collector) := by
  refine ⟨fun w hw => ?_, [], ?_, ?_⟩
  · simp [State.initial] at hw
  · simp [State.initial]
  · exact .refl _

/-! ### Which starts were accepted -/

/-- The candidates with a worker are the first ones, their starts were accepted, and a launcher
gives up only where a start is refused. -/
structure Queued (plan : Plan α) (candidates : List α) (s : State α) : Prop where
  pending_eq : s.pending = candidates.drop s.launched
  launched_le : s.launched ≤ candidates.length
  accepted : ∀ n < s.launched, plan.refusesStart n = false
  refused : s.launcher = .refused ∨ s.launcher = .gaveUp → plan.refusesStart s.launched = true

theorem Queued.step (h : Queued plan candidates s) (ht : Transition plan s t) :
    Queued plan candidates t := by
  obtain ⟨hpending, hle, haccepted, hrefused⟩ := h
  cases ht with
  | beginDrain | acquire | drain | beginRefill | refill | finish =>
    exact ⟨hpending, hle, haccepted, nofun⟩
  | refuse hl hp hr => exact ⟨hpending, hle, haccepted, fun _ => hr⟩
  | giveUp hl => exact ⟨hpending, hle, haccepted, fun _ => hrefused (.inl hl)⟩
  | enter | probe | record | leave | release => exact ⟨hpending, hle, haccepted, hrefused⟩
  | @launch a rest hl hp hr =>
    have hdrop : candidates.drop s.launched = a :: rest := by rw [← hpending, hp]
    refine ⟨?_, ?_, fun n hn => ?_, nofun⟩
    · rw [List.drop_add_one_eq_tail_drop, hdrop, List.tail_cons]
    · have hlen := congrArg List.length hdrop
      rw [List.length_drop, List.length_cons] at hlen
      change s.launched + 1 ≤ candidates.length
      omega
    · obtain hn | rfl := Nat.lt_succ_iff_lt_or_eq.mp hn
      · exact haccepted n hn
      · exact hr

theorem queued_initial (plan : Plan α) (capacity : Nat) (load : Load) (candidates : List α)
    (collector : Collector) :
    Queued plan candidates (.initial capacity load candidates collector) :=
  ⟨rfl, Nat.zero_le _, nofun, nofun⟩

/-- A launcher that gives up does so at a candidate whose start is refused. -/
theorem Queued.refusesStart_of_gaveUp (h : Queued plan candidates s) (hplaced : s.Placed)
    (hl : s.launcher = .gaveUp) :
    s.launched < candidates.length ∧ plan.refusesStart s.launched = true := by
  refine ⟨?_, h.refused (.inr hl)⟩
  have hne : s.pending ≠ [] := by simpa only [State.Placed, hl] using hplaced
  rw [h.pending_eq, Ne, List.drop_eq_nil_iff] at hne
  omega

/-! ### One at a time -/

/-- At most one worker is there, and it is alone with a launcher that has nothing in hand. The
candidates have been recorded in their order. -/
structure InTurn (plan : Plan α) (candidates : List α) (collector : Collector) (s : State α) :
    Prop where
  faithful : s.Faithful plan
  alone : s.workers = [] ∨ ∃ w, s.workers = [w] ∧ s.launcher = .ready
  exists_recorded : ∃ recorded : List α,
    s.collector.toList = collector.toList ++ recorded.map plan.outcome ∧
      recorded ++ (s.unrecorded ++ s.pending) = candidates

theorem InTurn.launcherStep (h : InTurn plan candidates collector s) (hw : s.workers = [])
    (ht : s.launcherStep plan = some t) : InTurn plan candidates collector t := by
  have htrans := Transition.of_launcherStep ht
  have hfaith := h.faithful.step htrans
  obtain ⟨recorded, hrec, heq⟩ := h.exists_recorded
  cases htrans with
  | beginDrain | acquire | refuse | giveUp | drain | beginRefill | refill | finish =>
    exact ⟨hfaith, .inl hw, recorded, hrec, heq⟩
  | launch hl hp =>
    refine ⟨hfaith, .inr ⟨_, by rw [hw]; rfl, rfl⟩, recorded, hrec, ?_⟩
    simpa [State.unrecorded, unrecordedBy, Stage.isRecorded, hp, hw] using heq
  | enter hs | probe hs | record hs | leave hs | release hs => simp [hs] at hw

theorem InTurn.workerStep (h : InTurn plan candidates collector s) {w : Worker α}
    (hw : s.workers = [w]) (hl : s.launcher = .ready) :
    InTurn plan candidates collector (s.workerStep plan 0 w) := by
  have hget : s.workers[0]? = some w := by rw [hw, List.getElem?_cons_zero]
  have hfaith : (s.workerStep plan 0 w).Faithful plan := h.faithful.step (.of_workerStep hget)
  have hout := h.faithful w (by simp [hw])
  obtain ⟨recorded, hrec, heq⟩ := h.exists_recorded
  unfold State.workerStep State.advance at hfaith ⊢
  cases hstage : w.stage with
  | started | probing | recorded =>
    simp only [hstage, hw, List.set_cons_zero, State.unrecorded, unrecordedBy] at hfaith heq ⊢
    refine ⟨hfaith, .inr ⟨_, rfl, hl⟩, recorded, hrec, ?_⟩
    simpa [State.unrecorded, unrecordedBy, hstage, Stage.isRecorded] using heq
  | settled outcome =>
    simp only [hstage, hw, List.set_cons_zero, State.unrecorded, unrecordedBy] at hfaith heq ⊢
    refine ⟨hfaith, .inr ⟨_, rfl, hl⟩, recorded ++ [w.candidate], ?_, ?_⟩
    · simp [hrec, hout outcome hstage]
    · simpa [State.unrecorded, unrecordedBy, hstage, Stage.isRecorded] using heq
  | leaving =>
    simp only [hstage, hw, List.eraseIdx_cons_zero, State.unrecorded, unrecordedBy] at hfaith heq ⊢
    refine ⟨hfaith, .inl rfl, recorded, hrec, ?_⟩
    simpa [State.unrecorded, unrecordedBy, hstage, Stage.isRecorded] using heq

/-- When the launcher has returned, the expected outcomes have been recorded. -/
theorem Accounted.of_returned (h : Accounted plan candidates collector s) (hplaced : s.Placed)
    (hl : s.launcher = .returned) :
    ∃ recorded, s.collector.toList = collector.toList ++ recorded ∧
      recorded.Perm (candidates.map plan.expected) := by
  obtain ⟨recorded, hrec, hperm⟩ := h.exists_recorded
  obtain ⟨hpending, hworkers⟩ := hplaced.of_returned hl
  refine ⟨recorded.map plan.outcome, hrec, ?_⟩
  rw [← plan.outcome_eq_expected]
  have hall : recorded.Perm candidates := by
    simpa [State.unrecorded, unrecordedBy, hworkers, hpending] using hperm
  exact hall.map plan.outcome

/-- Where every start is accepted, a launcher that has exited has returned. -/
theorem Queued.returned_of_hasExited (h : Queued plan candidates s) (hplaced : s.Placed)
    (hstart : ∀ n < candidates.length, plan.refusesStart n = false)
    (hexit : s.launcher.hasExited = true) : s.launcher = .returned := by
  cases hl : s.launcher with
  | returned => rfl
  | gaveUp =>
    obtain ⟨hlt, hrefuse⟩ := h.refusesStart_of_gaveUp hplaced hl
    rw [hstart _ hlt] at hrefuse
    cases hrefuse
  | ready | holding | refused | draining | refilling => simp [hl, Launcher.hasExited] at hexit

/-- Nothing happens after the launcher has exited, unless a worker is left. -/
theorem eq_of_reaches_of_hasExited (hworkers : s.workers = []) (hexit : s.launcher.hasExited = true)
    (h : Reaches plan s t) : t = s := by
  obtain rfl | ⟨u, hmove, -⟩ := h.cases_head
  · rfl
  · cases hmove.transition with
    | beginDrain hl | acquire hl | refuse hl | launch hl | giveUp hl | drain hl | beginRefill hl
    | refill hl | finish hl => simp [hl, Launcher.hasExited] at hexit
    | enter hs | probe hs | record hs | leave hs | release hs => simp [hs] at hworkers

end Schedule

namespace Scheduler

open Schedule

variable {α : Type}

end Scheduler

end NetSurvey
