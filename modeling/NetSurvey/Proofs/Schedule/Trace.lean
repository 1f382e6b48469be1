import NetSurvey.Proofs.Schedule.Recording

/-!
# Every candidate is probed once

The calls of a run are the calls of its probes. A probe is one step of its worker, so the calls of
one probe stand together, and only their order among each other depends on the order of the steps.
The invariant `Traced` follows the candidates up to their probes, as `Accounted` follows them up to
their outcomes: each of them has been probed, has a worker that has not probed it, or waits for one.

`Scheduler.run_of_accepted` puts the end of a run together: where every start is accepted a run in
any order returns, with one outcome for each candidate and with the calls of one probe for each
candidate.
-/

namespace NetSurvey

namespace Schedule

variable {α : Type} {plan : Plan α} {s t : State α} {candidates : List α}

/-- The candidates of workers that have not probed them. -/
def unprobedBy (ws : List (Worker α)) : List α :=
  (ws.filter fun w => !w.stage.hasProbed).map Worker.candidate

theorem unprobedBy_split (before after : List (Worker α)) (w : Worker α) :
    unprobedBy (before ++ w :: after) =
      unprobedBy before ++
        (if w.stage.hasProbed then unprobedBy after else w.candidate :: unprobedBy after) := by
  cases h : w.stage.hasProbed <;> simp [unprobedBy, h]

/-- The calls are those of the probes, one after the other, and every candidate has been probed, has
a worker that has not probed it, or waits for one. -/
def Traced (plan : Plan α) (candidates : List α) (s : State α) : Prop :=
  ∃ probed : List α, s.calls.toList = probed.flatMap (fun a => (plan.probe a).calls) ∧
    (probed ++ (unprobedBy s.workers ++ s.pending)).Perm candidates

/-- A step that neither probes nor starts a worker leaves every candidate where it is. -/
private theorem Traced.of_eq (h : Traced plan candidates s) (hc : t.calls = s.calls)
    (hu : unprobedBy t.workers = unprobedBy s.workers) (hp : t.pending = s.pending) :
    Traced plan candidates t := by
  obtain ⟨probed, hcalls, hperm⟩ := h
  exact ⟨probed, by rw [hc, hcalls], by rw [hu, hp]; exact hperm⟩

theorem Traced.step (h : Traced plan candidates s) (ht : Transition plan s t) :
    Traced plan candidates t := by
  cases ht with
  | beginDrain | acquire | refuse | giveUp | drain | beginRefill | refill | finish =>
    exact h.of_eq rfl rfl rfl
  | enter hs hw | record hs hw | leave hs hw =>
    refine h.of_eq rfl ?_ rfl
    simp only [hs, unprobedBy_split, hw, Stage.hasProbed, ↓reduceIte, Bool.false_eq_true]
  | release hs hw =>
    refine h.of_eq rfl ?_ rfl
    simp [hs, unprobedBy, hw, Stage.hasProbed]
  | launch hl hp =>
    obtain ⟨probed, hcalls, hperm⟩ := h
    refine ⟨probed, hcalls, ?_⟩
    -- the candidate moves from the head of the one list to the end of the other
    simpa [unprobedBy, Stage.hasProbed, hp] using hperm
  | @probe before after w hs hw =>
    obtain ⟨probed, hcalls, hperm⟩ := h
    refine ⟨probed ++ [w.candidate], ?_, ?_⟩
    · simp [hcalls]
    · refine List.Perm.trans ?_ hperm
      simp only [hs, unprobedBy_split, hw, Stage.hasProbed, ↓reduceIte, Bool.false_eq_true,
        List.append_assoc, List.cons_append, List.nil_append]
      exact List.perm_middle.symm.append_left probed

theorem traced_initial (plan : Plan α) (capacity : Nat) (load : Load) (candidates : List α)
    (collector : Collector) :
    Traced plan candidates (.initial capacity load candidates collector) :=
  ⟨[], rfl, .refl _⟩

/-- When the launcher has returned, every candidate has been probed. -/
theorem Traced.of_returned (h : Traced plan candidates s) (hplaced : s.Placed)
    (hl : s.launcher = .returned) :
    ∃ probed : List α, probed.Perm candidates ∧
      s.calls.toList = probed.flatMap fun a => (plan.probe a).calls := by
  obtain ⟨probed, hcalls, hperm⟩ := h
  obtain ⟨hpending, hworkers⟩ := hplaced.of_returned hl
  refine ⟨probed, ?_, hcalls⟩
  simpa [unprobedBy, hworkers, hpending] using hperm

end Schedule

namespace Scheduler

open Schedule

variable {α : Type}

/-- **A run that returns.** Where every start is accepted, a run in any order returns. It records
one outcome for each candidate and makes the calls of one probe for each candidate. -/
theorem run_of_accepted (scheduler : Scheduler) (plan : Plan α) (order : Order)
    (candidates : List α) (collector : Collector)
    (hstart : ∀ n < candidates.length, plan.refusesStart n = false) :
    (scheduler.run plan order candidates collector).result = .ok () ∧
      (∃ recorded, (scheduler.run plan order candidates collector).collector.toList =
          collector.toList ++ recorded ∧ recorded.Perm (candidates.map plan.expected)) ∧
      ∃ probed : List α, probed.Perm candidates ∧
        (scheduler.run plan order candidates collector).calls =
          probed.flatMap fun a => (plan.probe a).calls := by
  let choose : Unit → State α → Unit × Actor := fun _ state => ((), order.next state)
  let start := scheduler.start candidates collector
  let final := (finish plan choose () start).2
  have hreach : Reaches plan start final := reaches_drive ..
  have hsteady := scheduler.steady_start candidates collector
  have hplaced : final.Placed := (hreach.steady hsteady).placed
  have hqueued : Queued plan candidates final := hreach.preserves Queued.step (queued_initial ..)
  have hret : final.launcher = .returned :=
    hqueued.returned_of_hasExited hplaced hstart
      (hsteady.hasExited_finish scheduler.capacity_pos plan choose ())
  have haccounted : Accounted plan candidates collector final :=
    hreach.preserves Accounted.step (accounted_initial ..)
  have htraced : Traced plan candidates final := hreach.preserves Traced.step (traced_initial ..)
  refine ⟨?_, haccounted.of_returned hplaced hret, htraced.of_returned hplaced hret⟩
  have hlauncher : (finish plan (fun _ state => ((), order.next state)) ()
      (scheduler.start candidates collector)).2.launcher = .returned := hret
  simp only [run, runWith, hlauncher]

end Scheduler

end NetSurvey
