import NetSurvey.Proofs.Schedule.Admission

/-!
# Every run comes to an end

A launcher that waits for a permit waits for a worker: permits are conserved, so one that is not
free belongs to a worker, and a worker can always go on. This is deadlock freedom
(`Steady.exists_transition`). Since `State.remaining` falls with every step, no sequence of steps
goes on for ever, and one that cannot be continued has brought the launcher to its exit.

Where the launcher is says something about the candidates and the workers (`State.Placed`). What
matters for the end of a run is that the launcher gives all permits back only when no worker is
left.
-/

namespace NetSurvey

namespace Schedule

variable {α τ : Type} {plan : Plan α} {s t : State α} {capacity : Nat}

/-! ### Where the launcher is -/

/-- What the place of the launcher says about the candidates and the workers. -/
def State.Placed (s : State α) : Prop :=
  match s.launcher with
  | .ready => True
  | .holding => s.pending ≠ []
  | .refused => s.pending ≠ []
  | .draining _ => s.pending = []
  | .refilling _ => s.pending = [] ∧ s.workers = []
  | .returned => s.pending = [] ∧ s.workers = []
  | .gaveUp => s.pending ≠ []

theorem State.Placed.pending_ne_nil (h : s.Placed) (hl : s.launcher = .holding) :
    s.pending ≠ [] := by
  simpa only [State.Placed, hl] using h

/-- A launcher that has returned has left nothing undone. -/
theorem State.Placed.of_returned (h : s.Placed) (hl : s.launcher = .returned) :
    s.pending = [] ∧ s.workers = [] := by
  simpa only [State.Placed, hl] using h

/-- A worker can go on only while the launcher has not seen all of them end. -/
theorem State.Placed.of_worker (h : s.Placed) (hw : s.workers ≠ [])
    (hl : t.launcher = s.launcher) (hp : t.pending = s.pending) : t.Placed := by
  unfold State.Placed at h ⊢
  rw [hl, hp]
  cases hs : s.launcher <;> simp_all

/-- A launcher that has exited stays where it is. -/
theorem Transition.launcher_eq_of_hasExited (ht : Transition plan s t)
    (hexit : s.launcher.hasExited = true) : t.launcher = s.launcher := by
  cases ht with
  | beginDrain hl | acquire hl | refuse hl | launch hl | giveUp hl | drain hl | beginRefill hl
  | refill hl | finish hl => simp [hl, Launcher.hasExited] at hexit
  | enter | probe | record | leave | release => rfl

/-- Permits are conserved, and the launcher is where the candidates and the workers are. -/
structure Steady (capacity : Nat) (s : State α) : Prop extends Conserved capacity s where
  placed : s.Placed

/-- When the launcher has taken all permits, no worker has one. -/
theorem Conserved.workers_eq_nil {held : Nat} (h : Conserved capacity s)
    (hl : s.launcher = .draining held) (hge : s.gate.capacity ≤ held) : s.workers = [] := by
  have hsum := h.free_add_slots
  have hcap := h.capacity_eq
  rw [State.slots, hl, Launcher.held] at hsum
  exact List.eq_nil_of_length_eq_zero (by omega)

theorem Steady.step (h : Steady capacity s) (ht : Transition plan s t) : Steady capacity t := by
  refine ⟨h.toConserved.step ht, ?_⟩
  have hplaced := h.placed
  cases ht with
  | beginDrain hl hp => exact hp
  | acquire hl hp => simp [State.Placed, hp]
  | refuse hl hp => simp [State.Placed, hp]
  | launch hl hp => trivial
  | giveUp hl => simpa only [State.Placed, hl] using hplaced
  | drain hl => simpa only [State.Placed, hl] using hplaced
  | beginRefill hl hge =>
    have hpending : s.pending = [] := by simpa only [State.Placed, hl] using hplaced
    exact ⟨hpending, h.workers_eq_nil hl hge⟩
  | refill hl => simpa only [State.Placed, hl] using hplaced
  | finish hl => simpa only [State.Placed, hl] using hplaced
  | enter hs | probe hs | record hs | leave hs | release hs =>
    exact hplaced.of_worker (by simp [hs]) rfl rfl

theorem steady_initial (capacity : Nat) (load : Load) (candidates : List α)
    (collector : Collector) : Steady capacity (State.initial capacity load candidates collector) :=
  ⟨conserved_initial .., trivial⟩

theorem Reaches.steady (h : Reaches plan s t) (hs : Steady capacity s) : Steady capacity t :=
  h.preserves Steady.step hs

/-! ### Deadlock freedom -/

/-- A worker can always go on. -/
theorem exists_transition_of_worker (plan : Plan α) {w : Worker α} {ws : List (Worker α)}
    (hs : s.workers = w :: ws) : ∃ t, Transition plan s t := by
  have hsplit : s.workers = [] ++ w :: ws := hs
  cases hw : w.stage with
  | started => exact ⟨_, .enter hsplit hw⟩
  | probing => exact ⟨_, .probe hsplit hw⟩
  | settled outcome => exact ⟨_, .record hsplit hw⟩
  | recorded => exact ⟨_, .leave hsplit hw⟩
  | leaving => exact ⟨_, .release hsplit hw⟩

/-- **Deadlock freedom.** Until the launcher exits, somebody can go on. -/
theorem Steady.exists_transition (h : Steady capacity s) (hpos : 0 < capacity) (plan : Plan α)
    (hexit : s.launcher.hasExited = false) : ∃ t, Transition plan s t := by
  cases hw : s.workers with
  | cons w ws => exact exists_transition_of_worker plan hw
  | nil =>
    -- without workers the launcher is alone, so what it has not taken is free
    have hcap := h.capacity_eq
    have hsum : s.gate.free + s.launcher.held = capacity := by
      simpa [State.slots, hw] using h.free_add_slots
    cases hl : s.launcher with
    | ready =>
      rw [hl, Launcher.held] at hsum
      cases hp : s.pending with
      | nil => exact ⟨_, .beginDrain hl hp⟩
      | cons a rest => exact ⟨_, .acquire hl hp (by omega)⟩
    | holding =>
      obtain ⟨a, rest, hp⟩ := List.exists_cons_of_ne_nil (h.placed.pending_ne_nil hl)
      cases hr : plan.refusesStart s.launched with
      | false => exact ⟨_, .launch hl hp hr⟩
      | true => exact ⟨_, .refuse hl hp hr⟩
    | refused => exact ⟨_, .giveUp hl⟩
    | draining held =>
      rw [hl, Launcher.held] at hsum
      by_cases hlt : held < s.gate.capacity
      · exact ⟨_, .drain hl hlt (by omega)⟩
      · exact ⟨_, .beginRefill hl (Nat.le_of_not_lt hlt)⟩
    | refilling held =>
      cases held with
      | zero => exact ⟨_, .finish hl⟩
      | succ held => exact ⟨_, .refill hl⟩
    | returned => simp [hl, Launcher.hasExited] at hexit
    | gaveUp => simp [hl, Launcher.hasExited] at hexit

theorem not_moves_of_step_eq_none (h : ∀ actor, s.step plan actor = none) (t : State α) :
    ¬ Moves plan s t := by
  rintro ⟨actor, hstep⟩
  rw [h actor] at hstep
  cases hstep

/-- When nobody can go on, the launcher has exited and no worker is left. -/
theorem Steady.of_stuck (h : Steady capacity s) (hpos : 0 < capacity)
    (hstuck : ∀ t, ¬ Moves plan s t) : s.launcher.hasExited = true ∧ s.workers = [] := by
  constructor
  · cases hexit : s.launcher.hasExited with
    | true => rfl
    | false =>
      obtain ⟨t, ht⟩ := h.exists_transition hpos plan hexit
      exact absurd ht.moves (hstuck t)
  · cases hw : s.workers with
    | nil => rfl
    | cons w ws =>
      obtain ⟨t, ht⟩ := exists_transition_of_worker plan hw
      exact absurd ht.moves (hstuck t)

/-! ### Termination -/

theorem Moves.remaining_lt (h : Moves plan s t) : t.remaining < s.remaining := by
  obtain ⟨actor, h⟩ := h
  exact State.remaining_step_lt h

/-- No sequence of steps goes on for ever: after `n` steps at least `n` fewer are left. -/
theorem not_exists_endless_run (plan : Plan α) (s : State α) :
    ¬ ∃ run : Nat → State α, run 0 = s ∧ ∀ n, Moves plan (run n) (run (n + 1)) := by
  rintro ⟨run, rfl, hrun⟩
  have hle : ∀ n, (run n).remaining + n ≤ (run 0).remaining := by
    intro n
    induction n with
    | zero => exact Nat.le_refl _
    | succ n ih =>
      have hlt := (hrun n).remaining_lt
      omega
  have hbound := hle ((run 0).remaining + 1)
  omega

/-- A run that is driven by an order ends with the exit of the launcher. -/
theorem Steady.hasExited_finish (h : Steady capacity s) (hpos : 0 < capacity) (plan : Plan α)
    (choose : τ → State α → τ × Actor) (memory : τ) :
    (finish plan choose memory s).2.launcher.hasExited = true := by
  obtain hexit | hnone :=
    hasExited_drive_or_step_eq_none plan choose memory (Nat.le_refl s.remaining)
  · exact hexit
  · have hfinal : Steady capacity (finish plan choose memory s).2 :=
      (reaches_drive plan choose s.remaining memory s).steady h
    exact (hfinal.of_stuck hpos (not_moves_of_step_eq_none hnone)).1

end Schedule

namespace Scheduler

open Schedule

variable {α : Type}

theorem steady_start (scheduler : Scheduler) (candidates : List α) (collector : Collector) :
    Steady scheduler.capacity (scheduler.start candidates collector) :=
  steady_initial ..

/-- **No deadlock, and an end.** At every moment of every run, somebody can take a step until the
launcher has exited, and every step leaves less to do. So there is no endless run, and where nobody
can take a step any more the launcher has exited and all workers have ended: no launcher waits for
ever for a permit. -/
theorem no_deadlock (scheduler : Scheduler) (plan : Plan α) (candidates : List α)
    (collector : Collector) {t : State α}
    (ht : Reaches plan (scheduler.start candidates collector) t) :
    (t.launcher.hasExited = false → ∃ actor u, t.step plan actor = some u) ∧
      (∀ actor u, t.step plan actor = some u → u.remaining < t.remaining) ∧
      (¬ ∃ run : Nat → State α, run 0 = t ∧ ∀ n, Moves plan (run n) (run (n + 1))) ∧
      (∀ u, Reaches plan t u → (∀ actor, u.step plan actor = none) →
        u.launcher.hasExited = true ∧ u.workers = []) := by
  have hsteady := ht.steady (scheduler.steady_start candidates collector)
  refine ⟨fun hexit => ?_, fun actor u hu => State.remaining_step_lt hu,
    not_exists_endless_run plan t, fun u hu hnone => ?_⟩
  · obtain ⟨u, hu⟩ := hsteady.exists_transition scheduler.capacity_pos plan hexit
    obtain ⟨actor, hstep⟩ := hu.moves
    exact ⟨actor, u, hstep⟩
  · exact (hu.steady hsteady).of_stuck scheduler.capacity_pos (not_moves_of_step_eq_none hnone)

/-- With both permits taken the launcher has to wait for one of the workers. -/
theorem no_deadlock_at_full_gate :
    ∃ t, Reaches (.ofResults fun _ => false) (pair.start [.ok none, .ok none, .ok none] .empty) t ∧
      t.step (.ofResults fun _ => false) .launcher = none ∧
      ∃ actor u, t.step (.ofResults fun _ => false) actor = some u := by
  obtain ⟨t, hrun, hwait, hexit⟩ : ∃ t : State (Except Failure (Option Outcome)),
      [.launcher, .launcher, .launcher, .launcher].foldlM
          (State.step (.ofResults fun _ => false))
          (pair.start [.ok none, .ok none, .ok none] .empty) = some t ∧
        t.step (.ofResults fun _ => false) .launcher = none ∧ t.launcher.hasExited = false :=
    ⟨_, rfl, rfl, rfl⟩
  have ht := reaches_of_foldlM hrun
  exact ⟨t, ht, hwait, (no_deadlock pair _ _ _ ht).1 hexit⟩

end Scheduler

end NetSurvey
