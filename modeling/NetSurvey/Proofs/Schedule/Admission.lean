import NetSurvey.Proofs.Schedule.Transition

/-!
# Permits are conserved

A permit is taken by the launcher and given back by somebody else: by the worker that it was taken
for, by the launcher when that worker cannot be started, or by the launcher when it gives back all
permits at the end. In between it belongs to the launcher or to a worker that has been started, and
`State.slots` counts those. The invariant `Conserved` says that free permits and slots make up the
capacity; `Conserved.exchange` says what a transition does to the two sides, and in particular that
no permit is given back while all are free.

The load is counted at other moments than the permits are taken. A worker is at work
(`Stage.isAtWork`) while it is counted, which is a part of the time for which it has a permit, so
the load never exceeds the slots.
-/

namespace NetSurvey

namespace Schedule

variable {α : Type}

/-! ### Slots and workers at work -/

/-- The permits that the launcher has taken for itself and not given back. -/
def Launcher.held : Launcher → Nat
  | .ready => 0
  | .holding => 1
  | .refused => 1
  | .draining held => held
  | .refilling held => held
  | .returned => 0
  | .gaveUp => 0

/-- A worker at this stage is counted in the load. -/
def Stage.isAtWork : Stage → Bool
  | .started => false
  | .probing => true
  | .settled _ => true
  | .recorded => true
  | .leaving => false

namespace State

/-- The permits that are taken, by the launcher and by workers that have been started. -/
def slots (s : State α) : Nat := s.launcher.held + s.workers.length

/-- The number of workers that are counted in the load. -/
def atWork (s : State α) : Nat := s.workers.countP fun w => w.stage.isAtWork

theorem atWork_le_length_workers (s : State α) : s.atWork ≤ s.workers.length :=
  List.countP_le_length

@[simp]
theorem atWork_initial (capacity : Nat) (load : Load) (candidates : List α)
    (collector : Collector) : (initial capacity load candidates collector).atWork = 0 := rfl

end State

variable {plan : Plan α} {s t : State α} {capacity : Nat}

/-! ### Free permits and slots -/

/-- Free permits and slots make up the capacity, and no permit was given back too often. -/
structure Conserved (capacity : Nat) (s : State α) : Prop where
  capacity_eq : s.gate.capacity = capacity
  free_add_slots : s.gate.free + s.slots = capacity
  faults_eq_zero : s.gate.faults = 0

/-- At the start all permits are free. -/
theorem conserved_initial (capacity : Nat) (load : Load) (candidates : List α)
    (collector : Collector) :
    Conserved capacity (State.initial capacity load candidates collector) :=
  ⟨rfl, rfl, rfl⟩

theorem Conserved.free_lt_of_slots_pos (h : Conserved capacity s) (hpos : 0 < s.slots) :
    s.gate.free < s.gate.capacity := by
  have hsum := h.free_add_slots
  rw [h.capacity_eq]
  omega

/-- **What happens to the permits.** A transition leaves them alone, takes one that is free, or
gives one back while another party than the gate has it. -/
theorem Conserved.exchange (h : Conserved capacity s) (ht : Transition plan s t) :
    (t.gate = s.gate ∧ t.slots = s.slots) ∨
      (s.gate.acquire? = some t.gate ∧ t.slots = s.slots + 1) ∨
      (t.gate = s.gate.release ∧ s.gate.free < s.gate.capacity ∧ t.slots + 1 = s.slots) := by
  cases ht with
  | beginDrain hl => exact .inl ⟨rfl, by simp [State.slots, Launcher.held, hl]⟩
  | acquire hl _ hfree =>
    refine .inr (.inl ⟨Gate.acquire?_eq_some_iff.mpr ⟨hfree, rfl⟩, ?_⟩)
    simp only [State.slots, Launcher.held, hl]
    omega
  | refuse hl => exact .inl ⟨rfl, by simp [State.slots, Launcher.held, hl]⟩
  | launch hl =>
    -- the permit passes from the launcher to the worker
    refine .inl ⟨rfl, ?_⟩
    simp only [State.slots, Launcher.held, hl, List.length_append, List.length_singleton]
    omega
  | giveUp hl =>
    have hslots : s.slots = s.workers.length + 1 := by
      simp only [State.slots, Launcher.held, hl]
      omega
    refine .inr (.inr ⟨rfl, h.free_lt_of_slots_pos (by omega), ?_⟩)
    rw [hslots]
    simp only [State.slots, Launcher.held]
    omega
  | drain hl _ hfree =>
    refine .inr (.inl ⟨Gate.acquire?_eq_some_iff.mpr ⟨hfree, rfl⟩, ?_⟩)
    simp only [State.slots, Launcher.held, hl]
    omega
  | beginRefill hl hge =>
    -- the launcher has taken `capacity` permits, and there are no more than that
    have hsum := h.free_add_slots
    have hcap := h.capacity_eq
    refine .inl ⟨rfl, ?_⟩
    simp only [State.slots, Launcher.held, hl] at hsum ⊢
    omega
  | @refill held hl =>
    have hslots : s.slots = held + 1 + s.workers.length := by
      simp only [State.slots, Launcher.held, hl]
    refine .inr (.inr ⟨rfl, h.free_lt_of_slots_pos (by omega), ?_⟩)
    rw [hslots]
    simp only [State.slots, Launcher.held]
    omega
  | finish hl => exact .inl ⟨rfl, by simp [State.slots, Launcher.held, hl]⟩
  | enter hs => exact .inl ⟨rfl, by simp [State.slots, hs]⟩
  | probe hs => exact .inl ⟨rfl, by simp [State.slots, hs]⟩
  | record hs => exact .inl ⟨rfl, by simp [State.slots, hs]⟩
  | leave hs => exact .inl ⟨rfl, by simp [State.slots, hs]⟩
  | @release before after w hs =>
    have hslots : s.slots = s.launcher.held + (before ++ after).length + 1 := by
      simp only [State.slots, hs, List.length_append, List.length_cons]
      omega
    exact .inr (.inr ⟨rfl, h.free_lt_of_slots_pos (by omega), hslots.symm⟩)

/-- One step: a permit is taken with a slot and given back with it. -/
theorem Conserved.step (h : Conserved capacity s) (ht : Transition plan s t) :
    Conserved capacity t := by
  have hcap := h.capacity_eq
  have hsum := h.free_add_slots
  have hfaults := h.faults_eq_zero
  obtain ⟨hgate, hslots⟩ | ⟨hgate, hslots⟩ | ⟨hgate, hlt, hslots⟩ := h.exchange ht
  · exact ⟨hgate ▸ hcap, by rw [hgate, hslots, hsum], hgate ▸ hfaults⟩
  · -- one permit fewer is free, and one slot more is taken
    obtain ⟨hfree, hgate⟩ := Gate.acquire?_eq_some_iff.mp hgate
    refine ⟨hgate ▸ hcap, ?_, hgate ▸ hfaults⟩
    rw [hgate, hslots]
    change s.gate.free - 1 + (s.slots + 1) = capacity
    omega
  · -- the gate has room for the permit, so giving it back is no fault
    rw [Gate.release_of_lt hlt] at hgate
    refine ⟨hgate ▸ hcap, ?_, hgate ▸ hfaults⟩
    rw [hgate]
    change s.gate.free + 1 + t.slots = capacity
    omega

/-! ### The load -/

/-- The load changes together with the number of workers at work. Where the load counts others as
well, they stay counted. -/
theorem Transition.inFlight_add_atWork (ht : Transition plan s t)
    (hle : s.atWork ≤ s.load.inFlight) :
    t.load.inFlight + s.atWork = s.load.inFlight + t.atWork := by
  cases ht with
  | beginDrain | acquire | refuse | giveUp | drain | beginRefill | refill | finish => rfl
  | launch => simp [State.atWork, Stage.isAtWork]
  | enter hs hw =>
    simp only [State.atWork, hs, Load.enter, List.countP_append, List.countP_cons, hw,
      Stage.isAtWork, Bool.false_eq_true, ↓reduceIte]
    omega
  | probe hs hw | record hs hw =>
    simp [State.atWork, hs, List.countP_append, hw, Stage.isAtWork]
  | leave hs hw =>
    simp only [State.atWork, hs, Load.leave, List.countP_append, List.countP_cons, hw,
      Stage.isAtWork, Bool.false_eq_true, ↓reduceIte] at hle ⊢
    omega
  | release hs hw =>
    simp [State.atWork, hs, List.countP_append, hw, Stage.isAtWork]

/-- The load counts the workers at work, and `others` beside them. -/
theorem Reaches.inFlight_eq {others : Nat} (h : Reaches plan s t)
    (hs : s.load.inFlight = others + s.atWork) : t.load.inFlight = others + t.atWork := by
  refine h.preserves (P := fun s => s.load.inFlight = others + s.atWork) ?_ hs
  intro t u ht hstep
  have hadd := hstep.inFlight_add_atWork (by omega)
  omega

/-- The peak follows the load. -/
theorem Transition.peak_eq (ht : Transition plan s t) :
    t.load.peak = s.load.peak ∨ t.load.peak = max s.load.peak t.load.inFlight := by
  cases ht with
  | beginDrain | acquire | refuse | launch | giveUp | drain | beginRefill | refill | finish =>
    exact .inl rfl
  | probe | record | leave | release => exact .inl rfl
  | enter => exact .inr rfl

/-- The peak is raised with the load, and never lowered. -/
theorem Transition.inFlight_le_peak (ht : Transition plan s t)
    (h : s.load.inFlight ≤ s.load.peak) : t.load.inFlight ≤ t.load.peak := by
  cases ht with
  | beginDrain | acquire | refuse | launch | giveUp | drain | beginRefill | refill | finish =>
    exact h
  | probe | record | release => exact h
  | enter => exact Nat.le_max_right ..
  | leave => exact Nat.le_trans (Nat.sub_le ..) h

theorem Transition.peak_mono (ht : Transition plan s t) : s.load.peak ≤ t.load.peak := by
  obtain h | h := ht.peak_eq <;> omega

/-! ### Runs of an idle scheduler -/

/-- Permits are conserved, the load counts the workers at work and nobody else, and the peak is
within the capacity. -/
structure Admitted (capacity : Nat) (s : State α) : Prop extends Conserved capacity s where
  inFlight_eq : s.load.inFlight = s.atWork
  peak_le : s.load.peak ≤ capacity

/-- A worker that has not ended holds a permit, so there are no more of them than permits. -/
theorem Conserved.length_workers_le (h : Conserved capacity s) : s.workers.length ≤ capacity := by
  have hsum := h.free_add_slots
  rw [State.slots] at hsum
  omega

theorem Admitted.inFlight_le_length_workers (h : Admitted capacity s) :
    s.load.inFlight ≤ s.workers.length :=
  h.inFlight_eq ▸ s.atWork_le_length_workers

/-- One step: a worker is counted only while it holds its permit. -/
theorem Admitted.step (h : Admitted capacity s) (ht : Transition plan s t) :
    Admitted capacity t := by
  have hcons := h.toConserved.step ht
  have hload : t.load.inFlight = t.atWork := by
    have hadd := ht.inFlight_add_atWork (Nat.le_of_eq h.inFlight_eq.symm)
    have heq := h.inFlight_eq
    omega
  refine ⟨hcons, hload, ?_⟩
  have hle : t.load.inFlight ≤ capacity :=
    hload ▸ Nat.le_trans t.atWork_le_length_workers hcons.length_workers_le
  have hpeak := h.peak_le
  obtain hp | hp := ht.peak_eq <;> omega

end Schedule

namespace Scheduler

open Schedule

variable {α : Type}

/-- **Admission.** A scheduler that is idle at first keeps to its capacity at every moment of every
run, whatever the probes come to and wherever a start is refused. The free permits and those that
the launcher and the workers have make up the capacity. The load counts the workers at work, each of
which has a permit. The peak never falls and never exceeds the capacity. A step leaves the gate
alone, takes a free permit, or gives one back while not all are free. -/
theorem admission (scheduler : Scheduler) (hidle : scheduler.load.inFlight = 0)
    (hpeak : scheduler.load.peak ≤ scheduler.capacity) (plan : Plan α) (candidates : List α)
    (collector : Collector) {t : State α}
    (ht : Reaches plan (scheduler.start candidates collector) t) :
    t.gate.capacity = scheduler.capacity ∧
      t.gate.free + (t.launcher.held + t.workers.length) = scheduler.capacity ∧
      t.load.inFlight = t.atWork ∧ t.load.inFlight ≤ t.workers.length ∧
      t.load.inFlight ≤ scheduler.capacity ∧ t.load.peak ≤ scheduler.capacity ∧
      (∀ u, Moves plan t u → t.load.peak ≤ u.load.peak) ∧
      (∀ u, Moves plan t u → u.gate = t.gate ∨ t.gate.acquire? = some u.gate ∨
        (u.gate = t.gate.release ∧ t.gate.free < scheduler.capacity)) ∧
      t.gate.faults = 0 := by
  have h : Admitted scheduler.capacity t := by
    refine ht.preserves Admitted.step ⟨conserved_initial .., ?_, hpeak⟩
    exact hidle
  have hle := h.inFlight_le_length_workers
  refine ⟨h.capacity_eq, h.free_add_slots, h.inFlight_eq, hle, Nat.le_trans hle h.length_workers_le,
    h.peak_le, fun u hu => hu.transition.peak_mono, fun u hu => ?_, h.faults_eq_zero⟩
  obtain ⟨hgate, -⟩ | ⟨hgate, -⟩ | ⟨hgate, hlt, -⟩ := h.exchange hu.transition
  · exact .inl hgate
  · exact .inr (.inl hgate)
  · exact .inr (.inr ⟨hgate, h.capacity_eq ▸ hlt⟩)

/-- The third start is refused while the second worker is at work. -/
theorem admission_at_refusal :
    ∃ t, Reaches (.ofResults (· == 2)) (pair.start [.ok none, .ok none, .ok none] .empty) t ∧
      t.launcher = .refused ∧ t.load = ⟨1, 2⟩ ∧
      t.gate.free + (t.launcher.held + t.workers.length) = 2 ∧
      t.load.inFlight ≤ t.workers.length ∧ t.load.peak ≤ 2 ∧ t.gate.faults = 0 := by
  obtain ⟨t, hrun, hl, hload⟩ : ∃ t : State (Except Failure (Option Outcome)),
      [.launcher, .launcher, .launcher, .launcher, .worker 0, .worker 1, .worker 0, .worker 0,
        .worker 0, .worker 0, .launcher, .launcher].foldlM (State.step (.ofResults (· == 2)))
          (pair.start [.ok none, .ok none, .ok none] .empty) = some t ∧
        t.launcher = .refused ∧ t.load = ⟨1, 2⟩ := ⟨_, rfl, rfl, rfl⟩
  have ht := reaches_of_foldlM hrun
  obtain ⟨-, hsum, -, hle, -, hpeak, -, -, hfaults⟩ :=
    admission pair rfl (by decide) (.ofResults (· == 2)) _ _ ht
  exact ⟨t, ht, hl, hload, hsum, hle, hpeak, hfaults⟩

end Scheduler

end NetSurvey
