import Mathlib.Algebra.Order.BigOperators.Group.List
import Mathlib.Algebra.Order.Ring.Nat
import NetSurvey.Proofs.Schedule.LeftBehind

/-!
# Runs that overlap

The runs of a session begin one after the other, but a worker that was left behind goes on beside
the later ones. Its permit belongs to a gate that no later launcher asks, and it is still counted.
So while a run is on, the load can be as high as what all earlier runs left behind and what this
run can have at work, taken together. It is never higher (`Overseen.inFlight_le`), and some order of
steps makes it as high (`exists_full`). This gives the exact condition for a bound on the peak
(`Scheduler.peak_le_iff`).

`Session.Transition` lists what can happen in a session, as `Transition` does for one run.
-/

namespace NetSurvey

namespace Schedule

namespace Session

variable {α : Type} {s t : Session α} {assignments : List (Assignment α)} {capacity bound : Nat}

/-! ### What one step can do -/

/-- The caller begins a run, or somebody in a run takes a step. -/
def Moves (s t : Session α) : Prop :=
  ∃ party, s.step party = some t

/-- Steps in some order lead from one moment of a session to another. -/
def Reaches : Session α → Session α → Prop :=
  Relation.ReflTransGen Moves

/-- What can happen at a moment of a session. -/
inductive Transition (s : Session α) : Session α → Prop where
  | begin {a : Assignment α} {waiting : List (Assignment α)} (hw : s.waiting = a :: waiting)
      (hfree : s.isFree = true) :
      Transition s { s with
        waiting
        runs := ⟨a, .initial s.capacity s.load a.candidates a.collector⟩ :: s.runs }
  | within {newer older : List (Run α)} {run : Run α} {next : State α}
      (hs : s.runs = newer ++ run :: older)
      (hnext : Schedule.Transition run.assignment.plan (run.state.withLoad s.load) next) :
      Transition s { s with
        load := next.load
        runs := newer ++ { run with state := next } :: older }

theorem Moves.transition (h : Moves s t) : Transition s t := by
  obtain ⟨party, h⟩ := h
  cases party with
  | caller =>
    change s.begin = some t at h
    unfold begin at h
    split at h
    case h_1 => cases h
    case h_2 hw =>
      split at h
      case isTrue hfree =>
        cases h
        exact .begin hw hfree
      case isFalse => cases h
  | ofRun place actor =>
    change s.stepIn place actor = some t at h
    unfold stepIn at h
    split at h
    case h_1 => cases h
    case h_2 run hrun =>
      obtain ⟨next, hnext, rfl⟩ := Option.map_eq_some_iff.mp h
      obtain ⟨newer, older, hs, hset, -⟩ := State.exists_split hrun
      rw [hset]
      exact .within hs (Schedule.Moves.transition ⟨actor, hnext⟩)

/-- What every transition keeps, every session keeps. -/
theorem Reaches.preserves {P : Session α → Prop}
    (hP : ∀ {t u : Session α}, P t → Transition t u → P u) (h : Reaches s t) (hs : P s) : P t := by
  induction h with
  | refl => exact hs
  | tail _ hmove ih => exact hP ih hmove.transition

theorem Transition.peak_eq (ht : Transition s t) :
    t.load.peak = s.load.peak ∨ t.load.peak = max s.load.peak t.load.inFlight := by
  cases ht with
  | begin => exact .inl rfl
  | within hs hnext => exact hnext.peak_eq

theorem Transition.inFlight_le_peak (ht : Transition s t) (h : s.load.inFlight ≤ s.load.peak) :
    t.load.inFlight ≤ t.load.peak := by
  cases ht with
  | begin => exact h
  | within hs hnext => exact hnext.inFlight_le_peak h

/-! ### The load is never higher -/

/-- Each run that has begun is one of the assignments, all but the latest one have exited, and the
load counts the workers at work in all of them. -/
structure Overseen (assignments : List (Assignment α)) (capacity : Nat) (s : Session α) :
    Prop where
  capacity_eq : s.capacity = capacity
  assignments_eq : (s.runs.map Run.assignment).reverse ++ s.waiting = assignments
  manned : ∀ run ∈ s.runs, Manned run.assignment capacity run.state
  exited : ∀ run ∈ s.runs.tail, run.state.launcher.hasExited = true
  inFlight_eq : s.load.inFlight = (s.runs.map fun run => run.state.atWork).sum

theorem Overseen.exited_of_isFree (h : Overseen assignments capacity s) (hfree : s.isFree = true) :
    ∀ run ∈ s.runs, run.state.launcher.hasExited = true := by
  have hexited := h.exited
  unfold isFree at hfree
  cases hs : s.runs with
  | nil => simp
  | cons run older =>
    rw [hs] at hfree hexited
    exact List.forall_mem_cons.mpr ⟨hfree, hexited⟩

theorem Overseen.step (h : Overseen assignments capacity s) (ht : Transition s t) :
    Overseen assignments capacity t := by
  have hassignments := h.assignments_eq
  have hload := h.inFlight_eq
  cases ht with
  | begin hw hfree =>
    refine ⟨h.capacity_eq, ?_, ?_, h.exited_of_isFree hfree, ?_⟩
    · simpa [hw] using hassignments
    · refine List.forall_mem_cons.mpr ⟨?_, h.manned⟩
      rw [h.capacity_eq]
      exact manned_initial ..
    · simpa using hload
  | @within newer older run next hs hnext =>
    have hmanned := h.manned
    have hexited := h.exited
    rw [hs] at hassignments hmanned hexited hload
    refine ⟨h.capacity_eq, by simpa using hassignments, ?_, ?_, ?_⟩
    · intro r hr
      have hrun := (hmanned run (by simp)).withLoad s.load
      simp only [List.mem_append, List.mem_cons] at hr
      obtain hr | rfl | hr := hr
      · exact hmanned r (by simp [hr])
      · exact hrun.step hnext
      · exact hmanned r (by simp [hr])
    · -- a run that has exited does so for good
      cases newer with
      | nil => exact hexited
      | cons latest newer =>
        intro r hr
        have hrun := hexited run (by simp)
        simp only [List.cons_append, List.tail_cons, List.mem_append, List.mem_cons] at hr
        obtain hr | rfl | hr := hr
        · exact hexited r (by simp [hr])
        · exact (congrArg _ (hnext.launcher_eq_of_hasExited hrun)).trans hrun
        · exact hexited r (by simp [hr])
    · simp only [List.map_append, List.map_cons, List.sum_append, List.sum_cons] at hload ⊢
      have hle : (run.state.withLoad s.load).atWork ≤ s.load.inFlight := by
        change run.state.atWork ≤ s.load.inFlight
        omega
      have hadd : next.load.inFlight + run.state.atWork = s.load.inFlight + next.atWork :=
        hnext.inFlight_add_atWork hle
      omega

theorem overseen_session (scheduler : Scheduler) (hidle : scheduler.load.inFlight = 0)
    (assignments : List (Assignment α)) :
    Overseen assignments scheduler.capacity (scheduler.session assignments) :=
  ⟨rfl, rfl, nofun, nofun, hidle⟩

/-- **The load is never higher** than what earlier runs left behind and what the latest one can have
at work. -/
theorem Overseen.inFlight_le (h : Overseen assignments capacity s) {run : Run α}
    {older : List (Run α)} (hs : s.runs = run :: older) :
    s.load.inFlight ≤ (older.map fun r => r.assignment.leftBehind capacity).sum +
      min capacity run.assignment.startable := by
  have hmanned := h.manned
  have hexited := h.exited
  rw [hs] at hmanned hexited
  rw [h.inFlight_eq, hs, List.map_cons, List.sum_cons]
  have hlatest := (hmanned run (by simp)).atWork_le_min
  have holder : (older.map fun r => r.state.atWork).sum ≤
      (older.map fun r => r.assignment.leftBehind capacity).sum := by
    refine List.sum_le_sum fun r hr => ?_
    refine Nat.le_trans r.state.atWork_le_length_workers ?_
    exact (hmanned r (by simp [hr])).length_workers_le_leftBehind (hexited r hr)
  omega

/-- Whatever runs come before and after it, a run and what the earlier ones left behind stay within
the bound. -/
def Fits (assignments : List (Assignment α)) (capacity bound : Nat) : Prop :=
  ∀ earlier a later, assignments = earlier ++ a :: later →
    (earlier.map (Assignment.leftBehind capacity)).sum + min capacity a.startable ≤ bound

theorem Overseen.inFlight_le_of_fits (h : Overseen assignments capacity s)
    (hfits : Fits assignments capacity bound) : s.load.inFlight ≤ bound := by
  cases hs : s.runs with
  | nil => simp [h.inFlight_eq, hs]
  | cons run older =>
    have hassignments : assignments =
        (older.map Run.assignment).reverse ++ run.assignment :: s.waiting := by
      rw [← h.assignments_eq, hs]
      simp
    have hle := hfits _ _ _ hassignments
    rw [List.map_reverse, List.sum_reverse, List.map_map] at hle
    exact Nat.le_trans (h.inFlight_le hs) hle

theorem Reaches.peak_le (h : Reaches s t) (hs : Overseen assignments capacity s)
    (hfits : Fits assignments capacity bound) (hpeak : s.load.peak ≤ bound) :
    t.load.peak ≤ bound := by
  have hall : Overseen assignments capacity t ∧ t.load.peak ≤ bound := by
    refine h.preserves (P := fun s => Overseen assignments capacity s ∧ s.load.peak ≤ bound) ?_
      ⟨hs, hpeak⟩
    rintro t u ⟨ht, hle⟩ hstep
    have hu := ht.step hstep
    have hload := hu.inFlight_le_of_fits hfits
    refine ⟨hu, ?_⟩
    obtain hp | hp := hstep.peak_eq <;> omega
  exact hall.2

/-! ### Some order makes it as high -/

/-- The latest run goes on as it would alone. -/
theorem reaches_within {a : Assignment α} {first next : State α} {older : List (Run α)}
    (hs : s.runs = ⟨a, first⟩ :: older) (hload : first.load = s.load)
    (h : Schedule.Reaches a.plan first next) :
    Reaches s { s with load := next.load, runs := ⟨a, next⟩ :: older } := by
  induction h with
  | refl =>
    rw [hload, ← hs]
    exact .refl
  | tail _ hmove ih =>
    obtain ⟨actor, hstep⟩ := hmove
    refine ih.tail ⟨.ofRun 0 actor, ?_⟩
    simp [step, stepIn, State.withLoad, hstep]

/-- A session in which no run is on can begin the next one, and take it anywhere. -/
theorem reaches_of_isFree {a : Assignment α} {waiting : List (Assignment α)} {next : State α}
    (hfree : s.isFree = true) (hw : s.waiting = a :: waiting)
    (h : Schedule.Reaches a.plan (.initial s.capacity s.load a.candidates a.collector) next) :
    Reaches s { s with load := next.load, waiting, runs := ⟨a, next⟩ :: s.runs } := by
  let begun : Session α := { s with
    waiting
    runs := ⟨a, .initial s.capacity s.load a.candidates a.collector⟩ :: s.runs }
  have hbegin : Moves s begun := ⟨.caller, by simp [step, begin, hw, hfree, begun]⟩
  have hwithin : begun.Reaches { begun with load := next.load, runs := ⟨a, next⟩ :: s.runs } :=
    reaches_within rfl rfl h
  exact .head hbegin hwithin

/-- The first runs can come and go and leave behind as many as they can. -/
theorem exists_through (hpos : 0 < s.capacity) (hfree : s.isFree = true)
    {earlier rest : List (Assignment α)} (hw : s.waiting = earlier ++ rest) :
    ∃ t, Reaches s t ∧ t.isFree = true ∧ t.waiting = rest ∧ t.capacity = s.capacity ∧
      t.load.inFlight =
        s.load.inFlight + (earlier.map (Assignment.leftBehind s.capacity)).sum := by
  induction earlier generalizing s with
  | nil => exact ⟨s, .refl, hfree, hw, rfl, rfl⟩
  | cons a earlier ih =>
    -- the run takes the way to its exit that leaves as many behind as it can
    obtain ⟨next, hnext, hexit, hlength, hprobing⟩ := exists_exit a hpos s.load
    have hload : next.load.inFlight = s.load.inFlight + next.atWork := hnext.inFlight_eq rfl
    rw [State.atWork_eq_length_workers hprobing, hlength] at hload
    let after : Session α := { s with
      load := next.load
      waiting := earlier ++ rest
      runs := ⟨a, next⟩ :: s.runs }
    have hafter : Reaches s after := reaches_of_isFree hfree hw hnext
    obtain ⟨t, ht, htfree, htw, htcap, htload⟩ := ih (s := after) hpos hexit rfl
    refine ⟨t, hafter.trans ht, htfree, htw, htcap, ?_⟩
    rw [htload, List.map_cons, List.sum_cons, ← Nat.add_assoc, ← hload]

/-- **Some order makes it as high.** -/
theorem exists_full (hpos : 0 < s.capacity) (hfree : s.isFree = true)
    {earlier later : List (Assignment α)} {a : Assignment α}
    (hw : s.waiting = earlier ++ a :: later) :
    ∃ t, Reaches s t ∧ t.load.inFlight = s.load.inFlight +
      ((earlier.map (Assignment.leftBehind s.capacity)).sum + min s.capacity a.startable) := by
  obtain ⟨t, ht, hfree, hw, hcap, hload⟩ := exists_through hpos hfree hw
  -- from there the run starts as many workers as it can, and none of them ends
  obtain ⟨next, hnext, -, -, hlength, hprobing⟩ :=
    exists_crew a (n := 0) (k := min t.capacity a.startable) (hcap ▸ hpos) t.load (by omega)
      (by omega)
  have hadd : next.load.inFlight = t.load.inFlight + next.atWork := hnext.inFlight_eq rfl
  rw [State.atWork_eq_length_workers hprobing, hlength, hload, hcap] at hadd
  exact ⟨_, ht.trans (reaches_of_isFree hfree hw hnext), by rw [hadd]; omega⟩

end Session

end Schedule

namespace Scheduler

open Schedule

variable {α : Type}

/-- The peak of an idle scheduler stays within a bound in every order, exactly if every run and what
the earlier ones left behind do. -/
theorem peak_le_iff (scheduler : Scheduler) (hidle : scheduler.load.inFlight = 0) {bound : Nat}
    (hpeak : scheduler.load.peak ≤ bound) (assignments : List (Assignment α)) :
    (∀ t, (scheduler.session assignments).Reaches t → t.load.peak ≤ bound) ↔
      Session.Fits assignments scheduler.capacity bound := by
  constructor
  · intro hall earlier a later hassignments
    obtain ⟨t, ht, hload⟩ :=
      Session.exists_full (s := scheduler.session assignments) scheduler.capacity_pos rfl
        hassignments
    have hle : t.load.inFlight ≤ t.load.peak := by
      refine ht.preserves (fun h ht => ht.inFlight_le_peak h) ?_
      exact Nat.le_trans (Nat.le_of_eq hidle) (Nat.zero_le _)
    have hzero : (scheduler.session assignments).load.inFlight = 0 := hidle
    rw [hzero, Nat.zero_add] at hload
    exact hload ▸ Nat.le_trans hle (hall t ht)
  · intro hfits t ht
    exact ht.peak_le (Session.overseen_session scheduler hidle assignments) hfits hpeak

/-- **When a scheduler is idle after its runs.** Take a scheduler that is idle at first. A run on it
never exits while one of its workers is counted, and never has an outcome recorded after its exit,
exactly if every start is accepted, the first one is refused, or there is only one permit: a
launcher that gives up later does not wait for the workers it has started. Runs of this kind, one
after the other, keep the peak within the capacity. For runs of any kind the peak stays within the
capacity exactly if each of them has room for its workers beside those that the earlier ones can
leave behind. -/
theorem idle_after_exit (scheduler : Scheduler) (hidle : scheduler.load.inFlight = 0)
    (hpeak : scheduler.load.peak ≤ scheduler.capacity) :
    (∀ a : Assignment α,
      ((∀ t, Reaches a.plan (scheduler.start a.candidates a.collector) t →
          t.launcher.hasExited = true → t.load.inFlight = 0) ↔
        a.EndsAlone scheduler.capacity) ∧
      ((∀ t, Reaches a.plan (scheduler.start a.candidates a.collector) t →
          t.launcher.hasExited = true → ∀ u, Reaches a.plan t u → u.collector = t.collector) ↔
        a.EndsAlone scheduler.capacity)) ∧
    ∀ assignments : List (Assignment α),
      ((∀ a ∈ assignments, a.EndsAlone scheduler.capacity) →
        ∀ t, (scheduler.session assignments).Reaches t → t.load.peak ≤ scheduler.capacity) ∧
      ((∀ t, (scheduler.session assignments).Reaches t → t.load.peak ≤ scheduler.capacity) ↔
        ∀ earlier a later, assignments = earlier ++ a :: later →
          (earlier.map (Assignment.leftBehind scheduler.capacity)).sum +
            min scheduler.capacity a.startable ≤ scheduler.capacity) := by
  have hpos := scheduler.capacity_pos
  refine ⟨fun a => ⟨?_, ?_⟩, fun assignments => ⟨fun hall => ?_, ?_⟩⟩
  · have hiff := inFlight_eq_at_exit_iff a hpos scheduler.load
    rwa [hidle, Assignment.leftBehind_eq_zero_iff hpos] at hiff
  · have hiff := collector_eq_after_exit_iff a hpos scheduler.load
    rwa [Assignment.leftBehind_eq_zero_iff hpos] at hiff
  · -- nothing is ever left behind, so each run has the capacity to itself
    refine (scheduler.peak_le_iff hidle hpeak assignments).mpr fun earlier a later heq => ?_
    have hzero : (earlier.map (Assignment.leftBehind scheduler.capacity)).sum = 0 := by
      refine List.sum_eq_zero fun n hn => ?_
      obtain ⟨b, hb, rfl⟩ := List.mem_map.mp hn
      exact (Assignment.leftBehind_eq_zero_iff hpos).mpr (hall b (by simp [heq, hb]))
    omega
  · exact scheduler.peak_le_iff hidle hpeak assignments

/-- Two candidates, of which the second one gets a worker only if `accepted` says so. -/
def twoResults (accepted : Bool) : Assignment (Except Failure (Option Outcome)) where
  plan := .ofResults fun n => n == 1 && !accepted
  candidates := [.ok none, .ok none]

-- With two permits, the first run gives up at its second candidate while its first worker is
-- probing, and the two workers of the second run bring the peak to three.
example :
    let first : List Actor := [.launcher, .launcher, .worker 0, .launcher, .launcher, .launcher]
    let second : List Actor := [.launcher, .launcher, .launcher, .launcher, .worker 0, .worker 1]
    let parties : List Party :=
      .caller :: first.map (.ofRun 0) ++ .caller :: second.map (.ofRun 0)
    (parties.foldlM Session.step (pair.session [twoResults false, twoResults true])).map
      (·.load.peak) = some 3 := rfl

end Scheduler

end NetSurvey
