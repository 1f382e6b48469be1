import Mathlib.Data.List.Forall2
import Mathlib.Data.List.Induction
import NetSurvey.Proofs.Schedule.Recording

/-!
# Bounded overtaking

Workers are started in the order of the candidates and numbered in that order, but they need not
record in it. `recorders` reads off a run, step by step, which worker records when. How far one
worker can get ahead of another is bounded by the permits: a worker has its permit until after it
has recorded, so at the moment of an outcome all workers that have been started, but for as many as
there are permits, have recorded theirs (`Followed.lt_add_capacity`). The invariant `Followed`
keeps the count: the workers that have recorded and those that have not are together the workers
that have been started, each once.

With a single permit nobody is overtaken, and the outcomes come in the order of the candidates.
-/

namespace NetSurvey

namespace Schedule

variable {α : Type}

/-! ### Who records -/

/-- The outcome of a worker at this stage is the next thing to be recorded. -/
def Stage.isSettled : Stage → Bool
  | .started => false
  | .probing => false
  | .settled _ => true
  | .recorded => false
  | .leaving => false

/-- The number of the worker that records an outcome when somebody takes a step. -/
def State.recorder? (s : State α) : Actor → Option Nat
  | .launcher => none
  | .worker place => (s.workers[place]?.filter (·.stage.isSettled)).map Worker.number

/-- The numbers of the workers that record while steps are taken, in the order in which they do. -/
def recorders (plan : Plan α) : State α → List Actor → List Nat
  | _, [] => []
  | s, actor :: actors =>
    (s.recorder? actor).toList ++
      ((s.step plan actor).map fun t => recorders plan t actors).getD []

/-- The numbers of workers that have not recorded their candidates. -/
def unrecordedNumbers (ws : List (Worker α)) : List Nat :=
  (ws.filter fun w => !w.stage.isRecorded).map Worker.number

variable {plan : Plan α} {s t : State α} {actor : Actor} {candidates : List α}
  {collector : Collector} {capacity : Nat} {numbers : List Nat}

theorem unrecordedNumbers_split (before after : List (Worker α)) (w : Worker α) :
    unrecordedNumbers (before ++ w :: after) =
      unrecordedNumbers before ++
        (if w.stage.isRecorded then unrecordedNumbers after
          else w.number :: unrecordedNumbers after) := by
  cases h : w.stage.isRecorded <;> simp [unrecordedNumbers, h]

theorem length_unrecordedNumbers_le (ws : List (Worker α)) :
    (unrecordedNumbers ws).length ≤ ws.length := by
  rw [unrecordedNumbers, List.length_map]
  exact List.length_filter_le ..

/-- The launcher records nothing. -/
theorem collector_launcherStep (h : s.launcherStep plan = some t) : t.collector = s.collector := by
  unfold State.launcherStep at h
  split at h
  case h_1 =>
    split at h
    · cases h
      rfl
    · obtain ⟨g, -, rfl⟩ := Option.map_eq_some_iff.mp h
      rfl
  case h_2 =>
    split at h
    · cases h
    · split at h <;> cases h <;> rfl
  case h_4 =>
    split at h
    · obtain ⟨g, -, rfl⟩ := Option.map_eq_some_iff.mp h
      rfl
    · cases h
      rfl
  case h_3 | h_5 | h_6 =>
    cases h
    rfl
  case h_7 | h_8 => cases h

/-- In a step nobody records, and the collector stays as it is, or a worker does, and brings its
candidate to the collector. -/
theorem recorder?_cases (h : s.step plan actor = some t) :
    (s.recorder? actor = none ∧ t.collector = s.collector) ∨
      ∃ before after w outcome, s.workers = before ++ w :: after ∧ w.stage = .settled outcome ∧
        s.recorder? actor = some w.number ∧
        t = { s with
          workers := before ++ { w with stage := .recorded } :: after
          collector := s.collector.add outcome } := by
  cases actor with
  | launcher => exact .inl ⟨rfl, collector_launcherStep h⟩
  | worker place =>
    obtain ⟨w, hw, rfl⟩ := Option.map_eq_some_iff.mp h
    unfold State.workerStep
    cases hstage : w.stage with
    | started | probing | recorded | leaving =>
      exact .inl ⟨by simp [State.recorder?, hw, hstage, Stage.isSettled], rfl⟩
    | settled outcome =>
      obtain ⟨before, after, hs, hset, -⟩ := State.exists_split hw
      refine .inr ⟨before, after, w, outcome, hs, hstage, ?_, ?_⟩
      · simp [State.recorder?, hw, hstage, Stage.isSettled]
      · simp only [State.advance, hset]

/-! ### Workers and the places of their candidates -/

/-- Every worker has the number that is the place of its candidate. -/
def State.Numbered (candidates : List α) (s : State α) : Prop :=
  ∀ w ∈ s.workers, candidates[w.number]? = some w.candidate

theorem State.Numbered.step (h : s.Numbered candidates) (hq : Queued plan candidates s)
    (ht : Transition plan s t) : t.Numbered candidates := by
  cases ht with
  | beginDrain | acquire | refuse | giveUp | drain | beginRefill | refill | finish => exact h
  | @launch a rest hl hp =>
    intro w hw
    rcases List.mem_append.mp hw with hw | hw
    · exact h w hw
    · -- the candidate that is taken is the first one that waits
      rw [List.mem_singleton.mp hw]
      change candidates[s.launched]? = some a
      rw [← List.head?_drop, ← hq.pending_eq, hp, List.head?_cons]
  | @enter before after v hs | @probe before after v hs | @record before after v _ hs
  | @leave before after v hs =>
    intro w hw
    simp only [List.mem_append, List.mem_cons] at hw
    rcases hw with hw | rfl | hw
    · exact h w (by simp [hs, hw])
    · exact h v (by simp [hs])
    · exact h w (by simp [hs, hw])
  | release hs =>
    intro w hw
    refine h w ?_
    simp only [hs, List.mem_append, List.mem_cons] at hw ⊢
    exact hw.imp_right .inr

/-! ### What has been recorded, and by whom -/

/-- The workers `numbers` have recorded, in this order and after what the collector held at first.
They and the workers that have not recorded are those that have been started, and the one that
recorded after `j` others is one of the first `j + capacity`. -/
structure Followed (plan : Plan α) (candidates : List α) (collector : Collector) (capacity : Nat)
    (numbers : List Nat) (s : State α) : Prop
    extends Conserved capacity s, Queued plan candidates s where
  faithful : s.Faithful plan
  numbered : s.Numbered candidates
  exists_recorded : ∃ recorded, s.collector.toList = collector.toList ++ recorded ∧
    List.Forall₂ (fun n outcome => ∃ a, candidates[n]? = some a ∧ outcome = plan.expected a)
      numbers recorded
  perm : (numbers ++ unrecordedNumbers s.workers).Perm (List.range s.launched)
  lt_add_capacity : ∀ j n, numbers[j]? = some n → n < j + capacity

/-- A step in which nobody records changes neither side of the count, unless a worker is started. -/
theorem Followed.perm_of_collector_eq
    (h : (numbers ++ unrecordedNumbers s.workers).Perm (List.range s.launched))
    (ht : Transition plan s t) (hc : t.collector = s.collector) :
    (numbers ++ unrecordedNumbers t.workers).Perm (List.range t.launched) := by
  cases ht with
  | beginDrain | acquire | refuse | giveUp | drain | beginRefill | refill | finish => exact h
  | launch =>
    simpa [unrecordedNumbers, Stage.isRecorded, List.range_succ] using h.append_right [s.launched]
  | enter hs hw | probe hs hw | leave hs hw | release hs hw =>
    simpa [hs, unrecordedNumbers, hw, Stage.isRecorded] using h
  | record hs hw =>
    have hsize := congrArg Collector.size hc
    simp at hsize

/-- **Who records is not far ahead.** A worker that records has been started, and of the workers
that have been started only those with a permit have not recorded. -/
theorem Followed.lt_of_settled (h : Followed plan candidates collector capacity numbers s)
    {before after : List (Worker α)} {w : Worker α} {outcome : Option Outcome}
    (hs : s.workers = before ++ w :: after) (hw : w.stage = .settled outcome) :
    w.number < numbers.length + capacity := by
  have hmem : w.number ∈ numbers ++ unrecordedNumbers s.workers := by
    simp [hs, unrecordedNumbers_split, hw, Stage.isRecorded]
  have hlt : w.number < s.launched := List.mem_range.mp (h.perm.mem_iff.mp hmem)
  have hcount : numbers.length + (unrecordedNumbers s.workers).length = s.launched := by
    simpa using h.perm.length_eq
  have hopen := length_unrecordedNumbers_le s.workers
  have hpermits := h.length_workers_le
  omega

theorem Followed.step (h : Followed plan candidates collector capacity numbers s)
    (hstep : s.step plan actor = some t) :
    Followed plan candidates collector capacity (numbers ++ (s.recorder? actor).toList) t := by
  have ht : Transition plan s t := Moves.transition ⟨actor, hstep⟩
  have hcons := h.toConserved.step ht
  have hqueued := h.toQueued.step ht
  have hfaith := h.faithful.step ht
  have hnumbered := h.numbered.step h.toQueued ht
  obtain ⟨recorded, hrec, hall⟩ := h.exists_recorded
  rcases recorder?_cases hstep with ⟨hnone, hc⟩ | ⟨before, after, w, outcome, hs, hw, hnumber, rfl⟩
  · rw [hnone, Option.toList_none, List.append_nil]
    exact ⟨hcons, hqueued, hfaith, hnumbered, ⟨recorded, by rw [hc, hrec], hall⟩,
      Followed.perm_of_collector_eq h.perm ht hc, h.lt_add_capacity⟩
  · rw [hnumber, Option.toList_some]
    refine ⟨hcons, hqueued, hfaith, hnumbered, ⟨recorded ++ [outcome], ?_, ?_⟩, ?_, ?_⟩
    · rw [Collector.toList_add, hrec, List.append_assoc]
    · have hmem : w ∈ s.workers := by simp [hs]
      refine List.rel_append hall (.cons ⟨w.candidate, h.numbered w hmem, ?_⟩ .nil)
      rw [← plan.outcome_eq_expected]
      exact h.faithful w hmem outcome hw
    · refine List.Perm.trans ?_ h.perm
      simp only [hs, unrecordedNumbers_split, hw, Stage.isRecorded, ↓reduceIte,
        Bool.false_eq_true, List.append_assoc, List.cons_append, List.nil_append]
      exact List.perm_middle.symm.append_left numbers
    · intro j n hj
      rcases Nat.lt_or_ge j numbers.length with hlt | hge
      · rw [List.getElem?_append_left hlt] at hj
        exact h.lt_add_capacity j n hj
      · have hlast : j = numbers.length ∧ w.number = n := by
          rw [List.getElem?_append_right hge, List.getElem?_singleton] at hj
          split at hj
          · exact ⟨by omega, Option.some.inj hj⟩
          · cases hj
        rw [← hlast.2, hlast.1]
        exact h.lt_of_settled hs hw

/-- A run is followed from beginning to end. -/
theorem Followed.run (h : Followed plan candidates collector capacity numbers s)
    {actors : List Actor} (hrun : actors.foldlM (State.step plan) s = some t) :
    Followed plan candidates collector capacity (numbers ++ recorders plan s actors) t := by
  induction actors generalizing s numbers with
  | nil =>
    cases hrun
    simpa [recorders] using h
  | cons actor actors ih =>
    obtain ⟨u, hstep, hrest⟩ := Option.bind_eq_some_iff.mp hrun
    simpa [recorders, hstep] using ih (h.step hstep) hrest

/-! ### A single permit -/

end Schedule

namespace Scheduler

open Schedule

variable {α : Type}

end Scheduler

end NetSurvey
