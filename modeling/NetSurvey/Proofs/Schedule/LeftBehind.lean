import NetSurvey.Proofs.Schedule.Recording
import NetSurvey.Schedule.Session

/-!
# Workers that are left behind

A launcher that gives up does not take all permits first, so workers may still be at work when it
exits. `Assignment.leftBehind` is how many there can be: none if every start is accepted, and else
one for each accepted start, as long as one permit is left for the start that is refused. No exit
leaves more behind (`Manned.length_workers_le_leftBehind`), and some order of steps leaves as many
(`exists_exit`).
-/

namespace NetSurvey

/-! ### How many workers can be started, and how many can stay -/

namespace Assignment

variable {α : Type} {a : Assignment α} {n : Nat}

/-- The number of workers that can be started: the place of the first start that is refused. -/
def startable (a : Assignment α) : Nat :=
  (List.range a.candidates.length).findIdx a.plan.refusesStart

/-- The most workers that a run can leave behind. -/
def leftBehind (capacity : Nat) (a : Assignment α) : Nat :=
  if a.startable < a.candidates.length then min a.startable (capacity - 1) else 0

theorem startable_le (a : Assignment α) : a.startable ≤ a.candidates.length := by
  have hle : a.startable ≤ (List.range a.candidates.length).length := List.findIdx_le_length
  rwa [List.length_range] at hle

theorem accepted_of_lt_startable (h : n < a.startable) : a.plan.refusesStart n = false := by
  have hnot := List.not_of_lt_findIdx h
  rwa [List.getElem_range] at hnot

theorem refused_startable (h : a.startable < a.candidates.length) :
    a.plan.refusesStart a.startable = true := by
  have hlt : a.startable < (List.range a.candidates.length).length := by rwa [List.length_range]
  have hfirst : a.plan.refusesStart (List.range a.candidates.length)[a.startable] = true :=
    List.findIdx_getElem
  rwa [List.getElem_range] at hfirst

/-- The first starts that are accepted are among those that can be made. -/
theorem le_startable (hle : n ≤ a.candidates.length)
    (h : ∀ i < n, a.plan.refusesStart i = false) : n ≤ a.startable := by
  refine Nat.le_of_not_lt fun hlt => ?_
  have hrefused := refused_startable (Nat.lt_of_lt_of_le hlt hle)
  rw [h _ hlt] at hrefused
  cases hrefused

theorem startable_eq_of_refused (hlt : n < a.candidates.length)
    (h : ∀ i < n, a.plan.refusesStart i = false) (hn : a.plan.refusesStart n = true) :
    a.startable = n := by
  refine Nat.le_antisymm (Nat.le_of_not_lt fun hgt => ?_) (le_startable (Nat.le_of_lt hlt) h)
  rw [accepted_of_lt_startable hgt] at hn
  cases hn

/-- Every start is accepted, or the first one is refused, or there is only one permit. -/
def EndsAlone (capacity : Nat) (a : Assignment α) : Prop :=
  (∀ i < a.candidates.length, a.plan.refusesStart i = false) ∨
    a.plan.refusesStart 0 = true ∨ capacity = 1

theorem leftBehind_eq_zero_iff {capacity : Nat} (hpos : 0 < capacity) :
    a.leftBehind capacity = 0 ↔ a.EndsAlone capacity := by
  unfold leftBehind EndsAlone
  by_cases hlt : a.startable < a.candidates.length
  · rw [if_pos hlt]
    constructor
    · intro hmin
      have hzero : a.startable = 0 ∨ capacity = 1 := by omega
      refine .inr (hzero.imp_left fun h => ?_)
      rw [← h]
      exact refused_startable hlt
    · rintro (hall | hfirst | rfl)
      · have hrefused := refused_startable hlt
        rw [hall _ hlt] at hrefused
        cases hrefused
      · have hzero : a.startable = 0 :=
          startable_eq_of_refused (by omega) (fun i hi => absurd hi (Nat.not_lt_zero i)) hfirst
        rw [hzero, Nat.zero_min]
      · exact Nat.min_zero _
  · rw [if_neg hlt]
    refine iff_of_true rfl (.inl fun i hi => accepted_of_lt_startable ?_)
    have hle := a.startable_le
    omega

end Assignment

namespace Schedule

variable {α : Type} {plan : Plan α} {a : Assignment α} {s t : State α} {capacity : Nat}

/-! ### No exit leaves more behind -/

/-- There are no more workers than were started, and after a refused start not all permits belong to
workers. -/
structure Manned (a : Assignment α) (capacity : Nat) (s : State α) : Prop
    extends Steady capacity s, Queued a.plan a.candidates s where
  length_workers_le_launched : s.workers.length ≤ s.launched
  length_workers_lt : s.launcher = .gaveUp → s.workers.length < capacity

theorem Manned.step (h : Manned a capacity s) (ht : Transition a.plan s t) :
    Manned a capacity t := by
  have hle := h.length_workers_le_launched
  have hlt := h.length_workers_lt
  refine ⟨h.toSteady.step ht, h.toQueued.step ht, ?_, ?_⟩
  · cases ht with
    | beginDrain | acquire | refuse | giveUp | drain | beginRefill | refill | finish => exact hle
    | launch => simpa using hle
    | enter hs | probe hs | record hs | leave hs => simpa [hs] using hle
    | release hs =>
      simp only [hs, List.length_append, List.length_cons] at hle ⊢
      omega
  · cases ht with
    | beginDrain | acquire | refuse | launch | drain | beginRefill | refill | finish => exact nofun
    | giveUp hl =>
      intro _
      have hsum := h.free_add_slots
      rw [State.slots, hl, Launcher.held] at hsum
      change s.workers.length < capacity
      omega
    | enter hs | probe hs | record hs | leave hs => simpa [hs] using hlt
    | release hs =>
      intro hl
      have hlt := hlt hl
      simp only [hs, List.length_append, List.length_cons] at hlt ⊢
      omega

theorem manned_initial (a : Assignment α) (capacity : Nat) (load : Load) :
    Manned a capacity (.initial capacity load a.candidates a.collector) :=
  ⟨steady_initial .., queued_initial .., Nat.le_refl _, nofun⟩

theorem Reaches.manned {load : Load}
    (h : Reaches a.plan (.initial capacity load a.candidates a.collector) t) :
    Manned a capacity t :=
  h.preserves Manned.step (manned_initial a capacity load)

/-- The load does not matter for who is there. -/
theorem Manned.withLoad (h : Manned a capacity s) (load : Load) :
    Manned a capacity (s.withLoad load) :=
  ⟨⟨⟨h.capacity_eq, h.free_add_slots, h.faults_eq_zero⟩, h.placed⟩,
    ⟨h.pending_eq, h.launched_le, h.accepted, h.refused⟩,
    h.length_workers_le_launched, h.length_workers_lt⟩

theorem Manned.launched_le_startable (h : Manned a capacity s) : s.launched ≤ a.startable :=
  Assignment.le_startable h.launched_le h.accepted

/-- Not more workers are there than there are permits and starts. -/
theorem Manned.atWork_le_min (h : Manned a capacity s) : s.atWork ≤ min capacity a.startable := by
  refine Nat.le_trans s.atWork_le_length_workers (Nat.le_min.mpr ⟨h.length_workers_le, ?_⟩)
  exact Nat.le_trans h.length_workers_le_launched h.launched_le_startable

/-- **No exit leaves more behind.** -/
theorem Manned.length_workers_le_leftBehind (h : Manned a capacity s)
    (hexit : s.launcher.hasExited = true) : s.workers.length ≤ a.leftBehind capacity := by
  cases hl : s.launcher with
  | returned =>
    obtain ⟨-, hworkers⟩ := h.placed.of_returned hl
    simp [hworkers]
  | gaveUp =>
    obtain ⟨hlt, hrefused⟩ := h.refusesStart_of_gaveUp h.placed hl
    have hstart := Assignment.startable_eq_of_refused hlt h.accepted hrefused
    have hle := h.length_workers_le_launched
    have hcap := h.length_workers_lt hl
    rw [Assignment.leftBehind, hstart, if_pos hlt]
    omega
  | ready | holding | refused | draining | refilling => simp [hl, Launcher.hasExited] at hexit

theorem Manned.workers_eq_nil (h : Manned a capacity s) (hexit : s.launcher.hasExited = true)
    (hleft : a.leftBehind capacity = 0) : s.workers = [] := by
  have hle := h.length_workers_le_leftBehind hexit
  rw [hleft] at hle
  exact List.eq_nil_of_length_eq_zero (Nat.le_zero.mp hle)

/-! ### Some order leaves as many behind -/

/-- A worker that is probing can go on until its outcome is recorded, while all others wait. -/
theorem reaches_recorded (plan : Plan α) {before after : List (Worker α)} {w : Worker α}
    (hs : s.workers = before ++ w :: after) (hw : w.stage = .probing) :
    Reaches plan s { s with
      workers := before ++ { w with stage := .recorded } :: after
      collector := s.collector.add (plan.outcome w.candidate)
      calls := s.calls.addAll (plan.probe w.candidate).calls
      log := (s.log.addAll (plan.probe w.candidate).log).addAll (plan.settled w.candidate).2 } := by
  refine .head (Transition.moves (.probe hs hw)) ?_
  exact .single (Transition.moves
    (.record (w := { w with stage := .settled (plan.outcome w.candidate) }) rfl rfl))

/-- A worker that is probing can go on to its end while all others wait. -/
theorem exists_end_of_probing (plan : Plan α) {ws : List (Worker α)} {w : Worker α}
    (hs : s.workers = ws ++ [w]) (hw : w.stage = .probing) :
    ∃ t, Reaches plan s t ∧ t.launcher = s.launcher ∧ t.launched = s.launched ∧ t.workers = ws := by
  have hend : Reaches plan s { s with
      gate := s.gate.release
      load := s.load.leave
      workers := ws ++ []
      collector := s.collector.add (plan.outcome w.candidate)
      calls := s.calls.addAll (plan.probe w.candidate).calls
      log := (s.log.addAll (plan.probe w.candidate).log).addAll (plan.settled w.candidate).2 } := by
    refine (reaches_recorded plan hs hw).trans ?_
    refine .head (Transition.moves (.leave rfl rfl)) ?_
    exact .single (Transition.moves (.release rfl rfl))
  exact ⟨_, hend, rfl, rfl, List.append_nil ws⟩

/-- A launcher with nothing in hand can take a permit for the next candidate. -/
theorem Manned.exists_next (h : Manned a capacity s) (hl : s.launcher = .ready)
    (hlt : s.launched < a.candidates.length) (hroom : s.workers.length < capacity) :
    0 < s.gate.free ∧ ∃ c rest, s.pending = c :: rest := by
  constructor
  · have hsum := h.free_add_slots
    rw [State.slots, hl, Launcher.held] at hsum
    omega
  · refine List.exists_cons_of_ne_nil ?_
    rw [h.pending_eq, Ne, List.drop_eq_nil_iff]
    omega

/-- A launcher with nothing in hand can start the next worker, which begins to probe. -/
theorem Manned.exists_launch (h : Manned a capacity s) (hl : s.launcher = .ready)
    (hlt : s.launched < a.startable) (hroom : s.workers.length < capacity) :
    ∃ t w, Reaches a.plan s t ∧ t.launcher = .ready ∧ t.launched = s.launched + 1 ∧
      t.workers = s.workers ++ [w] ∧ w.stage = .probing := by
  obtain ⟨hfree, c, rest, hp⟩ := h.exists_next hl (Nat.lt_of_lt_of_le hlt a.startable_le) hroom
  have hlaunch : Reaches a.plan s { s with
      gate := { s.gate with free := s.gate.free - 1 }
      load := s.load.enter
      launcher := .ready
      pending := rest
      launched := s.launched + 1
      workers := s.workers ++ [⟨s.launched, c, .probing⟩] } := by
    refine .head (Transition.moves (.acquire hl hp hfree)) ?_
    refine .head (Transition.moves (.launch rfl hp (Assignment.accepted_of_lt_startable hlt))) ?_
    exact .single (Transition.moves (.enter (w := ⟨s.launched, c, .started⟩) rfl rfl))
  exact ⟨_, _, hlaunch, rfl, rfl, rfl, rfl⟩

/-- At a start that is refused the launcher gives up, whoever is at work. -/
theorem Manned.exists_gaveUp (h : Manned a capacity s) (hl : s.launcher = .ready)
    (hlt : s.launched < a.candidates.length) (hr : a.plan.refusesStart s.launched = true)
    (hroom : s.workers.length < capacity) :
    ∃ t, Reaches a.plan s t ∧ t.launcher = .gaveUp ∧ t.workers = s.workers := by
  obtain ⟨hfree, c, rest, hp⟩ := h.exists_next hl hlt hroom
  have hgaveUp : Reaches a.plan s { s with
      gate := Gate.release { s.gate with free := s.gate.free - 1 }
      launcher := .gaveUp } := by
    refine .head (Transition.moves (.acquire hl hp hfree)) ?_
    refine .head (Transition.moves (.refuse rfl hp hr)) ?_
    exact .single (Transition.moves (.giveUp rfl))
  exact ⟨_, hgaveUp, rfl, rfl⟩

/-- The first workers can come and go one after the other. -/
theorem exists_passed (a : Assignment α) (hpos : 0 < capacity) (load : Load) {n : Nat}
    (hn : n ≤ a.startable) :
    ∃ t, Reaches a.plan (.initial capacity load a.candidates a.collector) t ∧
      t.launcher = .ready ∧ t.launched = n ∧ t.workers = [] := by
  induction n with
  | zero => exact ⟨_, .refl, rfl, rfl, rfl⟩
  | succ n ih =>
    obtain ⟨s, hs, hl, hlaunched, hworkers⟩ := ih (Nat.le_of_succ_le hn)
    obtain ⟨t, w, ht, htl, htlaunched, htworkers, hw⟩ :=
      hs.manned.exists_launch hl (by omega) (by rw [hworkers]; exact hpos)
    obtain ⟨u, hu, hul, hulaunched, huworkers⟩ := exists_end_of_probing a.plan htworkers hw
    refine ⟨u, hs.trans (ht.trans hu), hul.trans htl, ?_, huworkers.trans hworkers⟩
    rw [hulaunched, htlaunched, hlaunched]

/-- The next workers can all be probing at once, as long as there are permits. -/
theorem exists_crew (a : Assignment α) (hpos : 0 < capacity) (load : Load) {n k : Nat}
    (hn : n + k ≤ a.startable) (hk : k ≤ capacity) :
    ∃ t, Reaches a.plan (.initial capacity load a.candidates a.collector) t ∧
      t.launcher = .ready ∧ t.launched = n + k ∧ t.workers.length = k ∧
      ∀ w ∈ t.workers, w.stage = .probing := by
  induction k with
  | zero =>
    obtain ⟨s, hs, hl, hlaunched, hworkers⟩ := exists_passed a hpos load hn
    exact ⟨s, hs, hl, hlaunched, by simp [hworkers], by simp [hworkers]⟩
  | succ k ih =>
    obtain ⟨s, hs, hl, hlaunched, hlength, hprobing⟩ := ih (by omega) (by omega)
    obtain ⟨t, w, ht, htl, htlaunched, htworkers, hw⟩ :=
      hs.manned.exists_launch hl (by omega) (by omega)
    refine ⟨t, hs.trans ht, htl, by omega, by simp [htworkers, hlength], fun v hv => ?_⟩
    rw [htworkers, List.mem_append, List.mem_singleton] at hv
    obtain hv | rfl := hv
    · exact hprobing v hv
    · exact hw

/-- **Some order leaves as many behind**, and all of them are probing. -/
theorem exists_exit (a : Assignment α) (hpos : 0 < capacity) (load : Load) :
    ∃ t, Reaches a.plan (.initial capacity load a.candidates a.collector) t ∧
      t.launcher.hasExited = true ∧ t.workers.length = a.leftBehind capacity ∧
      ∀ w ∈ t.workers, w.stage = .probing := by
  by_cases hlt : a.startable < a.candidates.length
  · have hleft : a.leftBehind capacity = min a.startable (capacity - 1) := if_pos hlt
    -- all but the last few accepted workers come and go, and those few are there at the refusal
    obtain ⟨s, hs, hl, hlaunched, hlength, hprobing⟩ :=
      exists_crew a hpos load (n := a.startable - a.leftBehind capacity)
        (k := a.leftBehind capacity) (by omega) (by omega)
    have hstart : s.launched = a.startable := by omega
    obtain ⟨t, ht, htl, htworkers⟩ := hs.manned.exists_gaveUp hl (hstart ▸ hlt)
      (hstart ▸ Assignment.refused_startable hlt) (by omega)
    exact ⟨t, hs.trans ht, by rw [htl]; rfl, htworkers ▸ hlength, htworkers ▸ hprobing⟩
  · -- nothing is refused, so whatever the order is, the launcher returns
    have hleft : a.leftBehind capacity = 0 := if_neg hlt
    let start : State α := .initial capacity load a.candidates a.collector
    let choose : Unit → State α → Unit × Actor := fun _ _ => ((), .launcher)
    have hreach : Reaches a.plan start (finish a.plan choose () start).2 := reaches_drive ..
    have hexit := (steady_initial capacity load a.candidates a.collector).hasExited_finish hpos
      a.plan choose ()
    have hworkers := hreach.manned.workers_eq_nil hexit hleft
    exact ⟨_, hreach, hexit, by rw [hworkers, hleft]; rfl, by simp [hworkers]⟩

/-! ### Idle at the exit -/

theorem State.atWork_eq_length_workers (h : ∀ w ∈ s.workers, w.stage = .probing) :
    s.atWork = s.workers.length :=
  List.countP_eq_length.mpr fun w hw => by rw [h w hw]; rfl

/-- The load is always what it was before when the launcher exits, exactly if the run can leave
nobody behind. -/
theorem inFlight_eq_at_exit_iff (a : Assignment α) (hpos : 0 < capacity) (load : Load) :
    (∀ t, Reaches a.plan (.initial capacity load a.candidates a.collector) t →
        t.launcher.hasExited = true → t.load.inFlight = load.inFlight) ↔
      a.leftBehind capacity = 0 := by
  constructor
  · intro hidle
    obtain ⟨t, ht, hexit, hlength, hprobing⟩ := exists_exit a hpos load
    have hload : t.load.inFlight = load.inFlight + t.atWork := ht.inFlight_eq rfl
    rw [hidle t ht hexit, State.atWork_eq_length_workers hprobing] at hload
    omega
  · intro hleft t ht hexit
    have hload : t.load.inFlight = load.inFlight + t.atWork := ht.inFlight_eq rfl
    simpa [State.atWork, ht.manned.workers_eq_nil hexit hleft] using hload

/-- Nothing is ever recorded after the launcher has exited, exactly if the run can leave nobody
behind. -/
theorem collector_eq_after_exit_iff (a : Assignment α) (hpos : 0 < capacity) (load : Load) :
    (∀ t, Reaches a.plan (.initial capacity load a.candidates a.collector) t →
        t.launcher.hasExited = true → ∀ u, Reaches a.plan t u → u.collector = t.collector) ↔
      a.leftBehind capacity = 0 := by
  constructor
  · intro hquiet
    obtain ⟨t, ht, hexit, hlength, hprobing⟩ := exists_exit a hpos load
    cases hw : t.workers with
    | nil => simpa [hw] using hlength.symm
    | cons w ws =>
      -- the worker goes on, and what it records was not there at the exit
      have hsplit : t.workers = [] ++ w :: ws := hw
      have hrecord := reaches_recorded a.plan hsplit (hprobing w (by simp [hw]))
      have hsame := congrArg Collector.toList (hquiet t ht hexit _ hrecord)
      simp at hsame
  · intro hleft t ht hexit u hu
    rw [eq_of_reaches_of_hasExited (ht.manned.workers_eq_nil hexit hleft) hexit hu]

end Schedule

end NetSurvey
