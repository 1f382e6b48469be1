import Mathlib.Data.List.Perm.Basic
import NetSurvey.Proofs.Activity
import NetSurvey.Proofs.Schedule.Trace
import NetSurvey.Scan.Basic

/-!
# Scans come to a report

A scan that has its candidates and at least one worker always comes to a report. The schedule
returns whatever the probes come to, so what is left to go wrong is arithmetic: the time that has
passed, and the number of candidates for each second. With a stopwatch that gives doubles there is
always a time, and a number of candidates below `2 ^ 1023` has a nearest double
(`Binary.exists_ofInt?`).

What is recorded about a candidate (`finding`) depends on the candidate alone. A report tells the
findings of all candidates, in some order (`Report.Tells`), and so it covers the candidates
(`Report.Covers`).
-/

namespace NetSurvey

/-! ### Lists -/

/-- Where a calculation succeeds on each item, it does on all of them. -/
theorem mapM_of_forall₂ {ε α β γ : Type} {f : α → Except ε γ} {g : β → γ} {as : List α}
    {bs : List β} (h : List.Forall₂ (fun a b => f a = .ok (g b)) as bs) :
    as.mapM f = .ok (bs.map g) := by
  induction h with
  | nil => rfl
  | cons hab _ ih =>
    rw [List.mapM_cons, hab, ih]
    rfl

/-- What is rearranged among images comes from what is rearranged. -/
theorem exists_of_perm_map {α β : Type} {f : β → α} {as : List α} {bs : List β}
    (h : as.Perm (bs.map f)) : ∃ cs : List β, as = cs.map f ∧ cs.Perm bs := by
  have himage : List.Forall₂ (fun a b => a = f b) (bs.map f) bs := by simp
  obtain ⟨cs, hcs, hperm⟩ := List.perm_comp_forall₂ h himage
  have heq : List.Forall₂ Eq as (cs.map f) := List.forall₂_map_right_iff.mpr hcs
  exact ⟨cs, List.forall₂_eq_eq_eq ▸ heq, hperm⟩

/-! ### Figures -/

/-- A number below half of the greatest double has a nearest double. -/
theorem Binary.exists_ofInt? {n : Nat} (h : n.log2 < 1023) : ∃ x, Binary.ofInt? n = some x := by
  rw [ofInt?, nearest?, Int.natAbs_natCast]
  by_cases hn : n = 0
  · exact ⟨_, if_pos hn⟩
  · have hexponent : exponentOf n 1 ≤ 970 := by
      have hone : Nat.log2 1 = 0 := by decide
      simp only [exponentOf, minExponent, hone]
      split <;> omega
    -- Rounding up may move the exponent by one.
    have hround (m : Nat) : (if m = Nat.pow 2 53 then (Nat.pow 2 52, exponentOf n 1 + 1)
        else (m, exponentOf n 1)).2 ≤ maxExponent := by
      rw [maxExponent]
      split <;> dsimp only <;> omega
    rw [if_neg hn]
    exact ⟨_, if_neg (Int.not_lt.mpr (hround _))⟩

namespace Summary

/-- A number of candidates that a double can count has a throughput in every time. -/
theorem exists_throughput {n : Nat} (h : n.log2 < 1023) (x : Float) :
    ∃ rate, throughput n (.float x) = .ok rate := by
  obtain ⟨y, hy⟩ := Binary.exists_ofInt? h
  have hquotient : Number.quotient n (.float x) = .ok (y / x) := by
    simp only [Number.quotient, Number.toFloat, hy]
    rfl
  rw [throughput, hquotient]
  split <;> exact ⟨_, rfl⟩

theorem present_map_some (outcomes : List Outcome) :
    present (outcomes.map some) = .ok outcomes := by
  induction outcomes with
  | nil => rfl
  | cons o os ih => rw [List.map_cons, present, ih]

/-- The figures of outcomes. -/
def figures (outcomes : List Outcome) (elapsed : Number) (rate : Float) : Summary where
  total := outcomes.length
  positiveCount := (outcomes.filter (·.positive)).length
  positives := outcomes.filter (·.positive)
  negatives := outcomes.filter (!·.positive)
  elapsed := elapsed
  rate := rate

theorem negativeCount_figures (outcomes : List Outcome) (elapsed : Number) (rate : Float) :
    (figures outcomes elapsed rate).negativeCount = (outcomes.filter (!·.positive)).length := by
  have hsplit := List.length_eq_countP_add_countP (l := outcomes) (·.positive)
  simp only [List.countP_eq_length_filter, Bool.not_eq_true, Bool.decide_eq_false] at hsplit
  simp only [negativeCount, figures]
  omega

theorem ofOutcomes_map_some {elapsed : Number} {n : Int} {rate : Float} (outcomes : List Outcome)
    (h : throughput n elapsed = .ok rate) :
    ofOutcomes (outcomes.map some) elapsed (some n) = .ok (figures outcomes elapsed rate) := by
  simp only [ofOutcomes, present_map_some, divide, Option.getD_some, h]
  rfl

end Summary

/-- A report covers candidates: it has one outcome for each of them, its summary counts and divides
these outcomes, keeping their order, and its time is a double. -/
structure Report.Covers (r : Report) (candidates : List Datum) : Prop where
  candidates_perm : (r.outcomes.map Outcome.candidate).Perm candidates
  total_eq : r.summary.total = candidates.length
  positives_eq : r.summary.positives = r.outcomes.filter (·.positive)
  negatives_eq : r.summary.negatives = r.outcomes.filter (!·.positive)
  positiveCount_eq : r.summary.positiveCount = r.summary.positives.length
  negativeCount_eq : r.summary.negativeCount = r.summary.negatives.length
  positiveCount_add : r.summary.positiveCount + r.summary.negativeCount = r.summary.total
  exists_elapsed : ∃ x, r.summary.elapsed = .float x

/-- The figures of outcomes under the names of their candidates cover the candidates. -/
theorem Report.covers_figures {outcomes : List Outcome} {candidates : List Datum} (target : Text)
    (elapsed rate : Float) (h : (outcomes.map Outcome.candidate).Perm candidates) :
    Report.Covers ⟨target, outcomes, .figures outcomes (.float elapsed) rate⟩ candidates where
  candidates_perm := h
  total_eq := by rw [← h.length_eq, List.length_map]; rfl
  positives_eq := rfl
  negatives_eq := rfl
  positiveCount_eq := rfl
  negativeCount_eq := Summary.negativeCount_figures ..
  positiveCount_add := by
    rw [Summary.negativeCount]
    omega
  exists_elapsed := ⟨elapsed, rfl⟩

/-- A report tells findings: they are its outcomes in some order, its summary counts and divides
these, and its time has a double. -/
structure Report.Tells (r : Report) (target : Text) (findings : List Outcome) : Prop where
  target_eq : r.target = target
  outcomes_perm : r.outcomes.Perm findings
  exists_summary : ∃ t : Number × Float, r.summary = .figures r.outcomes t.1 t.2 ∧
    ∃ x, t.1.toFloat = .ok x

theorem Report.Tells.exists_eq {r : Report} {target : Text} {findings : List Outcome}
    (h : r.Tells target findings) : ∃ (outcomes : List Outcome) (elapsed : Number) (rate : Float),
      r = ⟨target, outcomes, .figures outcomes elapsed rate⟩ ∧ outcomes.Perm findings := by
  obtain ⟨target, outcomes, summary⟩ := r
  obtain ⟨rfl, hperm, ⟨elapsed, rate⟩, hsummary, -⟩ := h
  exact ⟨outcomes, elapsed, rate, congrArg _ hsummary, hperm⟩

/-- A stopwatch that gives doubles gives a double next. -/
theorem Stopwatch.exists_reading (readings : List Float) :
    ∃ x, reading (readings.map Number.float) = .float x := by
  cases readings <;> exact ⟨_, rfl⟩

/-- A stopwatch that gives doubles goes on to do so. -/
theorem Stopwatch.exists_rest (readings : List Float) :
    ∃ later : List Float, rest (readings.map Number.float) = later.map Number.float := by
  match readings with
  | [] => exact ⟨[], rfl⟩
  | [x] => exact ⟨[x], rfl⟩
  | _ :: x :: xs => exact ⟨x :: xs, rfl⟩

namespace Scan

open Schedule

variable {α : Type}

/-! ### Probes as a plan -/

/-- A probe names its candidate in every outcome. -/
def Names (label : α → Datum) (probe : α → Probe Outcome) : Prop :=
  ∀ a, (probe a).Yields fun o => o.candidate = label a

/-- What is recorded about a candidate: what its probe found out, or that it failed. -/
def finding (w : World) (label : α → Datum) (probe : α → Probe Outcome) (a : α) : Outcome :=
  match ((probe a).run w.start).result with
  | .ok o => o
  | .error (.interrupt kind said) => .failed (label a) (Failure.interruptText kind said)
  | .error e => .failed (label a) e.message

variable {w : World} {label : α → Datum} {probe : α → Probe Outcome}

theorem expected_planOf (a : α) :
    (planOf w label probe).expected a = some (finding w label probe a) := by
  simp only [Plan.expected, planOf, finding]
  cases ((probe a).run w.start).result with
  | ok o => rfl
  | error e => cases e <;> rfl

theorem finding_of_ok {a : α} {o : Outcome} (h : ((probe a).run w.start).result = .ok o) :
    finding w label probe a = o := by
  rw [finding, h]

theorem finding_of_error {a : α} {e : Failure} (h : ((probe a).run w.start).result = .error e) :
    ∃ text, finding w label probe a = .failed (label a) text := by
  rw [finding, h]
  cases e <;> exact ⟨_, rfl⟩

/-- What holds of the outcomes of a probe and of a failure holds of what is recorded. -/
theorem finding_of_yields {P : Outcome → Prop} {a : α} (hprobe : (probe a).Yields P)
    (hfailed : ∀ text, P (.failed (label a) text)) : P (finding w label probe a) := by
  cases hresult : ((probe a).run w.start).result with
  | ok o =>
    rw [finding_of_ok hresult]
    exact hprobe w.start o hresult
  | error e =>
    obtain ⟨text, htext⟩ : ∃ text, finding w label probe a = .failed (label a) text :=
      finding_of_error hresult
    rw [htext]
    exact hfailed text

/-- A candidate is recorded under its own name, whether its probe names it or fails. -/
theorem candidate_finding (h : Names label probe) (a : α) :
    (finding w label probe a).candidate = label a :=
  finding_of_yields (h a) fun _ => rfl

/-! ### Carrying a plan out -/

/-- What a scan does after its schedule. -/
def conclude (count : Int) (target : Text) (start : Number) (collector : Collector) :
    Scan Report := do
  let elapsed ← Activity.ofArithmetic ((← readTime).sub start)
  let summary ← Activity.ofExcept (Summary.ofOutcomes collector.toList elapsed (some count))
  let seconds ← Activity.ofArithmetic (elapsed.fixed 2)
  Activity.note [completedEntry target seconds summary]
  return { target, outcomes := outcomesOf collector, summary }

/-- The time that a scan took and the number of its candidates for each second, or why they cannot
be calculated. -/
def timing (count : Int) (start finish : Number) : Except ArithmeticError (Number × Float) := do
  let elapsed ← finish.sub start
  let rate ← Summary.throughput count elapsed
  -- The time is written to the log, so it has to have a double.
  let _ ← elapsed.fixed 2
  return (elapsed, rate)

theorem exists_toFloat_of_timing {count : Int} {start finish : Number} {t : Number × Float}
    (h : timing count start finish = .ok t) : ∃ x, t.1.toFloat = .ok x := by
  obtain ⟨elapsed, -, h⟩ := bind_eq_ok_iff.mp h
  obtain ⟨rate, -, h⟩ := bind_eq_ok_iff.mp h
  obtain ⟨seconds, hseconds, h⟩ := bind_eq_ok_iff.mp h
  obtain ⟨x, hx, -⟩ := bind_eq_ok_iff.mp hseconds
  obtain rfl := Except.ok.inj h
  exact ⟨x, hx⟩

/-- Between two readings of a stopwatch that gives doubles there is always a time, and the number
of candidates for each second if a double can count them. -/
theorem exists_timing {count : Nat} (hcount : count.log2 < 1023) (readings : List Float) :
    ∃ elapsed rate : Float, timing count (Stopwatch.reading (readings.map .float))
      (Stopwatch.rest (readings.map .float)).reading = .ok (.float elapsed, rate) := by
  -- The stopwatch is read before the schedule and after it.
  obtain ⟨start, hstart⟩ := Stopwatch.exists_reading readings
  obtain ⟨later, hrest⟩ := Stopwatch.exists_rest readings
  obtain ⟨finish, hfinish⟩ := Stopwatch.exists_reading later
  obtain ⟨rate, hrate⟩ := Summary.exists_throughput hcount (finish - start)
  refine ⟨finish - start, rate, ?_⟩
  rw [hstart, hrest, hfinish]
  exact bind_eq_ok_iff.mpr ⟨.float (finish - start), rfl, bind_eq_ok_iff.mpr ⟨rate, hrate, rfl⟩⟩

variable {order : Order} {plan : Plan α} {candidates : List α} {workers : Int} {target : Text}

theorem carryOut_eq : carryOut order plan candidates workers target = (do
    let scheduler ← Activity.ofExcept (Scheduler.ofWorkers workers)
    let start ← readTime
    let collector ← ofFinished (scheduler.run plan order candidates .empty)
    conclude candidates.length target start collector) := rfl

theorem run_readTime (watch : Stopwatch) :
    readTime.run watch = ⟨.ok watch.reading, watch.rest, [], []⟩ := rfl

theorem run_ofFinished {τ : Type} {f : Scheduler.Finished τ} (h : f.result = .ok ())
    (watch : Stopwatch) : (ofFinished f).run watch = ⟨.ok f.collector, watch, f.calls, f.log⟩ := by
  rw [Activity.run, ofFinished, h]
  rfl

/-! ### The calls of a scan -/

theorem quiet_conclude (count : Int) (start : Number) (collector : Collector) :
    (conclude count target start collector).Quiet :=
  .bind (.bind .current fun _ => .bind (.change _) fun _ => .pure _) fun _ =>
    .bind (.ofExcept _) fun _ => .bind (.ofExcept _) fun _ => .bind (.ofExcept _) fun _ =>
      .bind (.note _) fun _ => .pure _

/-- Without a worker a scan fails where its schedule is set up. -/
theorem run_carryOut_of_no_worker (h : workers < 1) (watch : Stopwatch) :
    (carryOut order plan candidates workers target).run watch =
      ⟨.error (.fewWorkers workers), watch, [], []⟩ := by
  have hnone : Scheduler.ofWorkers workers = .error (.fewWorkers workers) := dif_pos h
  rw [carryOut_eq, hnone]
  rfl

/-- The calls of a scan are those of one probe for each candidate, whatever its stopwatch shows. -/
theorem calls_carryOut (order : Order) (w : World) (label : α → Datum) (probe : α → Probe Outcome)
    (candidates : List α) (hworkers : 1 ≤ workers) (target : Text) :
    ∃ probed : List α, probed.Perm candidates ∧ ∀ watch : Stopwatch,
      ((carryOut order (planOf w label probe) candidates workers target).run watch).calls =
        probed.flatMap fun a => ((probe a).run w.start).calls := by
  have hscheduler : Scheduler.ofWorkers workers = .ok _ := dif_neg (Int.not_lt.mpr hworkers)
  obtain ⟨-, -, probed, hperm, hcalls⟩ := Scheduler.run_of_accepted _ (planOf w label probe) order
    candidates .empty fun _ _ => rfl
  refine ⟨probed, hperm, fun watch => ?_⟩
  rw [carryOut_eq, hscheduler, Activity.ofExcept_ok_bind,
    Activity.run_bind_of_ok (run_readTime watch), List.nil_append,
    Activity.calls_bind_of_quiet (quiet_conclude _ _)]
  exact hcalls

/-- Where every probe makes a call, a scan of at least one candidate does. -/
theorem makesCall_carryOut (hprobe : ∀ a, (probe a).MakesCall) (hworkers : 1 ≤ workers)
    (hne : candidates ≠ []) :
    (carryOut order (planOf w label probe) candidates workers target).MakesCall := by
  intro watch hnil
  obtain ⟨probed, hperm, hcalls⟩ :=
    calls_carryOut order w label probe candidates hworkers target
  rw [hcalls, List.flatMap_eq_nil_iff] at hnil
  obtain ⟨a, ha⟩ := List.exists_mem_of_ne_nil candidates hne
  exact hprobe a w.start (hnil a (hperm.mem_iff.mpr ha))

/-- Where the probe of each candidate makes one call of a kind, so does a scan for each of them. -/
theorem filter_calls_carryOut {p : Call → Bool} {call : α → Call}
    (hprobe : ∀ a ∈ candidates, ((probe a).run w.start).calls.filter p = [call a])
    (hworkers : 1 ≤ workers) (watch : Stopwatch) :
    (((carryOut order (planOf w label probe) candidates workers target).run watch).calls.filter
      p).Perm (candidates.map call) := by
  obtain ⟨probed, hperm, hcalls⟩ :=
    calls_carryOut order w label probe candidates hworkers target
  have hprobed : (probed.flatMap fun a => ((probe a).run w.start).calls).filter p =
      probed.map call := by
    rw [List.filter_flatMap, List.map_eq_flatMap, List.flatMap_def, List.flatMap_def,
      List.map_congr_left fun a ha => hprobe a (hperm.mem_iff.mp ha)]
  rw [hcalls, hprobed]
  exact hperm.map call

/-! ### The report of a scan -/

/-- The figures of a scan. They may be beyond calculation, but that has nothing to do with the
outcomes. -/
theorem result_conclude {outcomes : List Outcome} {collector : Collector}
    (hcollector : collector.toList = outcomes.map some) (count : Int) (start : Number)
    (watch : Stopwatch) :
    ((conclude count target start collector).run watch).result =
      ((timing count start watch.reading).mapError .arithmetic).map fun t =>
        ⟨target, outcomes, .figures outcomes t.1 t.2⟩ := by
  have houtcomes : outcomesOf collector = outcomes := by
    simp [outcomesOf, hcollector, List.filterMap_map]
  rw [conclude, Activity.run_bind_of_ok (run_readTime watch), hcollector, houtcomes, timing]
  cases watch.reading.sub start with
  | error cause => rfl
  | ok elapsed =>
    rw [Activity.ofArithmetic_ok_bind, ok_bind]
    cases hrate : Summary.throughput count elapsed with
    | error cause =>
      -- No outcome is missing, so the summary can only fail in its arithmetic.
      have hsummary : Summary.ofOutcomes (outcomes.map some) elapsed (some count) =
          .error (.arithmetic cause) := by
        simp only [Summary.ofOutcomes, Summary.present_map_some, Option.getD_some, hrate]
        rfl
      rw [hsummary]
      rfl
    | ok rate =>
      rw [Summary.ofOutcomes_map_some outcomes hrate, Activity.ofExcept_ok_bind, ok_bind]
      cases elapsed.fixed 2 <;> rfl

/-- **The report of a scan.** It has what is recorded about each candidate, in some order, and its
figures. Nothing else depends on the order in which the probes ended, and only the figures depend on
the stopwatch. -/
theorem result_carryOut_eq (order : Order) (w : World) (label : α → Datum)
    (probe : α → Probe Outcome) (candidates : List α) (hworkers : 1 ≤ workers) (target : Text) :
    ∃ outcomes : List Outcome, outcomes.Perm (candidates.map (finding w label probe)) ∧
      ∀ watch : Stopwatch,
        ((carryOut order (planOf w label probe) candidates workers target).run watch).result =
          ((timing candidates.length watch.reading watch.rest.reading).mapError .arithmetic).map
            fun t => ⟨target, outcomes, .figures outcomes t.1 t.2⟩ := by
  have hscheduler : Scheduler.ofWorkers workers = .ok _ := dif_neg (Int.not_lt.mpr hworkers)
  obtain ⟨hresult, ⟨recorded, hcollector, hperm⟩, -⟩ :=
    Scheduler.run_of_accepted _ (planOf w label probe) order candidates .empty fun _ _ => rfl
  have hfindings : candidates.map (planOf w label probe).expected =
      (candidates.map (finding w label probe)).map some := by
    rw [List.map_map]
    exact List.map_congr_left fun a _ => expected_planOf a
  rw [hfindings] at hperm
  obtain ⟨outcomes, hrecorded, houtcomes⟩ := exists_of_perm_map hperm
  refine ⟨outcomes, houtcomes, fun watch => ?_⟩
  rw [carryOut_eq, hscheduler, Activity.ofExcept_ok_bind, Activity.run_bind_of_ok (run_readTime _),
    Activity.run_bind_of_ok (run_ofFinished hresult _)]
  exact result_conclude (hcollector.trans hrecorded) ..

/-- The report that a scan comes to has what is recorded about each candidate, and its time has a
double. -/
theorem yields_carryOut : (carryOut order (planOf w label probe) candidates workers target).Yields
    fun report => report.Tells target (candidates.map (finding w label probe)) := by
  intro watch report hreport
  by_cases hworkers : workers < 1
  · rw [run_carryOut_of_no_worker hworkers] at hreport
    cases hreport
  obtain ⟨outcomes, hperm, hresult⟩ := result_carryOut_eq order w label probe candidates
    (Int.not_lt.mp hworkers) target
  rw [hresult] at hreport
  obtain ⟨t, ht, rfl⟩ := map_eq_ok_iff.mp hreport
  exact ⟨rfl, hperm, t, rfl, exists_toFloat_of_timing (mapError_eq_ok_iff.mp ht)⟩

/-- **A scan comes to a report.** With at least one worker and a stopwatch that gives doubles,
probes that name their candidates come to a report that covers them. -/
theorem result_carryOut (hnames : Names label probe) (hworkers : 1 ≤ workers)
    (hcount : candidates.length.log2 < 1023) (readings : List Float) :
    ∃ report, ((carryOut order (planOf w label probe) candidates workers target).run
        (readings.map Number.float)).result = .ok report ∧
      report.Covers (candidates.map label) := by
  obtain ⟨elapsed, rate, htiming⟩ := exists_timing hcount readings
  obtain ⟨outcomes, hperm, hresult⟩ := result_carryOut_eq order w label probe candidates hworkers
    target
  have hreport := hresult (readings.map Number.float)
  rw [htiming] at hreport
  refine ⟨_, hreport, Report.covers_figures target elapsed rate ?_⟩
  have hcandidates := hperm.map Outcome.candidate
  simpa only [List.map_map, Function.comp_def, candidate_finding hnames] using hcandidates

end Scan

end NetSurvey
