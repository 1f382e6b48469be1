import NetSurvey.Proofs.Scan.Release

/-!
# What a survey has of its stopwatch

The stopwatch decides the figures of a report, the time and the rate, and nothing else: what is
called, why a survey fails before its schedule, and the outcomes are the same with every stopwatch
(`Survey.scan_cases`). A stopwatch that gives doubles goes on to do so.
-/

namespace NetSurvey

open Schedule

/-- A stopwatch gives doubles. -/
def Stopwatch.GivesDoubles (watch : Stopwatch) : Prop :=
  ∃ readings : List Float, watch = readings.map .float

namespace Scan

open Stopwatch

/-- A reading is taken off the stopwatch, and those that are left are still doubles. -/
theorem keeps_readTime : readTime.Keeps GivesDoubles := by
  rintro watch ⟨readings, rfl⟩
  exact exists_rest readings

theorem keeps_ofFinished {τ : Type} (f : Scheduler.Finished τ) :
    (ofFinished f).Keeps GivesDoubles := fun _ h => h

theorem keeps_conclude (count : Int) (target : Text) (start : Number) (collector : Collector) :
    (conclude count target start collector).Keeps GivesDoubles :=
  .bind keeps_readTime fun _ => .bind (.ofExcept _) fun _ => .bind (.ofExcept _) fun _ =>
    .bind (.ofExcept _) fun _ => .bind (.note _) fun _ => .pure _

/-- Carrying out a scan reads the stopwatch twice and leaves it alone otherwise, however many probes
there are. -/
theorem keeps_carryOut {α : Type} (order : Order) (plan : Plan α) (candidates : List α)
    (workers : Int) (target : Text) :
    (carryOut order plan candidates workers target).Keeps GivesDoubles := by
  rw [carryOut_eq]
  exact .bind (.ofExcept _) fun _ => .bind keeps_readTime fun _ =>
    .bind (keeps_ofFinished _) fun _ => keeps_conclude _ _ _ _

end Scan

namespace Survey

open Scan

variable (survey : Survey) (order : Order) (w : World) (scanner : Scanner)

/-- After a scan of any kind, the stopwatch still gives doubles. -/
theorem keeps_scan : (survey.scan order w scanner).Keeps Stopwatch.GivesDoubles := by
  obtain ⟨α, label, probe, found, target, -, -, hscan⟩ := survey.exists_plan order w scanner
  refine .of_agrees hscan (.bind (.ofExcept _) fun as watch hwatch => ?_)
  rw [(run_around ..).2.1]
  exact keeps_carryOut _ _ _ _ _ watch hwatch

/-- What a survey comes to with every stopwatch: it fails in the same way, or its report has the
same outcomes, and only the figures depend on the stopwatch. -/
inductive Reports (candidates : Except Failure (List Datum)) (scan : Scan Report) : Prop
  | failed {e : Failure} (hresult : ∀ watch, (scan.run watch).result = .error e)
  | reported {cs : List Datum} (target : Text) (outcomes : List Outcome)
    (hcandidates : candidates = .ok cs)
    (hresult : ∀ watch : Stopwatch, (scan.run watch).result =
      ((timing cs.length watch.reading watch.rest.reading).mapError .arithmetic).map
        fun t => ⟨target, outcomes, .figures outcomes t.1 t.2⟩)

/-- **Only the figures depend on the stopwatch.** -/
theorem scan_cases :
    (∃ calls, ∀ watch, ((survey.scan order w scanner).run watch).calls = calls) ∧
      Reports (survey.candidates scanner.settings) (survey.scan order w scanner) := by
  cases hcs : survey.candidates scanner.settings with
  | error e =>
    have hfailed := failed_of_candidates hcs order w
    exact ⟨⟨[], fun watch => (hfailed watch).2⟩, .failed fun watch => (hfailed watch).1⟩
  | ok cs =>
    by_cases hfew : scanner.workers < 1
    · have hfailed := failed_of_no_worker (w := w) hcs hfew order
      exact ⟨⟨_, fun watch => (hfailed watch).2⟩, .failed fun watch => (hfailed watch).1⟩
    have hworkers := Int.not_lt.mp hfew
    obtain ⟨α, label, probe, as, target, rfl, -, hscan⟩ := exists_carryOut hcs order w
    obtain ⟨probed, -, hcalls⟩ := calls_carryOut order w label probe as hworkers target
    obtain ⟨outcomes, -, hresult⟩ := result_carryOut_eq order w label probe as hworkers target
    constructor
    · refine ⟨(probed.flatMap fun a => ((probe a).run w.start).calls) ++ survey.closing, ?_⟩
      intro watch
      rw [(hscan watch).2.2, (run_around ..).2.2, hcalls]
    · refine Reports.reported target outcomes rfl fun watch => ?_
      rw [(hscan watch).1, (run_around ..).1, hresult, List.length_map]

end Survey

end NetSurvey
