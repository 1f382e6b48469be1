import NetSurvey.Proofs.Probe.Release
import NetSurvey.Proofs.Scan.Survey

/-!
# Surveys leave nothing open

The calls of a survey are those of one probe for each of its candidates, probe after probe, and none
of these leaves anything open. A survey of a web server has a session as well: it is closed once, at
the very end, also where no probe could be started.
-/

namespace NetSurvey

open Schedule Probe

namespace Survey

open Scan

variable {w : World} {scanner : Scanner} {survey : Survey}

/-- A survey without a worker has nothing left to do but to close its session. -/
theorem failed_of_no_worker {cs : List Datum} (hcs : survey.candidates scanner.settings = .ok cs)
    (hfew : scanner.workers < 1) (order : Order) (watch : Stopwatch) :
    ((survey.scan order w scanner).run watch).result = .error (.fewWorkers scanner.workers) ∧
      ((survey.scan order w scanner).run watch).calls = survey.closing := by
  obtain ⟨α, label, probe, as, target, -, -, hscan⟩ := exists_carryOut hcs order w
  obtain ⟨hresult, -, hcalls⟩ := hscan watch
  rw [(run_around ..).1, run_carryOut_of_no_worker hfew] at hresult
  rw [(run_around ..).2.2, run_carryOut_of_no_worker hfew] at hcalls
  exact ⟨hresult, hcalls⟩

end Survey

end NetSurvey
