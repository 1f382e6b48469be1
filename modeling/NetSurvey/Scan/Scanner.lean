import NetSurvey.Scan.Basic
import NetSurvey.Settings
import NetSurvey.Wordlist

/-!
# Scanners

A scanner has settings, a number of workers and a time to wait. A caller may give the last two;
where nothing or zero is given, the settings of the kind of scan are taken.
-/

namespace NetSurvey

/-- The kinds of scan. -/
inductive ScanKind where
  | subnet
  | ports
  | directories
  | subdomains
  | sweep
deriving DecidableEq, Repr

namespace ScanKind

/-- The number of workers that the settings give. -/
def workers (s : Settings) : ScanKind → Int
  | subnet => s.subnetWorkers
  | ports => s.portWorkers
  | directories => s.directoryWorkers
  | subdomains => s.subdomainWorkers
  | sweep => s.sweepWorkers

/-- The time to wait that the settings give. -/
def timeout (s : Settings) : ScanKind → Number
  | subnet => s.subnetTimeout
  | ports => s.portTimeout
  | directories => s.directoryTimeout
  | subdomains => s.subdomainTimeout
  | sweep => s.sweepTimeout

end ScanKind

/-- What a scan is done with. -/
structure Scanner where
  settings : Settings
  workers : Int
  timeout : Number

namespace Scanner

/-- A scanner of a kind. -/
def ofKind (kind : ScanKind) (settings : Settings) (workers : Option Int)
    (timeout : Option Number) : Scanner where
  settings := settings
  workers := (workers.filter (· ≠ 0)).getD (kind.workers settings)
  timeout := (timeout.filter (!·.isZero)).getD (kind.timeout settings)

end Scanner

namespace Scan

/-- Loads a wordlist, with an entry in the log if the file cannot be read. -/
def loadWords (file : Option WordFile) (default : List Text) : Scan (List Text) :=
  match Wordlist.load file default with
  | .words list => return list
  | .unreadable path list => do
    Activity.note [Wordlist.unreadableEntry path]
    return list
  | .nullCharacter => throw .nullCharacter
  | .noBytes found => throw (.noBytes found)

/-- Does a single probe from the start of the clock on. -/
def ofProbe {α : Type} (w : World) (probe : Probe α) : Scan α := fun watch =>
  let attempt := probe.run w.start
  ⟨attempt.result, watch, attempt.calls, attempt.log⟩

end Scan

end NetSurvey
