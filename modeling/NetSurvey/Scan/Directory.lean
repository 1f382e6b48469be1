import NetSurvey.Probe.Page
import NetSurvey.Scan.Scanner

/-!
# Scans of a web server

A scan of a web server asks for a page under every path of a wordlist, all through one session,
which is closed at the end whatever happens.
-/

namespace NetSurvey.Scan

open Schedule

/-- How a session connects: it keeps connections to one server, as many as there are workers, and
both schemes share them. -/
structure Session where
  userAgent : Text
  poolConnections : Int := 1
  poolSize : Int
  sharedAdapter : Bool := true
deriving DecidableEq, Repr

/-- The session of a scanner. -/
def sessionOf (scanner : Scanner) : Session where
  userAgent := scanner.settings.userAgent
  poolSize := scanner.workers

/-- Does something, and closes the session afterwards, also if it fails. -/
def closingSession {α : Type} (scan : Scan α) : Scan α := fun watch =>
  let attempt := scan watch
  ⟨attempt.result, attempt.state, attempt.calls ++ [.closeSession], attempt.log⟩

/-- Whether a datum is a base URL. What is not there is none; what is there has to be a text. -/
def isBase (base : Datum) : Except Failure Bool := do
  (Url.isBase (← base.textOrEmpty "decode")).mapError .url

/-- Scans a web server. -/
def directory (order : Order) (w : World) (scanner : Scanner) (base : Datum)
    (file : Option WordFile) : Scan Report := do
  if !(← Activity.ofExcept (isBase base)) then throw (.specification (.baseUrl base.shown))
  let base := base.display
  let paths ← loadWords file scanner.settings.directoryWords
  if paths.isEmpty then throw (.specification .noPaths)
  Activity.note [⟨.info, .directoryScan,
    "Starting directory scan on " ++ base ++
      s!": {paths.length} paths with {scanner.workers} workers."⟩]
  let probe path :=
    Probe.pageFound w base path (some scanner.timeout) true scanner.settings.userAgent
  closingSession (carryOut order (planOf w .text probe) paths scanner.workers base)

/-- A page that was found, as a record. -/
def directoryRecord (o : Outcome) : Fields :=
  [("path", o.candidate), ("status_code", o.detail "status_code"), ("found", .bool true),
    ("size", o.detail "size")]

/-- A scan of a web server as data. -/
def directoryPayload (r : Report) : Datum :=
  .list (r.summary.positives.map fun o => .record (directoryRecord o))

end NetSurvey.Scan
