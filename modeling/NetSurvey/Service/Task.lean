import NetSurvey.Scan.Directory
import NetSurvey.Scan.Ports
import NetSurvey.Scan.Sweep
import NetSurvey.Service.Form

/-!
# Tasks

A task is what a request asks for. It is read from the fields of the request's body, and carrying it
out gives the body of the answer. Records in answers have all their fields, null where nothing is
known.
-/

namespace NetSurvey.Service

open Schedule

/-- The kinds of task. -/
inductive TaskKind where
  | subnet
  | ports
  | directories
  | subdomains
  | resolve
  | ping
  | sweep
deriving DecidableEq, Repr

/-- What a request may choose about a scan. -/
structure Options where
  workers : Option Int
  timeout : Option Float

/-- What a request asks for. -/
inductive Task where
  | subnet (options : Options) (cidr : Text)
  | ports (options : Options) (host : Text) (spec : Option Text)
  | directories (options : Options) (base : Text) (words : Option (List Text))
  | subdomains (options : Options) (domain : Text) (words : Option (List Text))
  | resolve (hostname : Text) (domain : Option Text)
  | ping (host : Text) (port : Int)
  | sweep (options : Options) (cidr : Text)

/-! ### Reading tasks -/

/-- The options of a scan. -/
def Options.form (fields : Fields) : Form Options :=
  ((Form.optional fields "workers" workerCount).both
    (Form.optional fields "timeout" waitingTime)).map fun (workers, timeout) => ⟨workers, timeout⟩

/-- Reads a task of a kind. -/
def TaskKind.form (fields : Fields) : TaskKind → Form Task
  | subnet =>
    ((Options.form fields).both (Form.required fields "cidr" string)).map fun (options, cidr) =>
      .subnet options cidr
  | ports =>
    ((Options.form fields).both
      ((Form.required fields "host" string).both (Form.optional fields "ports" string))).map
      fun (options, host, spec) => .ports options host spec
  | directories =>
    ((Options.form fields).both
      ((Form.required fields "base_url" string).both
        (Form.optionalStrings fields "wordlist"))).map
      fun (options, base, words) => .directories options base words
  | subdomains =>
    ((Options.form fields).both
      ((Form.required fields "domain" string).both
        (Form.optionalStrings fields "wordlist"))).map
      fun (options, domain, words) => .subdomains options domain words
  | resolve =>
    ((Form.required fields "hostname" string).both (Form.optional fields "domain" string)).map
      fun (hostname, domain) => .resolve hostname domain
  | ping =>
    ((Form.required fields "host" string).both
      (Form.withDefault fields "port" Probe.fallbackPort integer)).map
      fun (host, port) => .ping host port
  | sweep =>
    ((Options.form fields).both (Form.required fields "cidr" string)).map fun (options, cidr) =>
      .sweep options cidr

/-! ### Carrying tasks out -/

/-- A record with the given fields, null where it has none. -/
def completed (keys : List Text) (record : Fields) : Datum :=
  .record (keys.map fun key => (key, (record.get? key).getD .null))

/-- How long a scan took. -/
def executionTime (r : Report) : Except ArithmeticError String := do
  return (← r.summary.elapsed.fixed 4) ++ " seconds"

/-- The number of a port. -/
def portNumber (o : Outcome) : Int :=
  match o.candidate with
  | .number (.int n) => n
  | _ => 0

/-- The fields of a host that answered. -/
def hostFields : List Text := ["ip", "alive", "port", "rtt_ms"]

/-- The fields of a port. -/
def portFields : List Text := ["port", "open", "rtt_ms"]

/-- The fields of a page. -/
def pageFields : List Text := ["path", "status_code", "found", "size"]

/-- The fields of a name. -/
def nameFields : List Text := ["hostname", "ips", "found", "error"]

/-- The fields of a host that was pinged. -/
def pingFields : List Text := ["host", "reachable", "ip", "rtt_ms", "error"]

/-- The scanner of a task. -/
def Options.scanner (options : Options) (kind : ScanKind) (settings : Settings) : Scanner :=
  .ofKind kind settings options.workers (options.timeout.map .float)

/-- The body of an answer about a scan. -/
def reportBody (r : Report) (fields : Fields) : Scan Datum := do
  let time ← Activity.ofArithmetic (executionTime r)
  return .record (fields.set "execution_time" (.text time))

/-- Carries a task out, and gives the body of the answer. -/
def Task.perform (order : Order) (w : World) (settings : Settings) : Task → Scan Datum
  | .subnet options cidr => do
    let r ← Scan.subnet order w (options.scanner .subnet settings) (.text cidr)
    reportBody r [("scanned", .int r.summary.total), ("alive", .int r.summary.positiveCount),
      ("hosts", .list (r.summary.positives.map fun o =>
        completed hostFields (Scan.subnetRecord o)))]
  | .ports options host spec => do
    let choice := match spec with | some spec => .written spec | none => .usual
    let r ← Scan.ports order w (options.scanner .ports settings) (.text host) choice
    let outcomes := r.outcomes.mergeSort fun a b => decide (portNumber a ≤ portNumber b)
    reportBody r [("host", .text host), ("open_ports", .int r.summary.positiveCount),
      ("results", .list (outcomes.map fun o => completed portFields (Scan.portRecord o)))]
  | .directories options base words => do
    let settings := { settings with directoryWords := words.getD settings.directoryWords }
    let r ← Scan.directory order w (options.scanner .directories settings) (.text base) none
    reportBody r [("base_url", .text base), ("scanned", .int r.summary.total),
      ("found", .list (r.summary.positives.map fun o =>
        completed pageFields (Scan.directoryRecord o)))]
  | .subdomains options domain words => do
    let settings := { settings with subdomainWords := words.getD settings.subdomainWords }
    let scanner := options.scanner .subdomains settings
    let r ← Scan.subdomains order w scanner .default (.text domain) none
    let records ← Activity.ofExcept (r.summary.positives.mapM Scan.nameRecord)
    reportBody r [("domain", .text domain), ("scanned", .int r.summary.total),
      ("found", .list (records.map (completed nameFields)))]
  | .resolve hostname domain => do
    let domain := match domain with | some domain => .text domain | none => .null
    let o ← Scan.resolveName w settings .default (.text hostname) domain
    let record ← Activity.ofExcept (Scan.nameRecord o)
    return completed nameFields record
  | .ping host port => do
    let o ← Scan.pingHost w settings .default (some host) port
    return completed pingFields (Scan.hostRecord o)
  | .sweep options cidr => do
    let r ← Scan.sweep order w (options.scanner .sweep settings) .default (.text cidr)
    reportBody r [("network", .text r.target), ("total_hosts", .int r.summary.total),
      ("alive_hosts", .int r.summary.positiveCount),
      ("hosts", .list (r.outcomes.map fun o => completed pingFields (Scan.hostRecord o)))]

end NetSurvey.Service
