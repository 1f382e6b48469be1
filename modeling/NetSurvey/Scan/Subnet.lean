import NetSurvey.Block.Text
import NetSurvey.Probe.Connect
import NetSurvey.Scan.Scanner

/-!
# Scans of a block

A scan of a block asks of every host whether one of the usual ports accepts a connection.
-/

namespace NetSurvey.Scan

open Schedule

/-- The hosts of a block, with an entry in the log. -/
def blockHosts (cidr : Datum) (limit : Int) : Scan (List Text) :=
  match Block.expand cidr (some limit) with
  | .ok hosts => do
    Activity.note [Block.expandedEntry cidr hosts]
    return hosts
  | .error (.specification cause) => throw (.specification cause)
  | .error (.exhaustion cause) => throw (.exhaustion cause)

/-- Scans a block. -/
def subnet (order : Order) (w : World) (scanner : Scanner) (cidr : Datum) : Scan Report := do
  let hosts ← blockHosts cidr scanner.settings.maxHosts
  Activity.note [⟨.info, .subnetScan,
    "Starting subnet scan on " ++ cidr.display ++
      s!": {hosts.length} hosts with {scanner.workers} workers."⟩]
  let probe host := Probe.reachable w host (some scanner.timeout) scanner.settings.reachabilityPorts
  carryOut order (planOf w .text probe) hosts scanner.workers cidr.display

/-- A host that answered, as a record. -/
def subnetRecord (o : Outcome) : Fields :=
  o.withTime [("ip", o.candidate), ("alive", .bool true), ("port", o.detail "port")]

/-- A scan of a block as data. -/
def subnetPayload (r : Report) : Datum :=
  .record [("scanned", .int r.summary.total), ("alive", .int r.summary.positiveCount),
    ("hosts", .list (r.summary.positives.map fun o => .record (subnetRecord o)))]

end NetSurvey.Scan
