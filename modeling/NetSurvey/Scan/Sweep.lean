import NetSurvey.Probe.Ping
import NetSurvey.Scan.Subdomain
import NetSurvey.Scan.Subnet

/-!
# Sweeps

A sweep pings every host of a block. A single host can be pinged as well, on a port of the caller's.
-/

namespace NetSurvey.Scan

open Schedule Probe

/-- Pings every host of a block. -/
def sweep (order : Order) (w : World) (scanner : Scanner) (resolver : Resolver) (cidr : Datum) :
    Scan Report := do
  let hosts ← blockHosts cidr scanner.settings.maxHosts
  Activity.note [⟨.info, .pingSweep,
    "Starting ping sweep on " ++ cidr.display ++
      s!": {hosts.length} hosts with {scanner.workers} workers."⟩]
  let probe host := ping w host fallbackPort (some scanner.timeout) resolver
  carryOut order (planOf w .text probe) hosts scanner.workers cidr.display

/-- Pings a single host. -/
def pingHost (w : World) (settings : Settings) (resolver : Resolver) (host : Option Text)
    (port : Int) : Scan Outcome := do
  let host := host.getD []
  if host.isEmpty then throw (.specification .noHost)
  if !(0 < port ∧ port < 65536) then throw (.specification (.port port))
  ofProbe w (ping w host port (some settings.pingTimeout) resolver)

/-- A host as a record. -/
def hostRecord (o : Outcome) : Fields :=
  let address := o.detail "ip"
  let found : Fields := if address.isPresent then [("ip", address)] else []
  o.withTime
    (("host", o.candidate) :: ("reachable", .bool o.positive) :: (found ++ errorField o))

/-- A sweep as data. -/
def sweepPayload (r : Report) : Datum :=
  .record [("network", .text r.target), ("total_hosts", .int r.summary.total),
    ("alive_hosts", .int r.summary.positiveCount),
    ("hosts", .list (r.outcomes.map fun o => .record (hostRecord o)))]

end NetSurvey.Scan
