import NetSurvey.Hostname
import NetSurvey.PortSpec
import NetSurvey.Probe.Connect
import NetSurvey.Scan.Scanner

/-!
# Scans of ports

A scan of ports asks of every port of a host whether it accepts a connection. The ports are the
usual ones, those of a written specification, or those of a list, whose items are read as integers.
-/

namespace NetSurvey

/-- The ports that a caller asks for. -/
inductive PortChoice where
  | usual
  | written (spec : Text)
  /-- What the items are made of is read as ports. -/
  | listed (items : Datum)

namespace PortChoice

/-- The choice that a datum stands for. -/
def ofDatum : Datum → PortChoice
  | .null => usual
  | .text spec => written spec
  | items => listed items

/-- A choice of ports as it is shown. -/
def shown : PortChoice → Text
  | usual => Datum.null.shown
  | written spec => Text.quoted spec
  | listed items => items.shown

end PortChoice

namespace Scan

open Schedule

/-- Lists ports after `taken` ones. Ports out of range are skipped, and the limit is checked before
each of the others. -/
def listPorts (limit : Int) : (taken : Nat) → List Datum → Scan (List Int)
  | _, [] => return []
  | taken, item :: items => do
    let port ← Activity.ofExcept item.toInteger
    if 0 < port ∧ port ≤ maxPort then
      if limit ≤ taken then throw (.exhaustion ⟨taken + 1, limit, .listedPorts⟩)
      let ports ← listPorts limit (taken + 1) items
      return port :: ports
    else
      Activity.note [⟨.debug, .portScan, s!"Skipping out-of-range port: {port}"⟩]
      listPorts limit taken items

/-- The ports of a written specification, which may be any data; what is not there names none. -/
def specifiedPorts (spec : Datum) (limit : Option Int) : Scan (List Int) := do
  let spec ← Activity.ofExcept (spec.textOrEmpty "split")
  Activity.note (PortSpec.log spec limit)
  Activity.ofExcept ((PortSpec.expand spec limit).mapError .exhaustion)

/-- The ports that are meant by a choice. -/
def choosePorts (settings : Settings) : PortChoice → Scan (List Int)
  | .usual => return settings.defaultPorts
  | .written spec => specifiedPorts (.text spec) (some settings.maxPorts)
  | .listed items => do
    let items ← Activity.ofExcept items.parts
    listPorts settings.maxPorts 0 items

/-- Scans ports of a host. -/
def ports (order : Order) (w : World) (scanner : Scanner) (host : Datum)
    (choice : PortChoice) : Scan Report := do
  if !(← Activity.ofExcept (Hostname.isTarget host)) then
    throw (.specification (.target host.shown))
  let host := host.display
  let ports ← choosePorts scanner.settings choice
  if ports.isEmpty then throw (.specification (.noPorts choice.shown))
  Activity.note [⟨.info, .portScan,
    "Starting scan on " ++ host ++
      s!" for {ports.length} ports with {scanner.workers} threads."⟩]
  let probe port := Probe.portOpen w host port (some scanner.timeout) (.int port)
  carryOut order (planOf w .int probe) ports scanner.workers host

/-- A port as a record. -/
def portRecord (o : Outcome) : Fields :=
  o.withTime [("port", o.candidate), ("open", .bool o.positive)]

/-- A scan of ports as data. -/
def portsPayload (r : Report) : Datum :=
  .list (r.outcomes.map fun o => .record (portRecord o))

end Scan

end NetSurvey
