import NetSurvey.Hostname
import NetSurvey.Probe.Resolve
import NetSurvey.Scan.Scanner

/-!
# Scans for subdomains

A scan for subdomains looks up every word of a wordlist as a name under a domain. The names that
were found can be grouped by their addresses; addresses and names are in ascending order, and a name
stands under an address as often as the address was among its answers. Outcomes that come from
elsewhere may have any data for addresses and names, so grouping them may fail.
-/

namespace NetSurvey.Scan

open Schedule Probe

/-- Scans for subdomains. -/
def subdomains (order : Order) (w : World) (scanner : Scanner) (resolver : Resolver)
    (domain : Datum) (file : Option WordFile) : Scan Report := do
  if !(← Activity.ofExcept (Hostname.isDomain domain)) then
    throw (.specification (.domain domain.shown))
  let domain := domain.display
  let words ← loadWords file scanner.settings.subdomainWords
  let names := words.map fun word => word ++ "." ++ domain
  if names.isEmpty then throw (.specification .noNames)
  Activity.note [⟨.info, .subdomainScan,
    "Starting DNS reconnaissance for " ++ domain ++
      s!": {names.length} names with {scanner.workers} threads."⟩]
  let probe name := nameResolves w name (some scanner.timeout) resolver
  carryOut order (planOf w .text probe) names scanner.workers domain

/-- Looks a single name up, under a domain if it has no point. -/
def resolveName (w : World) (settings : Settings) (resolver : Resolver)
    (hostname domain : Datum) : Scan Outcome := do
  if !hostname.isPresent then throw (.specification .noHostname)
  let name ← Activity.ofExcept (Hostname.qualify hostname domain)
  ofProbe w (nameResolves w name.display (some settings.resolveTimeout) resolver)

/-- The addresses among the details of an outcome. -/
def addressesOf (o : Outcome) : Except Failure (List Datum) :=
  match o.details.get? "addresses" with
  | some addresses => addresses.parts
  | none => .ok []

/-- The error of an outcome as a field, unless it is empty. -/
def errorField (o : Outcome) : Fields :=
  match o.error with
  | some e => if e.isEmpty then [] else [("error", .text e)]
  | none => []

/-- A name as a record. -/
def nameRecord (o : Outcome) : Except Failure Fields := do
  let addresses ← addressesOf o
  return ("hostname", o.candidate) :: ("ips", .list addresses) :: ("found", .bool o.positive) ::
    errorField o

/-- A scan for subdomains as data. -/
def subdomainsPayload (r : Report) : Except Failure Datum := do
  let records ← r.summary.positives.mapM nameRecord
  return .list (records.map .record)

/-! ### Grouping by address -/

/-- Names under the address that they were found for. -/
structure Group where
  address : Datum
  names : List Datum

/-- Puts a name under an address: into its group, or into a new one at the end. -/
def addToGroup (address name : Datum) : List Group → List Group
  | [] => [⟨address, [name]⟩]
  | g :: gs =>
    if g.address.same address then { g with names := g.names ++ [name] } :: gs
    else g :: addToGroup address name gs

/-- Each address that was found, with the name that it was found for. -/
def addressPairs (r : Report) : Except Failure (List (Datum × Datum)) := do
  let pairs ← r.summary.positives.mapM fun o => do
    let addresses ← addressesOf o
    addresses.mapM fun address =>
      if address.isKey then .ok (address, o.candidate) else .error (.noKey address.kindName)
  return pairs.flatten

/-- Groups names by address, in the order in which the addresses are first met. -/
def groupPairs (pairs : List (Datum × Datum)) : List Group :=
  pairs.foldl (fun groups pair => addToGroup pair.1 pair.2 groups) []

/-- Items in ascending order of their keys. -/
def ascending {α : Type} (key : α → Datum) (items : List α) : Except Failure (List α) :=
  (Sorting.sorted (fun a b => (key a).less (key b)) items).mapError .incomparable

/-- The names that were found, by address. -/
def byAddress (r : Report) : Except Failure (List Group) := do
  let groups ← ascending Group.address (groupPairs (← addressPairs r))
  groups.mapM fun g => do return { g with names := ← ascending id g.names }

end NetSurvey.Scan
