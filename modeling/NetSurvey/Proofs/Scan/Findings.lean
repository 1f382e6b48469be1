import NetSurvey.Proofs.Scan.Survey

/-!
# What scans find out

For each kind of scan, what is recorded about one candidate depends on the candidate alone, and not
on the order in which the probes ended. A scan that comes to a report has found out its candidates,
and the report tells what is recorded about each of them (`Report.Tells`).
-/

namespace NetSurvey.Scan

open Schedule Probe Outcome

variable {order : Order} {w : World} {scanner : Scanner} {watch : Stopwatch} {report : Report}

/-! ### One candidate -/

/-- What is recorded about a host of a block. -/
def hostFinding (w : World) (scanner : Scanner) : Text → Outcome :=
  finding w .text fun host =>
    reachable w host (some scanner.timeout) scanner.settings.reachabilityPorts

/-- What is recorded about a port of a host. -/
def portFinding (w : World) (scanner : Scanner) (host : Text) : Int → Outcome :=
  finding w .int fun port => portOpen w host port (some scanner.timeout) (.int port)

/-- What is recorded about a page under a base URL. -/
def pageFinding (w : World) (scanner : Scanner) (base : Text) : Text → Outcome :=
  finding w .text fun path =>
    pageFound w base path (some scanner.timeout) true scanner.settings.userAgent

/-- What is recorded about a name. -/
def nameFinding (w : World) (scanner : Scanner) (resolver : Resolver) : Text → Outcome :=
  finding w .text fun name => nameResolves w name (some scanner.timeout) resolver

/-- What is recorded about a host that is pinged. -/
def pingFinding (w : World) (scanner : Scanner) (resolver : Resolver) : Text → Outcome :=
  finding w .text fun host => ping w host fallbackPort (some scanner.timeout) resolver

/-- What is recorded about a host has a time and a port exactly if it could be reached. -/
theorem timed_hostFinding (host : Text) :
    (hostFinding w scanner host).Timed (.text host) (HasPort scanner.settings.reachabilityPorts) :=
  finding_of_yields (timed_reachable w host _ _) fun text => .negative (some text) (.inr ⟨rfl, rfl⟩)

theorem timed_portFinding (host : Text) (port : Int) :
    (portFinding w scanner host port).Timed (.int port) fun _ _ => True :=
  finding_of_yields (timed_portOpen w host _ port port) fun text => .negative (some text) trivial

theorem isPage_pageFinding (base path : Text) : IsPage path (pageFinding w scanner base path) :=
  finding_of_yields (isPage_pageFound w _ base path _ _) fun _ => ⟨rfl, nofun⟩

/-- What is recorded about a name has its addresses if it was found. -/
theorem timed_nameFinding (resolver : Resolver) (name : Text) :
    (nameFinding w scanner resolver name).Timed (.text name) HasAddresses :=
  finding_of_yields (timed_nameResolves w _ name resolver) fun text => .negative (some text) nofun

/-- An address that is recorded about a host that was pinged is a text. -/
theorem timed_pingFinding (resolver : Resolver) (host : Text) :
    (pingFinding w scanner resolver host).Timed (.text host) HasAddress :=
  finding_of_yields (timed_ping w host _ _ resolver) fun text => .negative (some text) (.inl rfl)

/-! ### All candidates -/

/-- A scan that comes to a report has its candidates. -/
theorem exists_of_agrees {α : Type} {found : Except Failure (List α)} {scan : Scan Report}
    {carry : List α → Scan Report} (hscan : scan.Agrees (Activity.ofExcept found >>= carry))
    (hreport : (scan.run watch).result = .ok report) :
    ∃ as, found = .ok as ∧ ((carry as).run watch).result = .ok report := by
  rw [(hscan watch).1] at hreport
  cases found with
  | error e => cases hreport
  | ok as => exact ⟨as, rfl, hreport⟩

/-- A report on a block tells what is recorded about each of its hosts. -/
theorem tells_subnet {cidr : Datum}
    (hreport : ((subnet order w scanner cidr).run watch).result = .ok report) :
    ∃ hosts, (blockHosts cidr scanner.settings.maxHosts).value = .ok hosts ∧
      report.Tells cidr.display (hosts.map (hostFinding w scanner)) := by
  obtain ⟨hosts, hhosts, hcarry⟩ := exists_of_agrees (agrees_subnet order w scanner cidr) hreport
  exact ⟨hosts, hhosts, yields_carryOut watch report hcarry⟩

/-- A report on the ports of a host tells what is recorded about each port that was chosen. -/
theorem tells_ports {host : Datum} {choice : PortChoice}
    (hreport : ((ports order w scanner host choice).run watch).result = .ok report) :
    ∃ chosen, Survey.portsOf scanner.settings host choice = .ok chosen ∧
      report.Tells host.display (chosen.map (portFinding w scanner host.display)) := by
  obtain ⟨chosen, hchosen, hcarry⟩ :=
    exists_of_agrees (agrees_ports order w scanner host choice) hreport
  exact ⟨chosen, hchosen, yields_carryOut watch report hcarry⟩

/-- A report on a web server tells what is recorded about each path of the wordlist. -/
theorem tells_directory {base : Datum} {file : Option WordFile}
    (hreport : ((directory order w scanner base file).run watch).result = .ok report) :
    ∃ paths, Survey.pathsOf scanner.settings base file = .ok paths ∧
      report.Tells base.display (paths.map (pageFinding w scanner base.display)) := by
  obtain ⟨paths, hpaths, hcarry⟩ :=
    exists_of_agrees (agrees_directory order w scanner base file) hreport
  -- Closing the session does not touch the report.
  exact ⟨paths, hpaths, yields_carryOut watch report hcarry⟩

/-- A report on a domain tells what is recorded about the name that each word of the wordlist makes
under it. -/
theorem tells_subdomains {resolver : Resolver} {domain : Datum} {file : Option WordFile}
    (hreport : ((subdomains order w scanner resolver domain file).run watch).result =
      .ok report) :
    ∃ words, Survey.wordsOf scanner.settings domain file = .ok words ∧
      report.Tells domain.display ((words.map (Survey.nameUnder domain.display)).map
        (nameFinding w scanner resolver)) := by
  obtain ⟨words, hwords, hcarry⟩ :=
    exists_of_agrees (agrees_subdomains order w scanner resolver domain file) hreport
  exact ⟨words, hwords, yields_carryOut watch report hcarry⟩

/-- A report on a sweep tells what is recorded about each host of the block when it is pinged. -/
theorem tells_sweep {resolver : Resolver} {cidr : Datum}
    (hreport : ((sweep order w scanner resolver cidr).run watch).result = .ok report) :
    ∃ hosts, (blockHosts cidr scanner.settings.maxHosts).value = .ok hosts ∧
      report.Tells cidr.display (hosts.map (pingFinding w scanner resolver)) := by
  obtain ⟨hosts, hhosts, hcarry⟩ :=
    exists_of_agrees (agrees_sweep order w scanner resolver cidr) hreport
  exact ⟨hosts, hhosts, yields_carryOut watch report hcarry⟩

end NetSurvey.Scan
