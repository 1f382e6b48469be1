import NetSurvey.Failure
import NetSurvey.Journal
import NetSurvey.Text.Blank

/-!
# Settings

Settings hold the numbers of workers, the times to wait, the caps on candidates and the lists that
are taken where a caller gives none. An environment of named texts may replace the numbers: a text
that cannot be read, or that is not greater than zero, is reported and overlooked.
-/

namespace NetSurvey

open Text

/-- The values that a scan starts from. -/
structure Settings where
  maxHosts : Int := 1024
  maxPorts : Int := 65535
  subnetWorkers : Int := 100
  portWorkers : Int := 50
  directoryWorkers : Int := 20
  subdomainWorkers : Int := 50
  sweepWorkers : Int := 50
  subnetTimeout : Number := .float 2.0
  portTimeout : Number := .float 2.0
  directoryTimeout : Number := .float 10.0
  subdomainTimeout : Number := .float 5.0
  resolveTimeout : Number := .float 10.0
  pingTimeout : Number := .float 5.0
  sweepTimeout : Number := .float 2.0
  defaultPorts : List Int := [22, 80, 443, 3306, 3389, 8080]
  reachabilityPorts : List Int := [80, 443]
  directoryWords : List Text :=
    ["admin", "api", "backup", "config", "dashboard", "login",
      "phpmyadmin", "wp-admin", "wp-content", "wp-includes",
      ".env", ".git", ".htaccess", "robots.txt", "sitemap.xml",
      "api/v1", "api/v2", "swagger", "docs", "test", "dev"]
  subdomainWords : List Text := List.map Text.ofString
    ["www", "mail", "ftp", "admin", "blog", "shop", "api",
      "dev", "test", "staging", "demo", "portal", "remote",
      "vpn", "dns", "mx", "smtp", "pop", "imap", "ns1", "ns2",
      "git", "svn", "cvs", "webmail", "secure", "support",
      "docs", "wiki", "forum", "news", "mail2", "mx1", "mx2",
      "ldap", "db", "mysql", "postgres", "redis", "mongo",
      "jenkins", "gitlab", "github", "docker", "kubernetes",
      "grafana", "prometheus", "elastic", "kibana", "logstash",
      "nagios", "zabbix", "cacti", "backup", "archive"]
  userAgent : Text := "reconlab-dirscan/1.0"
  /-- The key that requests have to carry. -/
  apiKey : Option Text := none

/-- The value of each variable that is set. -/
abbrev Environment := String → Option Text

/-- A value that the environment can hold: no null character, and nothing that has no bytes. -/
def checkVariable (value : Text) : Except Failure Unit :=
  match Unencodable.find? isSystemPoint value with
  | some found => .error (.noBytes found)
  | none => if value.contains (Char.ofNat 0) then .error .nullCharacter else .ok ()

/-- The environment that fields give. Only texts are values of variables. -/
def Environment.ofFields (fields : Fields) : Except Failure Environment := do
  fields.forM fun field =>
    match field.2 with
    | .text value => checkVariable value
    | _ => .ok ()
  return fun name =>
    match fields.get? name with
    | some (.text value) => some value
    | _ => none

namespace Settings

/-! ### Reading the environment -/

/-- What is logged about a variable that is overlooked. -/
def overlooked (what name : String) (shown : Text) (default : Number) : Entry :=
  ⟨.warning, .settings, s!"Ignoring {what} for {name}: " ++ shown ++ s!". Using {default.text}."⟩

/-- An integer from the environment. Where the variable is not set, is blank, cannot be read, or is
not greater than zero, the default is taken. -/
def readInteger (env : Environment) (name : String) (default : Int) : Int × List Entry :=
  match env name with
  | none => (default, [])
  | some raw =>
    if isBlankText raw then (default, [])
    else
      match Integer.read? raw with
      | none => (default, [overlooked "invalid integer" name (quoted raw) (.int default)])
      | some n =>
        if n ≤ 0 then
          (default, [overlooked "non-positive value" name (toString n) (.int default)])
        else (n, [])

/-- A time from the environment. Where the variable is not set, is blank, cannot be read, or is not
greater than zero, the default is taken; what is not a number is taken. -/
def readTime (env : Environment) (name : String) (default : Number) : Number × List Entry :=
  match env name with
  | none => (default, [])
  | some raw =>
    if isBlankText raw then (default, [])
    else
      match Decimal.read? raw with
      | none => (default, [overlooked "invalid number" name (quoted raw) default])
      | some x =>
        if x ≤ 0 then
          (default, [overlooked "non-positive value" name (Number.float x).text default])
        else (.float x, [])

/-- A text from the environment that is not empty. -/
def readText (env : Environment) (name : String) : Option Text :=
  (env name).filter fun s => !s.isEmpty

/-- The settings that an environment gives, and what is logged about it. -/
def ofEnvironment (env : Environment) : Settings × List Entry :=
  let base : Settings := {}
  let maxHosts := readInteger env "RECONLAB_MAX_HOSTS" base.maxHosts
  let maxPorts := readInteger env "RECONLAB_MAX_PORTS" base.maxPorts
  let subnetWorkers := readInteger env "RECONLAB_SUBNET_WORKERS" base.subnetWorkers
  let portWorkers := readInteger env "RECONLAB_PORT_WORKERS" base.portWorkers
  let directoryWorkers := readInteger env "RECONLAB_DIR_WORKERS" base.directoryWorkers
  let subdomainWorkers := readInteger env "RECONLAB_DNS_WORKERS" base.subdomainWorkers
  let sweepWorkers := readInteger env "RECONLAB_SWEEP_WORKERS" base.sweepWorkers
  let subnetTimeout := readTime env "RECONLAB_SUBNET_TIMEOUT" base.subnetTimeout
  let portTimeout := readTime env "RECONLAB_PORT_TIMEOUT" base.portTimeout
  let directoryTimeout := readTime env "RECONLAB_DIR_TIMEOUT" base.directoryTimeout
  let subdomainTimeout := readTime env "RECONLAB_DNS_TIMEOUT" base.subdomainTimeout
  let resolveTimeout := readTime env "RECONLAB_RESOLVE_TIMEOUT" base.resolveTimeout
  let pingTimeout := readTime env "RECONLAB_PING_TIMEOUT" base.pingTimeout
  let sweepTimeout := readTime env "RECONLAB_SWEEP_TIMEOUT" base.sweepTimeout
  ({ base with
      maxHosts := maxHosts.1
      maxPorts := maxPorts.1
      subnetWorkers := subnetWorkers.1
      portWorkers := portWorkers.1
      directoryWorkers := directoryWorkers.1
      subdomainWorkers := subdomainWorkers.1
      sweepWorkers := sweepWorkers.1
      subnetTimeout := subnetTimeout.1
      portTimeout := portTimeout.1
      directoryTimeout := directoryTimeout.1
      subdomainTimeout := subdomainTimeout.1
      resolveTimeout := resolveTimeout.1
      pingTimeout := pingTimeout.1
      sweepTimeout := sweepTimeout.1
      apiKey := readText env "RECONLAB_API_KEY" },
    maxHosts.2 ++ maxPorts.2 ++ subnetWorkers.2 ++ portWorkers.2 ++ directoryWorkers.2 ++
      subdomainWorkers.2 ++ sweepWorkers.2 ++ subnetTimeout.2 ++ portTimeout.2 ++
      directoryTimeout.2 ++ subdomainTimeout.2 ++ resolveTimeout.2 ++ pingTimeout.2 ++
      sweepTimeout.2)

/-! ### Writing settings -/

/-- A tuple of texts; one with a single part has a comma after it. -/
def tupleText : List Text → Text
  | [part] => "(" ++ part ++ ",)"
  | parts => "(" ++ commaSeparated parts ++ ")"

/-- Settings in one line, without the key. -/
def text (s : Settings) : Text :=
  "ScanSettings(" ++ commaSeparated
    [s!"max_hosts={s.maxHosts}", s!"max_ports={s.maxPorts}",
      s!"subnet_workers={s.subnetWorkers}", s!"port_workers={s.portWorkers}",
      s!"dir_workers={s.directoryWorkers}", s!"dns_workers={s.subdomainWorkers}",
      s!"sweep_workers={s.sweepWorkers}",
      "subnet_timeout=" ++ s.subnetTimeout.text, "port_timeout=" ++ s.portTimeout.text,
      "dir_timeout=" ++ s.directoryTimeout.text, "dns_timeout=" ++ s.subdomainTimeout.text,
      "resolve_timeout=" ++ s.resolveTimeout.text, "ping_timeout=" ++ s.pingTimeout.text,
      "sweep_timeout=" ++ s.sweepTimeout.text,
      "default_ports=" ++ tupleText (s.defaultPorts.map fun n => (Datum.int n).shown),
      "reachability_ports=" ++ tupleText (s.reachabilityPorts.map fun n => (Datum.int n).shown),
      "dir_wordlist=" ++ tupleText (s.directoryWords.map quoted),
      "subdomain_wordlist=" ++ tupleText (s.subdomainWords.map quoted),
      "user_agent=" ++ quoted s.userAgent] ++ ")"

end Settings

end NetSurvey
