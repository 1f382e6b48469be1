import NetSurvey.Number.Basic

/-!
# The journal

Two records are kept of what is done. The log holds entries for people, each with a level and the
part of the program that wrote it. The trace holds the calls that reached the network, in order.
-/

namespace NetSurvey

/-- How much an entry of the log matters. -/
inductive Level where
  | debug
  | info
  | warning
  | error
deriving DecidableEq, Repr

/-- The parts of the program that write to the log. -/
inductive Source where
  | settings
  | scheduler
  | enumeration
  | probes
  | subnetScan
  | portScan
  | directoryScan
  | subdomainScan
  | pingSweep
  | security
  | routes
deriving DecidableEq, Repr

namespace Level

/-- The name of a level in the log. -/
def name : Level → String
  | debug => "DEBUG"
  | info => "INFO"
  | warning => "WARNING"
  | error => "ERROR"

end Level

namespace Source

/-- The name under which a part of the program writes to the log. -/
def name : Source → String
  | settings => "reconlab.core.config"
  | scheduler => "reconlab.core.scheduler"
  | enumeration => "reconlab.reconnaissance.enumeration"
  | probes => "reconlab.reconnaissance.probes"
  | subnetScan => "reconlab.reconnaissance.subnet_scan"
  | portScan => "reconlab.reconnaissance.tcp_connect_scan"
  | directoryScan => "reconlab.reconnaissance.dir_scan"
  | subdomainScan => "reconlab.reconnaissance.dns_recon"
  | pingSweep => "reconlab.reconnaissance.ping_sweep"
  | security => "reconlab.api.security"
  | routes => "reconlab.api.routes.recon_routes"

end Source

/-- An entry of the log. -/
structure Entry where
  level : Level
  source : Source
  message : Text
deriving DecidableEq, Repr

/-- The kinds of address records that are looked up, in the order in which they are asked for. -/
inductive RecordType where
  | a
  | aaaa
deriving DecidableEq, Repr

namespace RecordType

/-- The name of a kind of record. -/
def name : RecordType → String
  | a => "A"
  | aaaa => "AAAA"

/-- All kinds of address records, in the order in which they are asked for. -/
def all : List RecordType := [a, aaaa]

end RecordType

/-- How long a call may take: a number of seconds, or without bound. -/
abbrev Timeout := Option Number

/-- A call that reached the network. -/
inductive Call where
  | connect (host : Text) (port : Int) (timeout : Timeout)
  | close (host : Text) (port : Int)
  | defaultResolver
  | resolve (name : Text) (type : RecordType) (lifetime : Float)
  /-- A request for a page, through a session or not. A redirect may be followed, and the content
  may be left to be read later. -/
  | get (session : Bool) (url userAgent : Text) (timeout : Timeout) (redirects streamed : Bool)
  | closeResponse (url : Text)
  | closeSession
deriving Repr

end NetSurvey
