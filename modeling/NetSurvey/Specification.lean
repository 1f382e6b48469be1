import NetSurvey.Datum.Basic

/-!
# Specifications that are refused

What a caller asks for is refused in two ways: it may not be well formed, or it may ask for more
candidates than are allowed. Each cause is a constructor here, and its wording is in `message`.
-/

namespace NetSurvey

/-- Why a specification is not well formed. -/
inductive SpecificationError where
  /-- A block is not of the form `address/length`. -/
  | blockForm (shown : Text)
  /-- The length of a block's prefix is not a number. -/
  | blockLength (cidr : Text)
  /-- The length of a block's prefix cannot be read. -/
  | blockNumeral (cause : IntegerError)
  /-- There is no such block. -/
  | noBlock (text : Text)
  | target (shown : Text)
  | noPorts (shown : Text)
  | baseUrl (shown : Text)
  | noPaths
  | domain (shown : Text)
  | noNames
  | noHostname
  | noHost
  | port (n : Int)
  /-- A refusal in the words of another party. -/
  | told (text : Text)
deriving DecidableEq, Repr

/-- What is said about a specification that is not well formed. -/
def SpecificationError.message : SpecificationError → Text
  | .blockForm shown => "Invalid CIDR format: " ++ shown
  | .blockLength cidr => "Invalid CIDR prefix: " ++ Text.quoted cidr
  | .blockNumeral cause => "Invalid CIDR: " ++ cause.message
  | .noBlock text =>
    "Invalid CIDR: " ++ Text.quoted text ++ " does not appear to be an IPv4 or IPv6 network"
  | .target shown => "Invalid target: " ++ shown
  | .noPorts shown => "Port spec " ++ shown ++ " produced no ports to scan."
  | .baseUrl shown => "Invalid base URL: " ++ shown
  | .noPaths => "Wordlist produced no paths to probe."
  | .domain shown => "Invalid domain name: " ++ shown
  | .noNames => "Wordlist produced no subdomains to resolve."
  | .noHostname => "Hostname is required."
  | .noHost => "Host is required."
  | .port n => s!"Invalid port: {n}"
  | .told text => text

/-- What there was too much of. -/
inductive Surplus where
  /-- The hosts of a block. -/
  | hosts
  /-- The ports of a written specification. -/
  | specifiedPorts
  /-- The ports of a list. -/
  | listedPorts
  /-- Candidates of any kind. -/
  | candidates
  /-- A surplus in the words of another party. -/
  | told (text : Text)
deriving DecidableEq, Repr

/-- More candidates than are allowed. -/
structure Exhaustion where
  count : Int
  limit : Int
  surplus : Surplus
deriving DecidableEq, Repr

/-- What is said about too many candidates. -/
def Exhaustion.message (e : Exhaustion) : Text :=
  match e.surplus with
  | .hosts => s!"CIDR too large ({e.count} hosts). Max {e.limit} hosts allowed."
  | .specifiedPorts => s!"Port spec too large ({e.count}+ ports). Max {e.limit} ports allowed."
  | .listedPorts => s!"Too many ports ({e.count}+). Max {e.limit} ports allowed."
  | .candidates => s!"Too many candidates ({e.count}). Max {e.limit} allowed."
  | .told text => text

end NetSurvey
