import NetSurvey.Address.Text
import NetSurvey.Probe.Connect
import NetSurvey.Probe.Resolve

/-!
# Pings

A host is pinged over a connection to one of its ports, with a second port to fall back to. A host
that is not an address is looked up first.
-/

namespace NetSurvey.Probe

/-- The port that is tried where another one does not answer. -/
def fallbackPort : Int := 80

/-- The address to ping: the host itself if it is an address, and its first address otherwise. -/
def pingAddress (w : World) (host : Text) (timeout : Timeout) (resolver : Resolver) :
    Probe (Except Text Text) := do
  if Address.isAddress host then return .ok host
  match ← Activity.attempt (resolve w host timeout resolver) with
  | .ok (address :: _) => return .ok address
  | .ok [] => throw .nothingToTake
  | .error text => return .error text

/-- The ports to try, in order. -/
def pingPorts (port : Int) : List Int :=
  if port = fallbackPort then [port] else [port, fallbackPort]

/-- Pings a host. -/
def ping (w : World) (host : Text) (port : Int) (timeout : Timeout) (resolver : Resolver) :
    Probe Outcome := do
  match ← pingAddress w host timeout resolver with
  | .error text => return { candidate := .text host, positive := false, error := some text }
  | .ok address =>
    let answer ← reachable w address timeout (pingPorts port)
    return { answer with
      candidate := .text host
      details := Fields.update [("ip", .text address)] answer.details }

end NetSurvey.Probe
