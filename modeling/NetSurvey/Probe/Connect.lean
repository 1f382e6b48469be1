import NetSurvey.Probe.Basic

/-!
# Connections

`connect` opens a connection and closes it again. A failed system call becomes a failure of the
probe; anything else that goes wrong is not the probe's to report. `portOpen` asks whether one port
accepts a connection, and `reachable` whether one of several does, in order.
-/

namespace NetSurvey.Probe

/-- Opens a connection, closes it, and gives the time that it took. The connection is closed also if
the time cannot be computed. -/
def connect (w : World) (host : Text) (port : Int) (timeout : Timeout) : Probe Int := do
  let start ← now
  Activity.call (.connect host port timeout)
  let reaction := w.connect host port
  spend reaction.cost
  match reaction.result with
  | .ok () =>
    let finish ← now
    Activity.call (.close host port)
    Activity.ofArithmetic (milliseconds start finish)
  | .error e => throw (if e.isSocket then .probe (host ++ s!":{port} - " ++ e.message) else e)

/-- Whether a port accepts a connection. Without a candidate the outcome is about `host:port`. -/
def portOpen (w : World) (host : Text) (port : Int) (timeout : Timeout) (candidate : Datum) :
    Probe Outcome := do
  let candidate := match candidate with | .null => .text (host ++ s!":{port}") | c => c
  let details : Fields := [("port", .int port)]
  match ← Activity.attempt (connect w host port timeout) with
  | .ok time =>
    log .info (s!"Port {port} on " ++ host ++ " is Open")
    return { candidate, positive := true, measurement := some (.int time), details }
  | .error text =>
    log .debug (s!"Port {port} on " ++ host ++ " is Closed (" ++ text ++ ")")
    return { candidate, positive := false, error := some text, details }

/-- Tries ports in order until one accepts a connection. The first port is the primary one, and an
answer on a later one is a fallback. If no port accepts one, the last failure is told. -/
def tryPorts (w : World) (host : Text) (timeout : Timeout) :
    (isPrimary : Bool) → (last : Option Text) → List Int → Probe (Except (Option Text) Outcome)
  | _, last, [] => return .error last
  | isPrimary, _, port :: ports => do
    match ← Activity.attempt (connect w host port timeout) with
    | .error text => tryPorts w host timeout false (some text) ports
    | .ok time =>
      log .info ("Host " ++ host ++ s!" is alive on port {port} ({time} ms)")
      return .ok {
        candidate := .text host
        positive := true
        measurement := some (.int time)
        details := [("port", .int port), ("fallback", .bool !isPrimary)] }

/-- Whether one of several ports accepts a connection. -/
def reachable (w : World) (host : Text) (timeout : Timeout) (ports : List Int) :
    Probe Outcome := do
  match ← tryPorts w host timeout true none ports with
  | .ok outcome => return outcome
  | .error last =>
    log .debug ("Host " ++ host ++ " did not answer on ports " ++
      (Datum.list (ports.map .int)).shown)
    return { candidate := .text host, positive := false, error := last }

end NetSurvey.Probe
