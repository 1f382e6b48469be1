import NetSurvey.Probe.Basic

/-!
# Lookups

`resolve` asks for the addresses of a name, kind by kind, as long as time remains. A failed lookup
of one kind does not discard the addresses of another, but if there is no such name, no further kind
is asked for. `nameResolves` asks whether a name has addresses.
-/

namespace NetSurvey.Probe

/-- The resolver that is asked: one that the caller gives, or the default one. -/
inductive Resolver where
  | given
  | default
deriving DecidableEq, Repr

/-- Gets hold of the resolver. -/
def findResolver (w : World) (name : Text) : Resolver → Probe Unit
  | .given => return ()
  | .default => do
    Activity.call .defaultResolver
    match w.noResolver with
    | none => return ()
    | some e => throw (if e.isLookup then .probe ("lookup " ++ name ++ ": " ++ e.message) else e)

/-- A timeout as a duration. -/
def duration : Timeout → Except Failure Float
  | none => .error .noDuration
  | some n => n.toFloat.mapError .arithmetic

/-- Asks for records of the given kinds before a deadline, and gives the addresses with the last
failure. -/
def lookups (w : World) (name : Text) (deadline : Float) :
    List RecordType → Probe (List Text × Option Failure)
  | [] => return ([], none)
  | type :: types => do
    let remaining := deadline - (← now)
    if remaining ≤ 0 then return ([], none)
    Activity.call (.resolve name type remaining)
    let reaction := w.lookup name type
    spend reaction.cost
    match reaction.result with
    | .ok addresses =>
      let (more, failure) ← lookups w name deadline types
      return (addresses ++ more, failure)
    | .error e =>
      if e.isNoSuchName then return ([], some e)
      if e.isLookup then
        let (more, failure) ← lookups w name deadline types
        return (more, failure.or (some e))
      throw e

/-- The addresses of a name. It is a failure of the probe if there are none. -/
def resolve (w : World) (name : Text) (timeout : Timeout) (resolver : Resolver) :
    Probe (List Text) := do
  findResolver w name resolver
  let start ← now
  let duration ← Activity.ofExcept (duration timeout)
  let (addresses, failure) ← lookups w name (start + duration) RecordType.all
  if addresses.isEmpty then
    let reason : Text := match failure with | some e => e.message | none => "no addresses found"
    throw (.probe ("lookup " ++ name ++ ": " ++ reason))
  return addresses

/-- Whether a name has addresses. -/
def nameResolves (w : World) (name : Text) (timeout : Timeout) (resolver : Resolver) :
    Probe Outcome := do
  let start ← now
  match ← Activity.attempt (resolve w name timeout resolver) with
  | .error text =>
    log .debug ("Could not resolve " ++ name ++ ": " ++ text)
    return { candidate := .text name, positive := false, error := some text,
             details := [("addresses", .list [])] }
  | .ok addresses =>
    log .info ("Resolved " ++ name ++ " -> " ++ Text.commaSeparated addresses)
    let time ← elapsed start
    return { candidate := .text name, positive := true, measurement := some (.int time),
             details := [("addresses", .list (addresses.map .text))] }

end NetSurvey.Probe
