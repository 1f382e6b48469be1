import NetSurvey.Journal
import NetSurvey.Specification
import NetSurvey.Text.Fields

/-!
# Port specifications

A specification such as `22,80,8000-8002` is a list of tokens with commas between them, and a token
is a port or a range of ports. What is no token, and a port out of range, is skipped; a range is
clipped to the ports that exist. Order and repetitions are kept.

A limit on the number of ports is checked before each token is expanded.
-/

namespace NetSurvey

open Text

/-- The greatest port. -/
def maxPort : Int := 65535

namespace PortSpec

/-- What a token of a specification means. -/
inductive Token where
  /-- All ports from the first to the last; none if the last is less than the first. -/
  | range (first last : Int)
  /-- Nothing but blanks. -/
  | blank
  | malformedRange (text : Text)
  | malformedPort (text : Text)
  | outOfRange (port : Int)
deriving DecidableEq, Repr

/-- One end of a range. -/
def bound? (cs : Text) : Option Int :=
  Integer.read? (trim cs)

/-- Reads a token. -/
def Token.read (cs : Text) : Token :=
  let part := trim cs
  if part.isEmpty then .blank
  else if part.contains '-' then
    match fields '-' part with
    | [first, last] =>
      match bound? first, bound? last with
      | some a, some b => .range (max a 1) (min b maxPort)
      | _, _ => .malformedRange part
    | _ => .malformedRange part
  else
    match Integer.read? part with
    | some p => if 0 < p ∧ p ≤ maxPort then .range p p else .outOfRange p
    | none => .malformedPort part

/-- The number of ports of a token. -/
def Token.count : Token → Nat
  | .range first last => (last - first + 1).toNat
  | _ => 0

/-- The ports of a token, in ascending order. -/
def Token.ports : Token → List Int
  | .range first last =>
    (List.range (last - first + 1).toNat).map fun (i : Nat) => first + (i : Int)
  | _ => []

/-- What is logged about a token that is skipped. -/
def Token.entry? : Token → Option Entry
  | .range _ _ => none
  | .blank => none
  | .malformedRange text =>
    some ⟨.debug, .enumeration, "Skipping malformed port range: " ++ quoted text⟩
  | .malformedPort text => some ⟨.debug, .enumeration, "Skipping malformed port: " ++ quoted text⟩
  | .outOfRange port => some ⟨.debug, .enumeration, s!"Skipping out-of-range port: {port}"⟩

@[simp]
theorem Token.length_ports (t : Token) : t.ports.length = t.count := by
  cases t <;> simp [ports, count]

/-- The tokens of a specification. -/
def tokens (spec : Text) : List Token :=
  (fields ',' spec).map Token.read

/-- Whether a limit is exceeded. -/
def exceeds (limit : Option Int) (count : Nat) : Bool :=
  match limit with
  | some limit => limit < count
  | none => false

/-- Expands tokens after `taken` ports have been listed. A token without ports exceeds no limit. -/
def expandTokens (limit : Option Int) : (taken : Nat) → List Token → Except Exhaustion (List Int)
  | _, [] => .ok []
  | taken, t :: ts =>
    if 0 < t.count && exceeds limit (taken + t.count) then
      .error ⟨taken + t.count, limit.getD 0, .specifiedPorts⟩
    else
      match expandTokens limit (taken + t.count) ts with
      | .ok ports => .ok (t.ports ++ ports)
      | .error e => .error e

/-- What is logged while tokens are expanded: the skipped tokens before the limit is exceeded. -/
def expandLog (limit : Option Int) : (taken : Nat) → List Token → List Entry
  | _, [] => []
  | taken, t :: ts =>
    if 0 < t.count && exceeds limit (taken + t.count) then []
    else t.entry?.toList ++ expandLog limit (taken + t.count) ts

/-- The ports of a specification, unless there are more than a limit allows. -/
def expand (spec : Text) (limit : Option Int) : Except Exhaustion (List Int) :=
  expandTokens limit 0 (tokens spec)

/-- What is logged while a specification is expanded. -/
def log (spec : Text) (limit : Option Int) : List Entry :=
  expandLog limit 0 (tokens spec)

end PortSpec

end NetSurvey
