import NetSurvey.Probe.Page
import NetSurvey.Probe.Ping
import NetSurvey.Proofs.Activity

/-!
# What outcomes look like

Whatever the network answers, an outcome that a probe comes to is about the candidate that was
probed. A probe that waits for an answer measures the time until it has one: its outcome is positive
with a time, or negative without (`Outcome.Timed`). A page is the exception, since an answer that it
is not there is measured as well; only pages that were found are described.

A probe that comes to no outcome fails, and what is then recorded is not the probe's to say.
-/

namespace NetSurvey

/-- An outcome about a candidate that is positive, with a time and no error, or negative, with no
time. `P` says of its details what depends on that. -/
inductive Outcome.Timed (candidate : Datum) (P : Bool → Fields → Prop) : Outcome → Prop
  | positive (time : Int) {details : Fields} (h : P true details) :
    Timed candidate P { candidate, positive := true, measurement := some (.int time), details }
  | negative (error : Option Text) {details : Fields} (h : P false details) :
    Timed candidate P { candidate, positive := false, error, details }

theorem Outcome.Timed.candidate_eq {candidate : Datum} {P : Bool → Fields → Prop} {o : Outcome}
    (h : o.Timed candidate P) : o.candidate = candidate := by
  cases h <;> rfl

namespace Probe

open Activity Outcome

variable (w : World) (host : Text) (timeout : Timeout)

/-! ### Connections -/

/-- A port that accepts a connection has a time, and one that does not has an error. Nothing else is
told about it. -/
theorem timed_portOpen (port n : Int) :
    (portOpen w host port timeout (.int n)).Yields (Timed (.int n) fun _ _ => True) := by
  refine .bind fun answer => ?_
  cases answer with
  | ok time => exact .bind fun _ => .pure (.positive time trivial)
  | error text => exact .bind fun _ => .pure (.negative (some text) trivial)

/-- The details of a host that answered. -/
def portDetails (port : Int) (isFallback : Bool) : Fields :=
  [("port", .int port), ("fallback", .bool isFallback)]

/-- The details of a host: the port that answered, if one did. -/
def HasPort (ports : List Int) (positive : Bool) (details : Fields) : Prop :=
  (positive = true ∧ ∃ port ∈ ports, ∃ isFallback, details = portDetails port isFallback) ∨
    (positive = false ∧ details = [])

/-- Ports are tried one after the other. The first one that answers is told with its time, and it is
one of those that were to be tried. -/
theorem timed_tryPorts (ports : List Int) (isPrimary : Bool) (last : Option Text) :
    (tryPorts w host timeout isPrimary last ports).Yields fun answer =>
      ∀ o, answer = .ok o → o.Timed (.text host) (HasPort ports) := by
  induction ports generalizing isPrimary last with
  | nil => exact .pure nofun
  | cons port ports ih =>
    refine .bind fun answer => ?_
    cases answer with
    | ok time =>
      refine .bind fun _ => .pure ?_
      rintro o ⟨⟩
      exact .positive time (.inl ⟨rfl, port, List.mem_cons_self, _, rfl⟩)
    | error text =>
      -- A port of the rest is one of all.
      have hmore {positive : Bool} {details : Fields} (h : HasPort ports positive details) :
          HasPort (port :: ports) positive details :=
        h.imp_left fun ⟨hpositive, later, hlater, hdetails⟩ =>
          ⟨hpositive, later, List.mem_cons_of_mem port hlater, hdetails⟩
      refine (ih false (some text)).imp fun answer hanswer o ho => ?_
      cases hanswer o ho with
      | positive time hdetails => exact .positive time (hmore hdetails)
      | negative error hdetails => exact .negative error (hmore hdetails)

/-- A host that can be reached is told with one of the ports that were tried, and one that cannot is
told with no port. -/
theorem timed_reachable (ports : List Int) :
    (reachable w host timeout ports).Yields (Timed (.text host) (HasPort ports)) := by
  refine .bind_of (timed_tryPorts w host timeout ports true none) fun answer hanswer => ?_
  cases answer with
  | ok outcome => exact .pure (hanswer outcome rfl)
  | error last => exact .bind fun _ => .pure (.negative last (.inr ⟨rfl, rfl⟩))

/-! ### Pings -/

/-- The details of a host that was pinged: the address is a text, if there is one. -/
def HasAddress (_ : Bool) (details : Fields) : Prop :=
  details.get? "ip" = none ∨ ∃ address : Text, details.get? "ip" = some (.text address)

/-- A host that is pinged has a time exactly if it answers. Its address, if it is told, is a
text. -/
theorem timed_ping (port : Int) (resolver : Resolver) :
    (ping w host port timeout resolver).Yields (Timed (.text host) HasAddress) := by
  refine .bind fun answer => ?_
  cases answer with
  | error text => exact .pure (.negative (some text) (.inl rfl))
  | ok address =>
    refine .bind_of (timed_reachable w address timeout (pingPorts port)) fun answer hanswer => ?_
    refine .pure ?_
    cases hanswer with
    | positive time hdetails =>
      obtain ⟨-, port, -, isFallback, rfl⟩ | ⟨hfalse, -⟩ := hdetails
      · exact .positive time (.inr ⟨address, rfl⟩)
      · cases hfalse
    | negative error hdetails =>
      obtain ⟨htrue, -⟩ | ⟨-, rfl⟩ := hdetails
      · cases htrue
      · exact .negative error (.inr ⟨address, rfl⟩)

/-! ### Names -/

/-- A lookup that comes to addresses comes to at least one. -/
theorem yields_resolve (name : Text) (resolver : Resolver) :
    (resolve w name timeout resolver).Yields (· ≠ []) := by
  refine .bind fun _ => .bind fun _ => .bind fun _ => .bind fun answer => ?_
  obtain ⟨addresses, failure⟩ := answer
  cases addresses with
  | nil => exact .throw
  | cons address addresses => exact .pure (List.cons_ne_nil _ _)

/-- The details of a name. -/
def addressDetails (addresses : List Text) : Fields :=
  [("addresses", .list (addresses.map .text))]

/-- The details of a name: it has addresses, if it was found. -/
def HasAddresses (positive : Bool) (details : Fields) : Prop :=
  positive = true → ∃ addresses : List Text, addresses ≠ [] ∧ details = addressDetails addresses

/-- A name that is found has a time and at least one address. -/
theorem timed_nameResolves (name : Text) (resolver : Resolver) :
    (nameResolves w name timeout resolver).Yields (Timed (.text name) HasAddresses) := by
  refine .bind fun _ => .bind_of (yields_resolve w timeout name resolver).attempt fun answer h => ?_
  cases answer with
  | error text => exact .bind fun _ => .pure (.negative (some text) nofun)
  | ok addresses =>
    refine .bind fun _ => .bind fun time => .pure (.positive time fun _ => ?_)
    exact ⟨addresses, h addresses rfl, rfl⟩

/-! ### Pages -/

/-- The details of a page. -/
def pageDetails (status size : Int) : Fields :=
  [("status_code", .int status), ("size", .int size)]

/-- An outcome about a page: if the page was found, with its status and its size. -/
structure IsPage (path : Text) (o : Outcome) : Prop where
  candidate_eq : o.candidate = .text path
  details_eq : o.positive = true → ∃ status size : Int, isFound status = true ∧
    o.details = pageDetails status size

/-- A page that answers is told with its status. Only one whose status counts as found is
positive. -/
theorem isPage_pageFound (base path : Text) (session : Bool) (userAgent : Text) :
    (pageFound w base path timeout session userAgent).Yields (IsPage path) := by
  refine .bind fun _ => ?_
  cases w.get (Url.join base path) with
  | error e =>
    -- A failure that is not of the request is passed on, and there is no outcome.
    by_cases hrequest : e.isRequest = true
    · simp only [hrequest, if_true]
      exact .bind fun _ => .pure ⟨rfl, nofun⟩
    · simp only [hrequest]
      exact .throw
  | ok page =>
    refine .bind fun _ => .bind fun size => ?_
    have hpage : IsPage path {
        candidate := .text path
        positive := isFound page.status
        measurement := some (.int page.status)
        details := pageDetails page.status size } :=
      ⟨rfl, fun hfound => ⟨page.status, size, hfound, rfl⟩⟩
    dsimp only
    split
    · exact .bind fun _ => .pure hpage
    · exact .pure hpage

end Probe

end NetSurvey
