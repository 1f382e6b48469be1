import NetSurvey.Proofs.Probe.Shape
import NetSurvey.Service.Task

/-!
# The shapes of answers

The body of an answer has a fixed shape: every record in it has certain fields, each with a value of
a certain kind, and only some of these may be null. `Shape.build?` builds data of a shape from given
data, and there is nothing to build if a field that may not be null is null or missing.

Records that a service answers with are the typed records `AliveHost`, `PortAnswer`, `FoundPage`,
`FoundName` and `PingAnswer`. For each kind of scan, the record of an outcome builds such a record,
and it is the one that the service completes (`completed`).
-/

namespace NetSurvey.Service

open Scan Probe

/-! ### Shapes -/

/-- What a datum has to be. -/
inductive Shape where
  | integer
  | truth
  | text
  | listOf (item : Shape)
  /-- A shape, or null. -/
  | optional (shape : Shape)
  | record (fields : List (Text × Shape))

namespace Shape

mutual

/-- Builds a datum of a shape from another one. A record gets the fields of its shape, in their
order, and a field that is missing is null. -/
def build? : Shape → Datum → Option Datum
  | integer, .number (.int n) => some (.int n)
  | truth, .bool b => some (.bool b)
  | text, .text t => some (.text t)
  | listOf item, .list items => (items.mapM item.build?).map .list
  | optional _, .null => some .null
  | optional shape, d => shape.build? d
  | record shapes, .record fields => (buildFields? shapes fields).map .record
  | _, _ => none

/-- Builds the fields of a record. -/
def buildFields? : List (Text × Shape) → Fields → Option Fields
  | [], _ => some []
  | (key, shape) :: shapes, fields => do
    let value ← shape.build? ((fields.get? key).getD .null)
    let rest ← buildFields? shapes fields
    return (key, value) :: rest

end

/-- A list is built item by item. -/
theorem build?_listOf {α : Type} {shape : Shape} {items : List α} {given built : α → Datum}
    (h : ∀ a ∈ items, shape.build? (given a) = some (built a)) :
    (listOf shape).build? (.list (items.map given)) = some (.list (items.map built)) := by
  have hitems : (items.map given).mapM shape.build? = some (items.map built) := by
    induction items with
    | nil => rfl
    | cons a items ih =>
      have ha := h a List.mem_cons_self
      have hrest := ih fun b hb => h b (List.mem_cons_of_mem a hb)
      rw [List.map_cons, List.mapM_cons, ha, hrest]
      rfl
  rw [build?, hitems]
  rfl

theorem buildFields?_cons {key : Text} {shape : Shape} {shapes : List (Text × Shape)}
    {fields rest : Fields} {value : Datum}
    (hvalue : shape.build? ((fields.get? key).getD .null) = some value)
    (hrest : buildFields? shapes fields = some rest) :
    buildFields? ((key, shape) :: shapes) fields = some ((key, value) :: rest) := by
  rw [buildFields?, hvalue, hrest]
  rfl

theorem build?_record {shapes : List (Text × Shape)} {fields built : Fields}
    (h : buildFields? shapes fields = some built) :
    (record shapes).build? (.record fields) = some (.record built) := by
  rw [build?, h]
  rfl

end Shape

/-- The shape of a host that answered. -/
def hostShape : Shape :=
  .record [("ip", .text), ("alive", .truth), ("port", .optional .integer),
    ("rtt_ms", .optional .integer)]

/-- The shape of a port. -/
def portShape : Shape :=
  .record [("port", .integer), ("open", .truth), ("rtt_ms", .optional .integer)]

/-- The shape of a page. -/
def pageShape : Shape :=
  .record [("path", .text), ("status_code", .integer), ("found", .truth), ("size", .integer)]

/-- The shape of a name. -/
def nameShape : Shape :=
  .record [("hostname", .text), ("ips", .listOf .text), ("found", .truth),
    ("error", .optional .text)]

/-- The shape of a host that was pinged. -/
def pingShape : Shape :=
  .record [("host", .text), ("reachable", .truth), ("ip", .optional .text),
    ("rtt_ms", .optional .integer), ("error", .optional .text)]

/-- The shape of the answer to a task. -/
def Task.answerShape : Task → Shape
  | .subnet .. =>
    .record [("scanned", .integer), ("alive", .integer), ("hosts", .listOf hostShape),
      ("execution_time", .text)]
  | .ports .. =>
    .record [("host", .text), ("open_ports", .integer), ("results", .listOf portShape),
      ("execution_time", .text)]
  | .directories .. =>
    .record [("base_url", .text), ("scanned", .integer), ("found", .listOf pageShape),
      ("execution_time", .text)]
  | .subdomains .. =>
    .record [("domain", .text), ("scanned", .integer), ("found", .listOf nameShape),
      ("execution_time", .text)]
  | .sweep .. =>
    .record [("network", .text), ("total_hosts", .integer), ("alive_hosts", .integer),
      ("hosts", .listOf pingShape), ("execution_time", .text)]
  | .resolve .. => nameShape
  | .ping .. => pingShape

/-! ### Records -/

/-- A datum, or null. -/
def orNull {α : Type} (toDatum : α → Datum) (value : Option α) : Datum :=
  value.elim .null toDatum

/-- A host that answered on a port in a time. -/
structure AliveHost where
  ip : Text
  port : Int
  time : Int
deriving Inhabited

/-- A port, with the time that a connection took if it is open. -/
structure PortAnswer where
  port : Int
  time : Option Int
deriving Inhabited

/-- A page that was found. -/
structure FoundPage where
  path : Text
  status : Int
  size : Int
deriving Inhabited

/-- A name that was found. -/
structure FoundName where
  hostname : Text
  addresses : List Text
deriving Inhabited

/-- A host that was pinged, with the time that this took if it is reachable. -/
structure PingAnswer where
  host : Text
  address : Option Text
  time : Option Int
  error : Option Text
deriving Inhabited

/-- A port is open if a connection has a time. -/
def PortAnswer.isOpen (p : PortAnswer) : Bool :=
  p.time.isSome

/-- A host is reachable if its ping has a time. -/
def PingAnswer.isReachable (p : PingAnswer) : Bool :=
  p.time.isSome

def AliveHost.toDatum (h : AliveHost) : Datum :=
  .record [("ip", .text h.ip), ("alive", .bool true), ("port", .int h.port),
    ("rtt_ms", .int h.time)]

def PortAnswer.toDatum (p : PortAnswer) : Datum :=
  .record [("port", .int p.port), ("open", .bool p.isOpen), ("rtt_ms", orNull .int p.time)]

def FoundPage.toDatum (p : FoundPage) : Datum :=
  .record [("path", .text p.path), ("status_code", .int p.status), ("found", .bool true),
    ("size", .int p.size)]

def FoundName.toDatum (n : FoundName) : Datum :=
  .record [("hostname", .text n.hostname), ("ips", .list (n.addresses.map .text)),
    ("found", .bool true), ("error", .null)]

def PingAnswer.toDatum (p : PingAnswer) : Datum :=
  .record [("host", .text p.host), ("reachable", .bool p.isReachable),
    ("ip", orNull .text p.address), ("rtt_ms", orNull .int p.time), ("error", orNull .text p.error)]

/-- The body of an answer about ports. -/
def portsBody (host : Text) (results : List PortAnswer) (time : Text) : Datum :=
  .record [("host", .text host), ("open_ports", .int (results.filter (·.isOpen)).length),
    ("results", .list (results.map PortAnswer.toDatum)), ("execution_time", .text time)]

/-- A record builds a datum, which is also what completing the record with null gives. -/
def Builds (shape : Shape) (keys : List Text) (record : Fields) (d : Datum) : Prop :=
  completed keys record = d ∧ shape.build? (.record record) = some d

variable {o : Outcome}

theorem exists_aliveHost {host : Text} {ports : List Int}
    (h : o.Timed (.text host) (HasPort ports)) (hpositive : o.positive = true) :
    ∃ a : AliveHost, Builds hostShape hostFields (subnetRecord o) a.toDatum ∧ a.port ∈ ports := by
  cases h with
  | negative error hdetails => cases hpositive
  | positive time hdetails =>
    obtain ⟨-, port, hport, isFallback, rfl⟩ | ⟨hfalse, -⟩ := hdetails
    · exact ⟨⟨host, port, time⟩, ⟨rfl, rfl⟩, hport⟩
    · cases hfalse

theorem exists_portAnswer {port : Int} (h : o.Timed (.int port) fun _ _ => True) :
    ∃ p : PortAnswer, Builds portShape portFields (portRecord o) p.toDatum ∧ p.port = port ∧
      p.isOpen = o.positive := by
  cases h with
  | positive time hdetails => exact ⟨⟨port, some time⟩, ⟨rfl, rfl⟩, rfl, rfl⟩
  | negative error hdetails => exact ⟨⟨port, none⟩, ⟨rfl, rfl⟩, rfl, rfl⟩

theorem exists_foundPage {path : Text} (h : IsPage path o) (hpositive : o.positive = true) :
    ∃ p : FoundPage, Builds pageShape pageFields (directoryRecord o) p.toDatum ∧
      isFound p.status = true := by
  obtain ⟨status, size, hfound, hdetails⟩ := h.details_eq hpositive
  refine ⟨⟨path, status, size⟩, ?_, hfound⟩
  rw [directoryRecord, Outcome.detail, Outcome.detail, h.candidate_eq, hdetails]
  exact ⟨rfl, rfl⟩

/-- A name that was found has a record, which has its addresses and no error. -/
theorem exists_foundName {name : Text} (h : o.Timed (.text name) HasAddresses)
    (hpositive : o.positive = true) :
    ∃ (n : FoundName) (record : Fields), nameRecord o = .ok record ∧
      Builds nameShape nameFields record n.toDatum ∧ n.addresses ≠ [] := by
  cases h with
  | negative error hdetails => cases hpositive
  | positive time hdetails =>
    obtain ⟨addresses, hne, rfl⟩ := hdetails rfl
    refine ⟨⟨name, addresses⟩, _, rfl, ⟨rfl, ?_⟩, hne⟩
    have hlist : (Shape.listOf .text).build? (.list (addresses.map .text)) =
        some (.list (addresses.map .text)) := Shape.build?_listOf fun _ _ => rfl
    exact Shape.build?_record (Shape.buildFields?_cons rfl (Shape.buildFields?_cons hlist rfl))

/-- A field with a text, if there is one. -/
def textField (key : Text) (value : Option Text) : Fields :=
  value.toList.map fun t => (key, .text t)

/-- An error is told unless it is empty. -/
theorem exists_errorField (o : Outcome) : ∃ error, errorField o = textField "error" error := by
  rw [errorField]
  rcases o.error with _ | _ | ⟨c, cs⟩
  · exact ⟨none, rfl⟩
  · exact ⟨none, rfl⟩
  · exact ⟨some (c :: cs), rfl⟩

/-- An address is told unless it is empty. -/
theorem exists_addressField {positive : Bool} (h : HasAddress positive o.details) :
    ∃ address, textField "ip" address =
      if (o.detail "ip").isPresent then ([("ip", o.detail "ip")] : Fields) else [] := by
  rw [Outcome.detail]
  rcases h with h | ⟨_ | ⟨c, cs⟩, h⟩
  · exact ⟨none, by rw [h]; rfl⟩
  · exact ⟨none, by rw [h]; rfl⟩
  · exact ⟨some (c :: cs), by rw [h]; rfl⟩

/-- The record of a host that was pinged has a time exactly if the host is reachable. -/
theorem exists_pingAnswer {host : Text} (h : o.Timed (.text host) HasAddress) :
    ∃ p : PingAnswer, Builds pingShape pingFields (hostRecord o) p.toDatum ∧
      p.isReachable = o.positive := by
  obtain ⟨error, herror⟩ := exists_errorField o
  have haddress : HasAddress o.positive o.details := by
    cases h with
    | positive time hdetails => exact hdetails
    | negative error hdetails => exact hdetails
  obtain ⟨address, haddress⟩ := exists_addressField haddress
  rw [hostRecord, herror, ← haddress]
  cases h with
  | positive time hdetails =>
    refine ⟨⟨host, address, some time, error⟩, ?_, rfl⟩
    cases address <;> cases error <;> exact ⟨rfl, rfl⟩
  | negative error' hdetails =>
    refine ⟨⟨host, address, none, error⟩, ?_, rfl⟩
    cases address <;> cases error <;> exact ⟨rfl, rfl⟩

end NetSurvey.Service
