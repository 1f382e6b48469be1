import NetSurvey.Activity

/-!
# The network

The network is given by how it answers: to a connection, to a lookup, and to a request for a page.
Connections and lookups take time, which moves a clock. `Script` is a network given by tables, where
a later entry replaces an earlier one.
-/

namespace NetSurvey

/-- How the network answers a call. -/
structure Reaction (α : Type) where
  /-- By how much the clock is moved, if it is. -/
  cost : Option Number
  result : Except Failure α

/-- A page that a web server answered with. -/
structure Page where
  status : Int
  /-- The size of the content that the server names, if it names one. -/
  contentLength : Option Datum

/-- How the network answers. -/
structure World where
  /-- The reading of the clock when a probe starts. -/
  start : Float
  connect : (host : Text) → (port : Int) → Reaction Unit
  lookup : (name : Text) → RecordType → Reaction (List Text)
  get : (url : Text) → Except Failure Page
  /-- Why there is no default resolver, if there is none. -/
  noResolver : Option Failure

namespace World

/-- A script for a host and a port. -/
structure Connection where
  host : Text
  port : Int
  cost : Number
  failure : Option Failure

/-- A script for the records of a name. -/
structure Lookup where
  name : Text
  type : RecordType
  cost : Number
  result : Except Failure (List Text)

/-- A script for a page. -/
structure Request where
  url : Text
  result : Except Failure Page

/-- A network that is given by tables. -/
structure Script where
  start : Float
  connections : List Connection
  lookups : List Lookup
  requests : List Request
  noResolver : Option Failure

/-- The last entry of a table that is meant. -/
def last? {α : Type} (p : α → Bool) (table : List α) : Option α :=
  table.foldl (fun found a => if p a then some a else found) none

/-- Answers by tables. Where a table has no entry, a connection is refused, a name does not exist,
and a page is not found. -/
def ofScript (s : Script) : World where
  start := s.start
  connect host port :=
    match last? (fun c => c.port == port && c.host == host) s.connections with
    | some c =>
      ⟨some c.cost, match c.failure with | some e => .error e | none => .ok ()⟩
    | none => ⟨none, .error (.socket .refused ⟨some 111, some "Connection refused"⟩)⟩
  lookup name type :=
    match last? (fun l => l.type == type && l.name == name) s.lookups with
    | some l => ⟨some l.cost, l.result⟩
    | none => ⟨none, .error (.lookup .noSuchName {})⟩
  get url :=
    match last? (fun r => r.url == url) s.requests with
    | some r => r.result
    | none => .ok ⟨404, none⟩
  noResolver := s.noResolver

end World

end NetSurvey
