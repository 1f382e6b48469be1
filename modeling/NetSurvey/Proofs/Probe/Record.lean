import NetSurvey.Proofs.Probe.Ping
import NetSurvey.Schedule.State

/-!
# Outcomes and their records

A record of an outcome has the details beside the fields of the outcome, and a detail takes the
place of a field of the same name. No probe gives a detail such a name, so a record of what a probe
found out keeps the fields as they are, and the outcome can be read from it again
(`Outcome.ofRecord?_toRecord`).

Which fields are set depends on whether the outcome is positive. `Question.IsFormed` says how, and
holds of whatever a probe comes to (`Question.isFormed_probe`) and of what is recorded in place of a
probe that fails (`Question.isFormed_failed`).
-/

namespace NetSurvey

/-! ### Records -/

namespace Fields

/-- Setting new fields puts them at the end, in order. -/
theorem update_of_fresh {fields new : Fields} (hfresh : ∀ key ∈ new.keys, key ∉ fields.keys)
    (hnodup : new.keys.Nodup) : fields.update new = fields ++ new := by
  induction new generalizing fields with
  | nil => exact (List.append_nil fields).symm
  | cons kv new ih =>
    obtain ⟨key, value⟩ := kv
    obtain ⟨hkey, hnodup⟩ := List.nodup_cons.mp hnodup
    have hset : fields.set key value = fields ++ [(key, value)] :=
      set_of_not_mem (hfresh key List.mem_cons_self) value
    have hrest : ∀ later ∈ keys new, later ∉ keys (fields ++ [(key, value)]) := by
      intro later hlater hmem
      obtain hmem | hmem : later ∈ fields.keys ∨ later = key := by simpa [keys] using hmem
      · exact hfresh later (List.mem_cons_of_mem key hlater) hmem
      · exact hkey (hmem ▸ hlater)
    have hupdate : fields.update ((key, value) :: new) = (fields.set key value).update new := rfl
    rw [hupdate, hset, ih hrest hnodup, List.append_assoc, List.singleton_append]

theorem get?_append (fields more : Fields) (key : Text) :
    (fields ++ more).get? key = (fields.get? key).or (more.get? key) :=
  List.lookup_append

theorem get?_of_not_mem {fields : Fields} {key : Text} (h : key ∉ fields.keys) :
    fields.get? key = none := by
  refine List.lookup_eq_none_iff.mpr fun kv hkv => ?_
  have hne : key ≠ kv.1 := fun heq => h (List.mem_map.mpr ⟨kv, hkv, heq.symm⟩)
  simpa using hne

end Fields

/-- The text that a datum is, if it is one. -/
def Datum.text? : Datum → Option Text
  | .text t => some t
  | _ => none

namespace Outcome

/-- The names of the fields of an outcome. -/
def ownKeys : List Text := ["candidate", "positive", "measurement", "error"]

/-- Details that can stand beside the fields of an outcome: none has the name of a field or of
another detail. -/
structure StandBeside (details : Fields) : Prop where
  not_own : ∀ key ∈ details.keys, key ∉ ownKeys
  nodup : details.keys.Nodup

/-- Whether details stand beside the fields of an outcome depends on their names alone. -/
theorem StandBeside.of_keys {details : Fields} {keys : List Text} (h : details.keys = keys)
    (hkeys : (∀ key ∈ keys, key ∉ ownKeys) ∧ keys.Nodup) : StandBeside details := by
  subst h
  exact ⟨hkeys.1, hkeys.2⟩

/-- The outcome that a record is about. -/
def ofRecord? (record : Fields) : Option Outcome := do
  let candidate ← record.get? "candidate"
  let .bool positive ← record.get? "positive" | none
  return {
    candidate, positive
    measurement := (record.get? "measurement").bind Datum.number?
    error := (record.get? "error").bind Datum.text?
    details := record.filter (!ownKeys.contains ·.1) }

variable {o : Outcome}

/-- An outcome has no fields of its own but the known ones. -/
theorem mem_ownKeys_of_mem {key : Text} (h : key ∈ o.ownFields.keys) : key ∈ ownKeys := by
  obtain ⟨candidate, positive, measurement, error, details⟩ := o
  have hsublist : (ownFields ⟨candidate, positive, measurement, error, details⟩).keys.Sublist
      ownKeys := by
    cases measurement <;> cases error <;> exact List.isSublist_iff_sublist.mp rfl
  exact hsublist.subset h

/-- Details that stand beside the fields of an outcome follow them in its record. -/
theorem toRecord_eq (h : StandBeside o.details) : o.toRecord = o.ownFields ++ o.details :=
  Fields.update_of_fresh (fun key hkey hown => h.not_own key hkey (mem_ownKeys_of_mem hown)) h.nodup

/-- A record tells of an outcome's own fields what the outcome does. -/
theorem get?_toRecord (h : StandBeside o.details) {key : Text} (hkey : key ∈ ownKeys) :
    o.toRecord.get? key = o.ownFields.get? key := by
  have hnone : o.details.get? key = none :=
    Fields.get?_of_not_mem fun hmem => h.not_own key hmem hkey
  rw [toRecord_eq h, Fields.get?_append, hnone, Option.or_none]

/-- A record keeps the fields that are set, and has no others under their names. -/
theorem fields_toRecord (h : StandBeside o.details) :
    o.toRecord.get? "candidate" = some o.candidate ∧
      o.toRecord.get? "positive" = some (.bool o.positive) ∧
      o.toRecord.get? "measurement" = o.measurement.map .number ∧
      o.toRecord.get? "error" = o.error.map .text := by
  rw [get?_toRecord h (by decide), get?_toRecord h (by decide), get?_toRecord h (by decide),
    get?_toRecord h (by decide)]
  obtain ⟨candidate, positive, measurement, error, details⟩ := o
  cases measurement <;> cases error <;> exact ⟨rfl, rfl, rfl, rfl⟩

/-- An outcome can be read from its record. -/
theorem ofRecord?_toRecord (h : StandBeside o.details) : ofRecord? o.toRecord = some o := by
  obtain ⟨hcandidate, hpositive, hmeasurement, herror⟩ := fields_toRecord h
  have hdetails : o.toRecord.filter (!ownKeys.contains ·.1) = o.details := by
    have hown : o.ownFields.filter (!ownKeys.contains ·.1) = [] := by
      refine List.filter_eq_nil_iff.mpr fun kv hkv => ?_
      simpa using mem_ownKeys_of_mem (List.mem_map_of_mem hkv)
    have hbeside : o.details.filter (!ownKeys.contains ·.1) = o.details := by
      refine List.filter_eq_self.mpr fun kv hkv => ?_
      simpa using h.not_own kv.1 (List.mem_map_of_mem hkv)
    rw [toRecord_eq h, List.filter_append, hown, hbeside, List.nil_append]
  have hnumber : (o.measurement.map Datum.number).bind Datum.number? = o.measurement := by
    cases o.measurement <;> rfl
  have htext : (o.error.map Datum.text).bind Datum.text? = o.error := by
    cases o.error <;> rfl
  simp only [ofRecord?, hcandidate, hpositive, hmeasurement, herror, hnumber, htext, hdetails]
  rfl

end Outcome

namespace Probe

open Activity Outcome

/-! ### Questions -/

/-- What can be asked of the network: one of the five probes, with its arguments. -/
inductive Question where
  | ofPort (host : Text) (port : Int) (timeout : Timeout) (candidate : Datum)
  | ofHost (host : Text) (timeout : Timeout) (ports : List Int)
  | ofPage (base path : Text) (timeout : Timeout) (session : Bool) (userAgent : Text)
  | ofName (name : Text) (timeout : Timeout) (resolver : Resolver)
  | ofPing (host : Text) (port : Int) (timeout : Timeout) (resolver : Resolver)

namespace Question

/-- The probe that a question is put to. -/
def probe (w : World) : Question → Probe Outcome
  | .ofPort host port timeout candidate => portOpen w host port timeout candidate
  | .ofHost host timeout ports => reachable w host timeout ports
  | .ofPage base path timeout session userAgent => pageFound w base path timeout session userAgent
  | .ofName name timeout resolver => nameResolves w name timeout resolver
  | .ofPing host port timeout resolver => Probe.ping w host port timeout resolver

/-- An answer that a page is not there, with its status. -/
def IsNotFound (w : World) : Question → Outcome → Prop
  | .ofPage base path .., o => ∃ answer, w.get (Url.join base path) = .ok answer ∧
      isFound answer.status = false ∧ o.measurement = some (.int answer.status)
  | _, _ => False

/-- A question about no port at all. -/
def HasNoPort : Question → Prop
  | .ofHost _ _ ports => ports = []
  | _ => False

/-- What an outcome looks like. A positive one has a measurement and no error. Any other has an
error and no measurement, except that the answer that a page is not there is measured, and that
there is nothing to tell about no port. -/
structure IsFormed (w : World) (q : Question) (o : Outcome) : Prop where
  of_positive : o.positive = true → o.error = none ∧ o.measurement.isSome = true
  measurement_eq : o.positive = false → o.measurement = none ∨ q.IsNotFound w o
  error_isSome : o.positive = false →
    o.error.isSome = true ∨ q.IsNotFound w o ∨ q.HasNoPort
  standBeside : StandBeside o.details

variable {w : World} {q : Question} {candidate : Datum} {details : Fields}

/-- A positive outcome with a measurement is well formed. -/
theorem isFormed_positive (n : Number) (hdetails : StandBeside details) :
    q.IsFormed w { candidate, positive := true, measurement := some n, details } :=
  ⟨fun _ => ⟨rfl, rfl⟩, nofun, nofun, hdetails⟩

/-- A negative outcome without a measurement is well formed if it has an error, which it may lack
only where there was no port to try. -/
theorem isFormed_negative {error : Option Text} (herror : ¬q.HasNoPort → error.isSome = true)
    (hdetails : StandBeside details) :
    q.IsFormed w { candidate, positive := false, error, details } := by
  refine ⟨nofun, fun _ => .inl rfl, fun _ => ?_, hdetails⟩
  by_cases hport : q.HasNoPort
  · exact .inr (.inr hport)
  · exact .inl (herror hport)

/-- What is recorded about a probe that came to no outcome is well formed. -/
theorem isFormed_failed (label : Datum) (text : Text) : q.IsFormed w (.failed label text) :=
  isFormed_negative (fun _ => rfl) ⟨nofun, .nil⟩

/-! ### What the probes come to -/

theorem standBeside_portDetails (port : Int) (isFallback : Bool) :
    StandBeside (portDetails port isFallback) :=
  .of_keys (rfl : _ = [Text.ofString "port", "fallback"]) (by decide)

/-- An outcome about ports that were tried. -/
inductive Reached (host : Text) (isTried : Prop) : Outcome → Prop
  | alive (port time : Int) (isFallback : Bool) :
    Reached host isTried (aliveOutcome host port time isFallback)
  | silent {last : Option Text} (h : isTried → last.isSome = true) :
    Reached host isTried (silentOutcome host last)

/-- The outcome that trying ports comes to. -/
def conclusion (host : Text) : Except (Option Text) Outcome → Outcome
  | .ok o => o
  | .error last => silentOutcome host last

/-- The invariant of the search: there is an error to tell as soon as one port was tried. -/
theorem reached_tryPorts (host : Text) (timeout : Timeout) (ports : List Int) (isPrimary : Bool)
    (last : Option Text) :
    (tryPorts w host timeout isPrimary last ports).Yields fun answer =>
      Reached host (last.isSome = true ∨ ports ≠ []) (conclusion host answer) := by
  induction ports generalizing isPrimary last with
  | nil => exact .pure (.silent fun h => h.resolve_right (· rfl))
  | cons port ports ih =>
    refine .bind fun answer => ?_
    cases answer with
    | ok time => exact .bind fun _ => .pure (.alive port time !isPrimary)
    | error text =>
      refine (ih false (some text)).imp fun answer hanswer => ?_
      generalize conclusion host answer = o at hanswer
      cases hanswer with
      | alive port time isFallback => exact .alive port time isFallback
      | silent h => exact .silent fun _ => h (.inl rfl)

theorem reached_reachable (host : Text) (timeout : Timeout) (ports : List Int) :
    (reachable w host timeout ports).Yields (Reached host (ports ≠ [])) := by
  refine .bind_of (reached_tryPorts host timeout ports true none) fun answer hanswer => ?_
  have htried : (none : Option Text).isSome = true ∨ ports ≠ [] ↔ ports ≠ [] := by simp
  rw [htried] at hanswer
  cases answer with
  | ok o => exact .pure hanswer
  | error last => exact .bind fun _ => .pure hanswer

theorem isFormed_portOpen (host : Text) (port : Int) (timeout : Timeout) (candidate : Datum) :
    (portOpen w host port timeout candidate).Yields (q.IsFormed w) := by
  have hdetails : StandBeside [(Text.ofString "port", Datum.int port)] :=
    .of_keys (rfl : _ = [Text.ofString "port"]) (by decide)
  refine .bind fun answer => ?_
  cases answer with
  | ok time => exact .bind fun _ => .pure (isFormed_positive _ hdetails)
  | error text => exact .bind fun _ => .pure (isFormed_negative (fun _ => rfl) hdetails)

/-- A host without an error is one that was reached, or had no port to try. -/
theorem isFormed_reachable (host : Text) (timeout : Timeout) (ports : List Int) :
    (reachable w host timeout ports).Yields (IsFormed w (.ofHost host timeout ports)) := by
  refine (reached_reachable host timeout ports).imp fun o ho => ?_
  cases ho with
  | alive port time isFallback =>
    exact isFormed_positive _ (standBeside_portDetails port isFallback)
  | silent h => exact isFormed_negative h ⟨nofun, .nil⟩

/-- A ping adds the address to what is told about a host, under a name that no other field has. -/
theorem isFormed_ping (host : Text) (port : Int) (timeout : Timeout) (resolver : Resolver) :
    (Probe.ping w host port timeout resolver).Yields (q.IsFormed w) := by
  refine .bind fun answer => ?_
  cases answer with
  | error text => exact .pure (isFormed_negative (fun _ => rfl) ⟨nofun, .nil⟩)
  | ok address =>
    refine .bind_of (reached_reachable address timeout (pingPorts port)) fun answer hanswer =>
      .pure ?_
    cases hanswer with
    | alive port time isFallback =>
      exact isFormed_positive _
        (.of_keys (rfl : _ = [Text.ofString "ip", "port", "fallback"]) (by decide))
    | silent h =>
      -- A ping always has a port to try.
      exact isFormed_negative (fun _ => h (pingPorts_ne_nil port))
        (.of_keys (rfl : _ = [Text.ofString "ip"]) (by decide))

theorem isFormed_nameResolves (name : Text) (timeout : Timeout) (resolver : Resolver) :
    (nameResolves w name timeout resolver).Yields (q.IsFormed w) := by
  have hdetails (addresses : List Datum) :
      StandBeside [(Text.ofString "addresses", Datum.list addresses)] :=
    .of_keys (rfl : _ = [Text.ofString "addresses"]) (by decide)
  refine .bind fun _ => .bind fun answer => ?_
  cases answer with
  | error text => exact .bind fun _ => .pure (isFormed_negative (fun _ => rfl) (hdetails []))
  | ok addresses =>
    exact .bind fun _ => .bind fun time => .pure (isFormed_positive _ (hdetails _))

theorem isFormed_pageFound (base path : Text) (timeout : Timeout) (session : Bool)
    (userAgent : Text) :
    (pageFound w base path timeout session userAgent).Yields
      (IsFormed w (.ofPage base path timeout session userAgent)) := by
  refine .bind fun _ => ?_
  cases hget : w.get (Url.join base path) with
  | error e =>
    by_cases hrequest : e.isRequest = true
    · simp only [hrequest, if_true]
      exact .bind fun _ => .pure (isFormed_negative (fun _ => rfl) ⟨nofun, .nil⟩)
    · simp only [hrequest]
      exact .throw
  | ok answer =>
    refine .bind fun _ => .bind fun size => ?_
    have hformed : IsFormed w (.ofPage base path timeout session userAgent) {
        candidate := .text path
        positive := isFound answer.status
        measurement := some (.int answer.status)
        details := pageDetails answer.status size } := by
      exact ⟨fun _ => ⟨rfl, rfl⟩, fun h => .inr ⟨answer, hget, h, rfl⟩,
        fun h => .inr (.inl ⟨answer, hget, h, rfl⟩),
        .of_keys (rfl : _ = [Text.ofString "status_code", "size"]) (by decide)⟩
    dsimp only
    split
    · exact .bind fun _ => .pure hformed
    · exact .pure hformed

/-- Every outcome that a probe comes to is formed as the question wants it. -/
theorem isFormed_probe (w : World) (q : Question) : (q.probe w).Yields (q.IsFormed w) := by
  cases q with
  | ofPort host port timeout candidate => exact isFormed_portOpen host port timeout candidate
  | ofHost host timeout ports => exact isFormed_reachable host timeout ports
  | ofPage base path timeout session userAgent =>
    exact isFormed_pageFound base path timeout session userAgent
  | ofName name timeout resolver => exact isFormed_nameResolves name timeout resolver
  | ofPing host port timeout resolver => exact isFormed_ping host port timeout resolver

/-! ### What is recorded -/

/-- What a schedule records about a question that stands under a label: the outcome that the probe
comes to, or the one in place of a probe that fails. -/
inductive Records (w : World) (start : Float) (label : Datum) (q : Question) : Outcome → Prop
  | returned {o : Outcome} (h : ((q.probe w).run start).result = .ok o) : Records w start label q o
  | substituted {o : Outcome} {e : Failure} (h : ((q.probe w).run start).result = .error e)
    (hsettle : (settle label (.error e)).1 = some o) : Records w start label q o

/-- In place of a probe that fails, a failure is recorded. -/
theorem exists_settle_error (label : Datum) (e : Failure) :
    ∃ text, (settle label (.error e)).1 = some (.failed label text) := by
  cases e <;> exact ⟨_, rfl⟩

/-- Whatever is recorded is well formed, be it the outcome of the probe or its failure. -/
theorem Records.isFormed {start : Float} {label : Datum} {o : Outcome}
    (h : q.Records w start label o) : q.IsFormed w o := by
  cases h with
  | returned h => exact isFormed_probe w q start o h
  | @substituted e _ hsettle =>
    obtain ⟨text, hfailed⟩ := exists_settle_error label e
    obtain rfl := Option.some.inj (hfailed.symm.trans hsettle)
    exact isFormed_failed label text

/-- **The shape of outcomes.** Whatever the network answers, an outcome that a probe comes to, or
that is recorded in place of a probe that fails, is formed as its question wants it. No detail has
the name of a field, so the record of the outcome keeps its fields, each absent exactly if it is not
set, and the outcome can be read from the record again. -/
theorem outcome_shape {w : World} {start : Float} {label : Datum} {q : Question} {o : Outcome}
    (h : q.Records w start label o) :
    (o.positive = true → o.error = none ∧ o.measurement.isSome = true) ∧
      (o.positive = false → o.measurement = none ∨ q.IsNotFound w o) ∧
      (o.positive = false → o.error.isSome = true ∨ q.IsNotFound w o ∨ q.HasNoPort) ∧
      (∀ key ∈ ownKeys, key ∉ o.details.keys) ∧
      o.toRecord.get? "candidate" = some o.candidate ∧
      o.toRecord.get? "positive" = some (.bool o.positive) ∧
      o.toRecord.get? "measurement" = o.measurement.map .number ∧
      o.toRecord.get? "error" = o.error.map .text ∧
      ofRecord? o.toRecord = some o := by
  obtain ⟨hpositive, hmeasured, herror, hdetails⟩ := h.isFormed
  obtain ⟨hcandidate, hkind, hnumber, htext⟩ := fields_toRecord hdetails
  exact ⟨hpositive, hmeasured, herror, fun key hown hkey => hdetails.not_own key hkey hown,
    hcandidate, hkind, hnumber, htext, ofRecord?_toRecord hdetails⟩

/-- A page that is not there is told with its status and without an error. A ping that fails, since
the timeout is no number of seconds, is recorded with the failure. Both are read from their records
again. -/
theorem outcome_shape_missing_page :
    (∃ o, Records oneOpenPort 0.0 .null (.ofPage "http://h" "a" none true "agent") o ∧
      o.positive = false ∧ o.measurement = some (.int 404) ∧ o.toRecord.get? "error" = none ∧
      ofRecord? o.toRecord = some o) ∧
    ∃ o, Records oneOpenPort 0.0 (.text "h") (.ofPing "h" 443 none .given) o ∧
      o.positive = false ∧ o.toRecord.get? "measurement" = none ∧
      o.error.isSome = true ∧ ofRecord? o.toRecord = some o := by
  have hpage : Records oneOpenPort 0.0 .null (.ofPage "http://h" "a" none true "agent") {
      candidate := .text "a"
      positive := false
      measurement := some (.int 404)
      details := pageDetails 404 (-1) } :=
    .returned rfl
  have hping : Records oneOpenPort 0.0 (.text "h") (.ofPing "h" 443 none .given) _ :=
    .substituted rfl rfl
  obtain ⟨-, -, -, -, -, -, -, herror, hread⟩ := outcome_shape hpage
  obtain ⟨-, -, -, -, -, -, hmeasured, -, hread'⟩ := outcome_shape hping
  exact ⟨⟨_, hpage, rfl, rfl, herror, hread⟩, _, hping, rfl, hmeasured, rfl, hread'⟩

end Question

end Probe

end NetSurvey
