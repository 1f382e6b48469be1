import NetSurvey.Proofs.Probe.Reaction
import NetSurvey.Proofs.Probe.Shape

/-!
# Lookups of a name

A name is looked up kind by kind, as long as time remains. `queries` are the lookups that are made,
each with the time that remained for it and what it came to, and `run_lookups` says that everything
else follows from them: the calls, the addresses that are found, and the failure that is told if
there are none. `Asked` says of the two kinds of addresses, without a recursion, when each of them
is asked for and how long it may take.

Failures of lookups are kept and told at the end. Any other failure ends the lookups where it is met
(`findings_queries_of_not_isLookup`). A timeout that is no number of seconds sets no deadline, and
nothing is asked then (`resolve_of_no_duration`).
-/

namespace NetSurvey

/-- A lookup that was made: the kind of records that were asked for, the time that remained for it,
and what it came to. -/
structure Query where
  type : RecordType
  lifetime : Float
  answer : Except Failure (List Text)

namespace Query

/-- The call of a lookup. -/
def call (name : Text) (q : Query) : Call :=
  .resolve name q.type q.lifetime

/-- The addresses that a lookup found. -/
def addresses (q : Query) : List Text :=
  q.answer.toOption.getD []

/-- Why a lookup found nothing, if it failed. -/
def failure? (q : Query) : Option Failure :=
  match q.answer with
  | .ok _ => none
  | .error e => some e

/-- Why a lookup failed, if that is not a failure of lookups: nothing is asked or told after it. -/
def escape? (q : Query) : Option Failure :=
  q.failure?.filter fun e => !e.isLookup

variable (type : RecordType) (lifetime : Float)

@[simp]
theorem addresses_ok (found : List Text) : (mk type lifetime (.ok found)).addresses = found := rfl

@[simp]
theorem failure?_error (e : Failure) : (mk type lifetime (.error e)).failure? = some e := rfl

@[simp]
theorem escape?_ok (found : List Text) : (mk type lifetime (.ok found)).escape? = none := rfl

/-- A query ends the lookups with its failure if that is no failure of a lookup. -/
theorem escape?_eq_some_iff {q : Query} {e : Failure} :
    q.escape? = some e ↔ q.answer = .error e ∧ e.isLookup = false := by
  rw [escape?, failure?, Option.filter_eq_some_iff]
  cases q.answer with
  | ok found => simp
  | error e' => simp

@[simp]
theorem call_mk (name : Text) (answer : Except Failure (List Text)) :
    (mk type lifetime answer).call name = .resolve name type lifetime := rfl

end Query

namespace Probe

open Activity

variable {w : World} {name : Text} {deadline now : Float} {type : RecordType}

/-! ### Kind by kind -/

/-- Past the deadline nothing is asked any more. -/
theorem run_lookups_cons_of_late (types : List RecordType) (h : deadline - now ≤ 0) :
    (lookups w name deadline (type :: types)).run now = ⟨.ok ([], none), now, [], []⟩ := by
  rw [lookups, run_bind_of_ok (run_now now), if_pos h]
  rfl

/-- The addresses of an answer come before those of later ones. -/
theorem run_lookups_cons_of_ok {types : List RecordType} (hleft : ¬deadline - now ≤ 0)
    {addresses : List Text} {result : Except Failure (List Text × Option Failure)} {later : Float}
    {calls : List Call} {log : List Entry} (h : (w.lookup name type).answer = .ok addresses)
    (hrest : (lookups w name deadline types).run ((w.lookup name type).clockAfter now) =
      ⟨result, later, calls, log⟩) :
    (lookups w name deadline (type :: types)).run now =
      ⟨result.map fun found => (addresses ++ found.1, found.2), later,
        .resolve name type (deadline - now) :: calls, log⟩ := by
  have hspend := (w.lookup name type).run_spend now
  obtain ⟨time, htime, hresult⟩ := Reaction.answer_eq_ok h
  rw [htime] at hspend
  rw [lookups, run_bind_of_ok (run_now now), if_neg hleft, run_bind_of_ok (run_call _ now),
    run_bind_of_ok hspend, hresult]
  cases result with
  | ok found =>
    rw [run_bind_of_ok hrest]
    simp [Except.map]
  | error e =>
    rw [run_bind_of_error hrest]
    rfl

/-- That there is no such name ends the lookups, and is told as a failure beside what was found. -/
theorem run_lookups_cons_of_noSuchName (types : List RecordType) (hleft : ¬deadline - now ≤ 0)
    {e : Failure} (h : (w.lookup name type).answer = .error e) (he : e.isNoSuchName = true) :
    (lookups w name deadline (type :: types)).run now =
      ⟨.ok ([], some e), (w.lookup name type).clockAfter now,
        [.resolve name type (deadline - now)], []⟩ := by
  have hspend := (w.lookup name type).run_spend now
  obtain ⟨time, htime, hresult⟩ := Reaction.answer_eq_error_of_ne h (by rintro cause rfl; cases he)
  rw [htime] at hspend
  rw [lookups, run_bind_of_ok (run_now now), if_neg hleft, run_bind_of_ok (run_call _ now),
    run_bind_of_ok hspend, hresult]
  simp [he]

/-- Another failure of a lookup is kept, and the next type is asked for. A later failure takes its
place. -/
theorem run_lookups_cons_of_isLookup {types : List RecordType} (hleft : ¬deadline - now ≤ 0)
    {e : Failure} {result : Except Failure (List Text × Option Failure)} {later : Float}
    {calls : List Call} {log : List Entry} (h : (w.lookup name type).answer = .error e)
    (he : e.isNoSuchName = false) (hlookup : e.isLookup = true)
    (hrest : (lookups w name deadline types).run ((w.lookup name type).clockAfter now) =
      ⟨result, later, calls, log⟩) :
    (lookups w name deadline (type :: types)).run now =
      ⟨result.map fun found => (found.1, found.2.or (some e)), later,
        .resolve name type (deadline - now) :: calls, log⟩ := by
  have hspend := (w.lookup name type).run_spend now
  obtain ⟨time, htime, hresult⟩ :=
    Reaction.answer_eq_error_of_ne h (by rintro cause rfl; cases hlookup)
  rw [htime] at hspend
  rw [lookups, run_bind_of_ok (run_now now), if_neg hleft, run_bind_of_ok (run_call _ now),
    run_bind_of_ok hspend, hresult]
  simp only [he, hlookup, Bool.false_eq_true, if_false, if_true]
  cases result with
  | ok found =>
    rw [run_bind_of_ok hrest]
    simp [Except.map]
  | error e =>
    rw [run_bind_of_error hrest]
    rfl

/-- A failure that is not one of lookups ends them, be it the cost or the result. -/
theorem run_lookups_cons_of_not_isLookup (types : List RecordType) (hleft : ¬deadline - now ≤ 0)
    {e : Failure} (h : (w.lookup name type).answer = .error e) (he : e.isLookup = false) :
    ∃ later, (lookups w name deadline (type :: types)).run now =
      ⟨.error e, later, [.resolve name type (deadline - now)], []⟩ := by
  have hspend := (w.lookup name type).run_spend now
  have hname : e.isNoSuchName = false := by
    cases e with
    | lookup => cases he
    | _ => rfl
  rw [lookups, run_bind_of_ok (run_now now), if_neg hleft, run_bind_of_ok (run_call _ now)]
  obtain htime | ⟨time, htime, hresult⟩ := Reaction.answer_eq_error h
  · rw [htime] at hspend
    rw [run_bind_of_error hspend]
    exact ⟨_, rfl⟩
  · rw [htime] at hspend
    rw [run_bind_of_ok hspend, hresult]
    simp only [hname, he, Bool.false_eq_true, if_false]
    exact ⟨_, rfl⟩

/-! ### All kinds -/

/-- Whether a lookup is the last one, whatever was to follow: there is no such name, or the failure
is not one of lookups. -/
def isLast : Except Failure (List Text) → Bool
  | .ok _ => false
  | .error e => e.isNoSuchName || !e.isLookup

/-- The lookups that are made from a reading of the clock on. -/
def queries (w : World) (name : Text) (deadline : Float) : Float → List RecordType → List Query
  | _, [] => []
  | now, type :: types =>
    if deadline - now ≤ 0 then []
    else
      ⟨type, deadline - now, (w.lookup name type).answer⟩ ::
        if isLast (w.lookup name type).answer then []
        else queries w name deadline ((w.lookup name type).clockAfter now) types

/-- The last failure of some lookups. -/
def lastFailure? (made : List Query) : Option Failure :=
  (made.filterMap Query.failure?).getLast?

/-- What some lookups come to together: their addresses and their last failure. -/
def findings (made : List Query) : Except Failure (List Text × Option Failure) :=
  match made.findSome? Query.escape? with
  | some e => .error e
  | none => .ok (made.flatMap Query.addresses, lastFailure? made)

section Findings

variable (lifetime : Float) (made : List Query)

theorem findings_cons_of_ok (addresses : List Text) :
    findings (⟨type, lifetime, .ok addresses⟩ :: made) =
      (findings made).map fun found => (addresses ++ found.1, found.2) := by
  rw [findings, findings, List.findSome?_cons, Query.escape?_ok]
  cases made.findSome? Query.escape? with
  | none => rfl
  | some e => rfl

theorem findings_cons_of_isLookup {e : Failure} (he : e.isLookup = true) :
    findings (⟨type, lifetime, .error e⟩ :: made) =
      (findings made).map fun found => (found.1, found.2.or (some e)) := by
  have hescape : (Query.mk type lifetime (.error e)).escape? = none := by simp [Query.escape?, he]
  have hlast : lastFailure? (⟨type, lifetime, .error e⟩ :: made) =
      (lastFailure? made).or (some e) := by simp [lastFailure?, List.getLast?_cons]
  rw [findings, findings, List.findSome?_cons, hescape, hlast]
  cases made.findSome? Query.escape? with
  | none => rfl
  | some e => rfl

theorem findings_cons_of_not_isLookup {e : Failure} (he : e.isLookup = false) :
    findings (⟨type, lifetime, .error e⟩ :: made) = .error e := by
  have hescape : (Query.mk type lifetime (.error e)).escape? = some e := by
    simp [Query.escape?, he]
  rw [findings, List.findSome?_cons, hescape]

end Findings

/-- Everything that is found out follows from the lookups that are made. -/
theorem run_lookups (w : World) (name : Text) (deadline : Float) (types : List RecordType)
    (now : Float) :
    let made := queries w name deadline now types
    ∃ later, (lookups w name deadline types).run now =
      ⟨findings made, later, made.map (Query.call name), []⟩ := by
  induction types generalizing now with
  | nil => exact ⟨now, rfl⟩
  | cons type types ih =>
    by_cases hleft : deadline - now ≤ 0
    · refine ⟨now, ?_⟩
      rw [run_lookups_cons_of_late types hleft, queries, if_pos hleft]
      rfl
    obtain ⟨later, hrest⟩ := ih ((w.lookup name type).clockAfter now)
    rw [queries, if_neg hleft]
    cases hanswer : (w.lookup name type).answer with
    | ok addresses =>
      refine ⟨later, ?_⟩
      rw [run_lookups_cons_of_ok hleft hanswer hrest]
      simp [isLast, findings_cons_of_ok]
    | error e =>
      cases hlookup : e.isLookup with
      | false =>
        obtain ⟨later, hrun⟩ := run_lookups_cons_of_not_isLookup types hleft hanswer hlookup
        refine ⟨later, ?_⟩
        rw [hrun]
        simp [isLast, hlookup, findings_cons_of_not_isLookup]
      | true =>
        cases habsent : e.isNoSuchName with
        | true =>
          refine ⟨(w.lookup name type).clockAfter now, ?_⟩
          rw [run_lookups_cons_of_noSuchName types hleft hanswer habsent]
          simp only [isLast, habsent, Bool.true_or, if_true, findings_cons_of_isLookup _ _ hlookup]
          rfl
        | false =>
          refine ⟨later, ?_⟩
          rw [run_lookups_cons_of_isLookup hleft hanswer habsent hlookup hrest]
          simp [isLast, habsent, hlookup, findings_cons_of_isLookup]

/-! ### Failures that are not of lookups -/

/-- Where only lookups fail, all addresses are found, and the last failure is known. -/
theorem findings_of_forall_isLookup {made : List Query}
    (h : ∀ q ∈ made, ∀ e, q.answer = .error e → e.isLookup = true) :
    findings made = .ok (made.flatMap Query.addresses, lastFailure? made) := by
  have hnone : made.findSome? Query.escape? = none := by
    refine List.findSome?_eq_none_iff.mpr fun q hq => Option.eq_none_iff_forall_ne_some.mpr ?_
    intro e hescape
    obtain ⟨hanswer, hlookup⟩ := Query.escape?_eq_some_iff.mp hescape
    rw [h q hq e hanswer] at hlookup
    cases hlookup
  rw [findings, hnone]

/-- Such a failure is that of the last lookup, so it is the one that all of them come to. -/
theorem findings_queries_of_not_isLookup {types : List RecordType} {q : Query}
    (hq : q ∈ queries w name deadline now types) {e : Failure} (hanswer : q.answer = .error e)
    (he : e.isLookup = false) : findings (queries w name deadline now types) = .error e := by
  induction types generalizing now with
  | nil => cases hq
  | cons type types ih =>
    rw [queries] at hq ⊢
    by_cases hleft : deadline - now ≤ 0
    · rw [if_pos hleft] at hq
      cases hq
    rw [if_neg hleft] at hq ⊢
    obtain rfl | hq := List.mem_cons.mp hq
    · dsimp only at hanswer
      rw [hanswer]
      exact findings_cons_of_not_isLookup _ _ he
    · cases hhead : (w.lookup name type).answer with
      | ok addresses =>
        simp only [hhead, isLast, Bool.false_eq_true, if_false] at hq ⊢
        rw [findings_cons_of_ok, ih hq]
        rfl
      | error e' =>
        -- A lookup follows this one, so its own failure is one of lookups.
        cases hlast : isLast (.error e') with
        | true => simp [hhead, hlast] at hq
        | false =>
          have hlookup : e'.isLookup = true := by
            simp only [isLast, Bool.or_eq_false_iff, Bool.not_eq_false'] at hlast
            exact hlast.2
          simp only [hhead, hlast, Bool.false_eq_true, if_false] at hq ⊢
          rw [findings_cons_of_isLookup _ _ hlookup, ih hq]
          rfl

/-! ### The two kinds of addresses -/

/-- The reading of the clock when a kind of addresses is asked for. -/
def askedAt (w : World) (name : Text) (start : Float) : RecordType → Float
  | .a => start
  | .aaaa => (w.lookup name .a).clockAfter start

/-- The lookups that are made of a name before a deadline. -/
structure Asked (w : World) (name : Text) (start deadline : Float) (made : List Query) : Prop where
  /-- One kind is asked for after the other, each at most once. -/
  types_prefix : made.map Query.type <+: [.a, .aaaa]
  /-- A lookup may take as long as is left when it is made. -/
  lifetime_eq : ∀ q ∈ made, q.lifetime = deadline - askedAt w name start q.type
  time_left : ∀ q ∈ made, ¬q.lifetime ≤ 0
  answer_eq : ∀ q ∈ made, q.answer = (w.lookup name q.type).answer
  a_mem_iff : .a ∈ made.map Query.type ↔ ¬deadline - start ≤ 0
  /-- The second kind is not asked for if there is no such name, or if no time is left. -/
  aaaa_mem_iff : .aaaa ∈ made.map Query.type ↔
    .a ∈ made.map Query.type ∧ isLast (w.lookup name .a).answer = false ∧
      ¬deadline - askedAt w name start .aaaa ≤ 0

/-- The queries that are made are asked in the order of the types, each within what is left of the
time. -/
theorem asked_queries (w : World) (name : Text) (start deadline : Float) :
    Asked w name start deadline (queries w name deadline start RecordType.all) := by
  simp only [RecordType.all, queries]
  by_cases hleft : deadline - start ≤ 0
  · rw [if_pos hleft]
    constructor <;> simp [hleft]
  rw [if_neg hleft]
  cases hlast : isLast (w.lookup name .a).answer with
  | true => constructor <;> simp [hleft, hlast, askedAt]
  | false =>
    by_cases hlater : deadline - (w.lookup name .a).clockAfter start ≤ 0
    · constructor <;> simp [hleft, hlater, askedAt]
    · constructor <;> simp [hleft, hlast, hlater, askedAt]

/-- The addresses of the first kind stay found, whatever becomes of the second. -/
theorem prefix_flatMap_queries {start : Float} {found : List Text}
    (h : (w.lookup name .a).answer = .ok found) (hleft : ¬deadline - start ≤ 0) :
    found <+: (queries w name deadline start RecordType.all).flatMap Query.addresses := by
  rw [RecordType.all, queries, if_neg hleft, h, List.flatMap_cons, Query.addresses_ok]
  exact List.prefix_append _ _

/-! ### The resolver -/

namespace Resolver

/-- What is called to get hold of the resolver. -/
def calls : Resolver → List Call
  | .given => []
  | .default => [.defaultResolver]

/-- There is a resolver to ask. -/
def IsAvailable (w : World) (resolver : Resolver) : Prop :=
  resolver = .default → w.noResolver = none

end Resolver

variable {timeout : Timeout} {resolver : Resolver} {start : Float}

theorem run_findResolver (h : resolver.IsAvailable w) :
    (findResolver w name resolver).run start = ⟨.ok (), start, resolver.calls, []⟩ := by
  cases resolver with
  | given => rfl
  | default =>
    rw [findResolver, run_bind_of_ok (run_call _ start), h rfl]
    rfl

/-- Where the system has no resolver, nothing is asked. -/
theorem resolve_of_noResolver {e : Failure} (h : w.noResolver = some e) (he : e.isLookup = true) :
    ((resolve w name timeout .default).run start).result =
        .error (.probe ("lookup " ++ name ++ ": " ++ e.message)) ∧
      ((resolve w name timeout .default).run start).calls = [.defaultResolver] := by
  have hfind : (findResolver w name .default).run start =
      ⟨.error (.probe ("lookup " ++ name ++ ": " ++ e.message)), start,
        [.defaultResolver], []⟩ := by
    rw [findResolver, run_bind_of_ok (run_call _ start), h]
    simp only [he, if_true]
    rfl
  rw [resolve, run_bind_of_error hfind]
  exact ⟨rfl, rfl⟩

/-- A timeout that is no number of seconds sets no deadline. -/
theorem resolve_of_no_duration (hresolver : resolver.IsAvailable w) {e : Failure}
    (h : duration timeout = .error e) :
    ((resolve w name timeout resolver).run start).result = .error e ∧
      ((resolve w name timeout resolver).run start).calls = resolver.calls := by
  have hduration : (Activity.ofExcept (duration timeout) : Probe Float).run start =
      ⟨.error e, start, [], []⟩ := by rw [h]; rfl
  rw [resolve, run_bind_of_ok (run_findResolver hresolver), run_bind_of_ok (run_now start),
    run_bind_of_error hduration]
  exact ⟨rfl, by simp⟩

/-- What is told about a name without addresses. -/
def noAddresses (name : Text) (failure : Option Failure) : Text :=
  "lookup " ++ name ++ ": " ++ failure.elim (Text.ofString "no addresses found") Failure.message

/-- What a name is resolved to: the addresses that were found, if there are any. -/
def resolution (name : Text) (addresses : List Text) (failure : Option Failure) :
    Except Failure (List Text) :=
  if addresses = [] then .error (.probe (noAddresses name failure)) else .ok addresses

/-- What a name resolves to is what its queries find, and they are all that is called besides the
resolver. -/
theorem resolve_of_duration (name : Text) (start : Float) (hresolver : resolver.IsAvailable w)
    {seconds : Float} (h : duration timeout = .ok seconds) {made : List Query}
    (hmade : queries w name (start + seconds) start RecordType.all = made) :
    ((resolve w name timeout resolver).run start).result =
        (findings made >>= fun found => resolution name found.1 found.2) ∧
      ((resolve w name timeout resolver).run start).calls =
        resolver.calls ++ made.map (Query.call name) := by
  have hduration : (Activity.ofExcept (duration timeout) : Probe Float).run start =
      ⟨.ok seconds, start, [], []⟩ := by rw [h]; rfl
  obtain ⟨later, hlookups⟩ := run_lookups w name (start + seconds) RecordType.all start
  rw [hmade] at hlookups
  rw [resolve, run_bind_of_ok (run_findResolver hresolver), run_bind_of_ok (run_now start),
    run_bind_of_ok hduration]
  cases hfindings : findings made with
  | error e =>
    rw [hfindings] at hlookups
    rw [run_bind_of_error hlookups]
    exact ⟨rfl, rfl⟩
  | ok found =>
    rw [hfindings] at hlookups
    rw [run_bind_of_ok hlookups]
    obtain ⟨addresses, failure⟩ := found
    cases addresses with
    | nil => cases failure <;> exact ⟨rfl, congrArg _ (List.append_nil _)⟩
    | cons address addresses => exact ⟨rfl, congrArg _ (List.append_nil _)⟩

/-! ### Whether a name has addresses -/

/-- A lookup that fails as a probe is a negative outcome. -/
theorem nameResolves_of_probe {text : Text}
    (h : ((resolve w name timeout resolver).run start).result = .error (.probe text)) :
    ((nameResolves w name timeout resolver).run start).result = .ok {
        candidate := .text name
        positive := false
        error := some text
        details := addressDetails [] } ∧
      ((nameResolves w name timeout resolver).run start).calls =
        ((resolve w name timeout resolver).run start).calls := by
  rcases hrun : (resolve w name timeout resolver).run start with ⟨result, later, calls, entries⟩
  rw [hrun] at h
  obtain rfl : result = .error (.probe text) := h
  rw [nameResolves, run_bind_of_ok (run_now start), run_bind_of_ok (run_attempt_of_probe hrun)]
  exact ⟨rfl, List.append_nil _⟩

/-- Addresses that are found are a positive outcome, with the time that all queries took
together. -/
theorem nameResolves_of_ok {addresses : List Text} {time : Int}
    (h : ((resolve w name timeout resolver).run start).result = .ok addresses)
    (htime : milliseconds start ((resolve w name timeout resolver).run start).state = .ok time) :
    ((nameResolves w name timeout resolver).run start).result = .ok {
        candidate := .text name
        positive := true
        measurement := some (.int time)
        details := addressDetails addresses } ∧
      ((nameResolves w name timeout resolver).run start).calls =
        ((resolve w name timeout resolver).run start).calls := by
  rcases hrun : (resolve w name timeout resolver).run start with ⟨result, later, calls, entries⟩
  rw [hrun] at h htime
  obtain rfl : result = .ok addresses := h
  have helapsed : (elapsed start).run later = ⟨.ok time, later, [], []⟩ := by
    dsimp only at htime
    rw [elapsed, run_bind_of_ok (run_now later), htime]
    rfl
  rw [nameResolves, run_bind_of_ok (run_now start), run_bind_of_ok (run_attempt_of_ok hrun)]
  dsimp only
  rw [run_bind_of_ok (run_log later _ _), run_bind_of_ok helapsed]
  exact ⟨rfl, List.append_nil _⟩

/-- Any other failure of a lookup is passed on. -/
theorem nameResolves_of_error {e : Failure} (he : e.isProbe = false)
    (h : ((resolve w name timeout resolver).run start).result = .error e) :
    ((nameResolves w name timeout resolver).run start).result = .error e ∧
      ((nameResolves w name timeout resolver).run start).calls =
        ((resolve w name timeout resolver).run start).calls := by
  rcases hrun : (resolve w name timeout resolver).run start with ⟨result, later, calls, entries⟩
  rw [hrun] at h
  obtain rfl : result = .error e := h
  rw [nameResolves, run_bind_of_ok (run_now start),
    run_bind_of_error (run_attempt_of_error he hrun)]
  exact ⟨rfl, rfl⟩

/-- Whether a name has addresses is whether it can be resolved, as long as the time that this takes
can be calculated. -/
theorem nameResolves_of_resolve
    (htime : ∀ addresses, ((resolve w name timeout resolver).run start).result = .ok addresses →
      ∃ time, milliseconds start ((resolve w name timeout resolver).run start).state = .ok time) :
    let attempt := (resolve w name timeout resolver).run start
    let probe := (nameResolves w name timeout resolver).run start
    probe.calls = attempt.calls ∧
    ((∃ outcome, probe.result = .ok outcome ∧ outcome.positive = true) ↔
      ∃ addresses, attempt.result = .ok addresses) ∧
    (∀ addresses, attempt.result = .ok addresses →
      ∃ outcome, probe.result = .ok outcome ∧ outcome.candidate = .text name ∧
        outcome.positive = true ∧ outcome.error = none ∧
        outcome.details = addressDetails addresses) ∧
    ∀ text, attempt.result = .error (.probe text) →
      ∃ outcome, probe.result = .ok outcome ∧ outcome.candidate = .text name ∧
        outcome.positive = false ∧ outcome.error = some text ∧
        outcome.details = addressDetails [] := by
  intro attempt probe
  cases hresult : attempt.result with
  | ok addresses =>
    obtain ⟨time, helapsed⟩ := htime addresses hresult
    obtain ⟨hprobe, hcalls⟩ := nameResolves_of_ok hresult helapsed
    refine ⟨hcalls, iff_of_true ⟨_, hprobe, rfl⟩ ⟨_, rfl⟩, fun found hfound => ?_, nofun⟩
    obtain rfl := Except.ok.inj hfound
    exact ⟨_, hprobe, rfl, rfl, rfl, rfl⟩
  | error e =>
    by_cases hreport : e.isProbe = true
    · obtain ⟨text, rfl⟩ := Failure.exists_of_isProbe hreport
      obtain ⟨hprobe, hcalls⟩ := nameResolves_of_probe hresult
      refine ⟨hcalls, iff_of_false ?_ nofun, nofun, fun text' htext => ?_⟩
      · rintro ⟨outcome, hok, hpositive⟩
        rw [← Except.ok.inj (hprobe.symm.trans hok)] at hpositive
        cases hpositive
      · cases htext
        exact ⟨_, hprobe, rfl, rfl, rfl, rfl⟩
    · obtain ⟨hprobe, hcalls⟩ := nameResolves_of_error (Bool.eq_false_iff.mpr hreport) hresult
      refine ⟨hcalls, iff_of_false ?_ nofun, nofun, ?_⟩
      · rintro ⟨outcome, hok, -⟩
        cases hprobe.symm.trans hok
      · rintro text ⟨⟩
        exact absurd rfl hreport

/-- **Resolution of a name.** Without a resolver the name is not resolved, and without a duration
nothing is asked. Otherwise the lookups are those that `Asked` describes, with the time that is left
for each of them. A failure that is not one of lookups (a cost that is beyond all doubles is one) is
what the resolution comes to. If there is none, the name is resolved to the addresses of the first
kind, which no failure of the second discards, and then those of the second. Where there are no
addresses at all, the last failure is told. The probe of a name is positive exactly if the name is
resolved, with the same addresses. -/
theorem name_resolution (w : World) (name : Text) (timeout : Timeout) (resolver : Resolver)
    (start : Float) :
    let attempt := (resolve w name timeout resolver).run start
    let probe := (nameResolves w name timeout resolver).run start
    (∀ e, resolver = .default → w.noResolver = some e → e.isLookup = true →
      attempt.result = .error (.probe ("lookup " ++ name ++ ": " ++ e.message)) ∧
        attempt.calls = [.defaultResolver]) ∧
    (resolver.IsAvailable w →
      (∀ e, duration timeout = .error e →
        attempt.result = .error e ∧ attempt.calls = resolver.calls) ∧
      ∀ seconds, duration timeout = .ok seconds →
        ∃ made, Asked w name start (start + seconds) made ∧
          attempt.calls = resolver.calls ++ made.map (Query.call name) ∧
          (∀ q ∈ made, ∀ e, q.answer = .error e → e.isLookup = false →
            attempt.result = .error e) ∧
          ((∀ q ∈ made, ∀ e, q.answer = .error e → e.isLookup = true) →
            attempt.result = resolution name (made.flatMap Query.addresses) (lastFailure? made)) ∧
          ∀ found, (w.lookup name .a).answer = .ok found → ¬start + seconds - start ≤ 0 →
            found <+: made.flatMap Query.addresses) ∧
    ((∀ addresses, attempt.result = .ok addresses →
        ∃ time, milliseconds start attempt.state = .ok time) →
      probe.calls = attempt.calls ∧
      ((∃ outcome, probe.result = .ok outcome ∧ outcome.positive = true) ↔
        ∃ addresses, attempt.result = .ok addresses) ∧
      (∀ addresses, attempt.result = .ok addresses →
        ∃ outcome, probe.result = .ok outcome ∧ outcome.candidate = .text name ∧
          outcome.positive = true ∧ outcome.error = none ∧
          outcome.details = addressDetails addresses) ∧
      ∀ text, attempt.result = .error (.probe text) →
        ∃ outcome, probe.result = .ok outcome ∧ outcome.candidate = .text name ∧
          outcome.positive = false ∧ outcome.error = some text ∧
          outcome.details = addressDetails []) := by
  intro attempt probe
  refine ⟨?_, fun hresolver => ⟨fun e he => resolve_of_no_duration hresolver he, ?_⟩,
    nameResolves_of_resolve⟩
  · rintro e rfl hnone hlookup
    exact resolve_of_noResolver hnone hlookup
  · intro seconds hseconds
    obtain ⟨hresult, hcalls⟩ := resolve_of_duration name start hresolver hseconds rfl
    refine ⟨_, asked_queries w name start (start + seconds), hcalls, ?_, ?_, ?_⟩
    · intro q hq e hanswer he
      refine hresult.trans ?_
      rw [findings_queries_of_not_isLookup hq hanswer he]
      rfl
    · intro hlookup
      refine hresult.trans ?_
      rw [findings_of_forall_isLookup hlookup]
      rfl
    · intro found hfound hleft
      exact prefix_flatMap_queries hfound hleft

/-- A network without a default resolver, on which the lookup of a name for one kind of addresses
takes a second, and the one for the other kind times out after two more. -/
def halfResolved : World := .ofScript {
  start := 0.0
  connections := []
  lookups := [⟨"h", .a, .float 1.0, .ok ["192.0.2.7"]⟩,
    ⟨"h", .aaaa, .float 2.0, .error (.lookup .timeout {})⟩]
  requests := []
  noResolver := some (.lookup .noConfiguration ⟨none, some "no servers"⟩) }

/-- The second lookup has two of the three seconds left, and its failure discards nothing. -/
theorem name_resolution_half :
    (∃ made, Asked halfResolved "h" 0.0 3.0 made ∧
      made.map (Query.call "h") = [.resolve "h" .a 3.0, .resolve "h" .aaaa 2.0] ∧
      resolution "h" (made.flatMap Query.addresses) (lastFailure? made) = .ok ["192.0.2.7"] ∧
      ∃ outcome, ((nameResolves halfResolved "h" (some (.float 3.0)) .given).run 0.0).result =
          .ok outcome ∧
        outcome.positive = true ∧ outcome.details = addressDetails ["192.0.2.7"]) ∧
    ((resolve halfResolved "h" (some (.float 3.0)) .default).run 0.0).result =
      .error (.probe "lookup h: no servers") := by
  obtain ⟨-, hgiven, hprobe⟩ := name_resolution halfResolved "h" (some (.float 3.0)) .given 0.0
  obtain ⟨made, hasked, hcalls, -, hresult, -⟩ := (hgiven nofun).2 3.0 rfl
  have hlookup : ∀ q ∈ made, ∀ e, q.answer = .error e → e.isLookup = true := by
    intro q hq e he
    rw [hasked.answer_eq q hq] at he
    cases htype : q.type with
    | a =>
      rw [htype] at he
      cases he
    | aaaa =>
      rw [htype] at he
      obtain rfl := Except.error.inj he
      rfl
  obtain ⟨-, -, hpositive, -⟩ := hprobe fun _ _ => ⟨3000, rfl⟩
  obtain ⟨outcome, houtcome, -, htrue, -, hdetails⟩ := hpositive ["192.0.2.7"] rfl
  refine ⟨⟨made, hasked, hcalls.symm.trans rfl, (hresult hlookup).symm.trans rfl, outcome, houtcome,
    htrue, hdetails⟩, ?_⟩
  exact ((name_resolution halfResolved "h" (some (.float 3.0)) .default 0.0).1 _ rfl rfl rfl).1

end Probe

end NetSurvey
