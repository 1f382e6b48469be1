import NetSurvey.Settings
import NetSurvey.Proofs.Number.NotANumber

/-!
# Settings from the environment

Seven variables hold integers and seven hold times, and each sets one field of the settings. Where a
variable is overlooked (`Overlooked`), its field has the default; else it has the value that is read
from the variable.

Main statement: `usable_settings`. All integers are at least one. A time is greater than zero except
where its variable spells what is not a number. That this exception occurs is `time_not_a_number`.
-/

namespace NetSurvey.Settings

open Text Binary

/-! ### Variables -/

/-- The variables that hold integers, each with the field that it sets. -/
def integerVariables : List (String × (Settings → Int)) :=
  [("RECONLAB_MAX_HOSTS", maxHosts), ("RECONLAB_MAX_PORTS", maxPorts),
    ("RECONLAB_SUBNET_WORKERS", subnetWorkers), ("RECONLAB_PORT_WORKERS", portWorkers),
    ("RECONLAB_DIR_WORKERS", directoryWorkers), ("RECONLAB_DNS_WORKERS", subdomainWorkers),
    ("RECONLAB_SWEEP_WORKERS", sweepWorkers)]

/-- The variables that hold times, each with the field that it sets. -/
def timeVariables : List (String × (Settings → Number)) :=
  [("RECONLAB_SUBNET_TIMEOUT", subnetTimeout), ("RECONLAB_PORT_TIMEOUT", portTimeout),
    ("RECONLAB_DIR_TIMEOUT", directoryTimeout), ("RECONLAB_DNS_TIMEOUT", subdomainTimeout),
    ("RECONLAB_RESOLVE_TIMEOUT", resolveTimeout), ("RECONLAB_PING_TIMEOUT", pingTimeout),
    ("RECONLAB_SWEEP_TIMEOUT", sweepTimeout)]

/-- The names of all variables that are read: that of the key, and the others. -/
def variableNames : List String :=
  "RECONLAB_API_KEY" :: (integerVariables.map Prod.fst ++ timeVariables.map Prod.fst)

/-- The fields that no variable sets. -/
def unread (s : Settings) : List Int × List Int × List Text × List Text × Text :=
  (s.defaultPorts, s.reachabilityPorts, s.directoryWords, s.subdomainWords, s.userAgent)

/-! ### What is taken from a variable -/

section

variable {α : Type} [LE α] [OfNat α 0]

/-- Why a variable is overlooked, where `Reads` tells what is read from a text. -/
inductive Overlooked (Reads : Text → α → Prop) : Option Text → Prop
  | unset : Overlooked Reads none
  | blank {raw : Text} (hraw : isBlankText raw = true) : Overlooked Reads (some raw)
  | unreadable {raw : Text} (hraw : ∀ a, ¬Reads raw a) : Overlooked Reads (some raw)
  | atMostZero {raw : Text} {a : α} (hraw : Reads raw a) (ha : a ≤ 0) : Overlooked Reads (some raw)

variable {Reads : Text → α → Prop} {value : Option Text} {raw : Text} {a : α}

/-- From a variable that is not overlooked something is read that is not at most zero. -/
theorem exists_of_not_overlooked (h : ¬Overlooked Reads value) :
    ∃ raw a, value = some raw ∧ Reads raw a ∧ ¬a ≤ 0 := by
  cases value with
  | none => exact absurd .unset h
  | some raw =>
    by_cases hread : ∃ a, Reads raw a
    · obtain ⟨a, ha⟩ := hread
      exact ⟨raw, a, rfl, ha, fun hle => h (.atMostZero ha hle)⟩
    · exact absurd (.unreadable (not_exists.mp hread)) h

variable [DecidableLE α] {read : Text → Option α}

/-- The value that is taken from a variable. -/
def taken (read : Text → Option α) (value : Option Text) : Option α :=
  ((value.filter fun raw => !isBlankText raw).bind read).filter fun a => !decide (a ≤ 0)

theorem taken_of_overlooked (hread : ∀ raw a, read raw = some a ↔ Reads raw a)
    (h : Overlooked Reads value) : taken read value = none := by
  cases h with
  | unset => rfl
  | blank hraw => simp [taken, Option.filter, hraw]
  | @unreadable raw hraw =>
    have hnone : read raw = none :=
      Option.eq_none_iff_forall_ne_some.mpr fun a ha => hraw a ((hread raw a).mp ha)
    cases hblank : isBlankText raw <;> simp [taken, Option.filter, hblank, hnone]
  | @atMostZero raw a hraw ha =>
    cases hblank : isBlankText raw <;>
      simp [taken, Option.filter, hblank, (hread raw a).mpr hraw, ha]

theorem taken_of_reads (hread : read raw = some a) (hblank : isBlankText raw = false)
    (ha : ¬a ≤ 0) : taken read (some raw) = some a := by
  simp [taken, Option.filter, hblank, hread, ha]

end

variable {env : Environment} {raw : Text}

theorem readInteger_fst (env : Environment) (name : String) (default : Int) :
    (readInteger env name default).1 = (taken Integer.read? (env name)).getD default := by
  fun_cases readInteger env name default with
  | case1 hraw => simp [taken, hraw]
  | case2 raw hraw hblank => simp [taken, Option.filter, hraw, hblank]
  | case3 raw hraw hblank hread => simp [taken, Option.filter, hraw, hblank, hread]
  | case4 raw hraw hblank n hread hn => simp [taken, Option.filter, hraw, hblank, hread, hn]
  | case5 raw hraw hblank n hread hn =>
    simp [taken, Option.filter, hraw, hblank, hread, Int.not_le.mp hn]

theorem readTime_fst (env : Environment) (name : String) (default : Number) :
    (readTime env name default).1 = ((taken Decimal.read? (env name)).map .float).getD default := by
  fun_cases readTime env name default with
  | case1 hraw => simp [taken, hraw]
  | case2 raw hraw hblank => simp [taken, Option.filter, hraw, hblank]
  | case3 raw hraw hblank hread => simp [taken, Option.filter, hraw, hblank, hread]
  | case4 raw hraw hblank x hread hx => simp [taken, Option.filter, hraw, hblank, hread, hx]
  | case5 raw hraw hblank x hread hx => simp [taken, Option.filter, hraw, hblank, hread, hx]

/-- A text that denotes an integer holds a digit, so it is not blank. -/
theorem isBlankText_of_denotes {n : Int} (h : Integer.Denotes raw n) : isBlankText raw = false := by
  obtain ⟨-, -, hcs, -, -⟩ := h
  obtain ⟨c, rest, rfl, hdigit⟩ := hcs.exists_cons
  rw [Bool.eq_false_iff]
  intro hblank
  have hnone := (Decimal.of_isBlank (List.all_eq_true.mp hblank c (by simp))).1
  simp [isDecimalDigit, hnone] at hdigit

theorem isBlankText_of_read? {x : Float} (h : Decimal.read? raw = some x) :
    isBlankText raw = false := by
  cases hblank : isBlankText raw with
  | false => rfl
  | true =>
    rw [Decimal.read?_of_isBlankText hblank] at h
    cases h

/-! ### Fields -/

theorem integer_eq {v : String × (Settings → Int)} (hv : v ∈ integerVariables)
    (env : Environment) :
    v.2 (ofEnvironment env).1 = (taken Integer.read? (env v.1)).getD (v.2 {}) := by
  rw [← readInteger_fst]
  fin_cases hv <;> rfl

theorem time_eq {v : String × (Settings → Number)} (hv : v ∈ timeVariables) (env : Environment) :
    v.2 (ofEnvironment env).1 = ((taken Decimal.read? (env v.1)).map .float).getD (v.2 {}) := by
  rw [← readTime_fst]
  fin_cases hv <;> rfl

theorem one_le_default : ∀ v ∈ integerVariables, 1 ≤ v.2 {} := by decide

theorem isPositive_default : ∀ v ∈ timeVariables, (v.2 {}).isPositive = true := by decide +kernel

theorem nodup_variableNames : variableNames.Nodup := by decide

/-- An integer has the default where its variable is overlooked. -/
theorem integer_of_overlooked {v : String × (Settings → Int)} (hv : v ∈ integerVariables)
    (h : Overlooked Integer.Denotes (env v.1)) : v.2 (ofEnvironment env).1 = v.2 {} := by
  rw [integer_eq hv, taken_of_overlooked (fun _ _ => Integer.read?_eq_some_iff) h, Option.getD_none]

/-- An integer that is greater than zero is taken. -/
theorem integer_of_denotes {v : String × (Settings → Int)} (hv : v ∈ integerVariables) {n : Int}
    (hraw : env v.1 = some raw) (hn : Integer.Denotes raw n) (hpos : 0 < n) :
    v.2 (ofEnvironment env).1 = n := by
  have htaken := taken_of_reads (Integer.read?_eq_some_iff.mpr hn) (isBlankText_of_denotes hn)
    (Int.not_le.mpr hpos)
  rw [integer_eq hv, hraw, htaken, Option.getD_some]

theorem one_le_integer {v : String × (Settings → Int)} (hv : v ∈ integerVariables)
    (env : Environment) : 1 ≤ v.2 (ofEnvironment env).1 := by
  by_cases h : Overlooked Integer.Denotes (env v.1)
  · rw [integer_of_overlooked hv h]
    exact one_le_default v hv
  · obtain ⟨raw, n, hraw, hn, hpos⟩ := exists_of_not_overlooked h
    rw [integer_of_denotes hv hraw hn (Int.not_le.mp hpos)]
    exact Int.not_le.mp hpos

/-- A time has the default where its variable is overlooked. -/
theorem time_of_overlooked {v : String × (Settings → Number)} (hv : v ∈ timeVariables)
    (h : Overlooked (Decimal.read? · = some ·) (env v.1)) : v.2 (ofEnvironment env).1 = v.2 {} := by
  rw [time_eq hv, taken_of_overlooked (fun _ _ => Iff.rfl) h]
  rfl

/-- A time that is greater than zero, or not a number, is taken. -/
theorem time_of_read? {v : String × (Settings → Number)} (hv : v ∈ timeVariables) {x : Float}
    (hraw : env v.1 = some raw) (hx : Decimal.read? raw = some x) (hpos : 0 < x ∨ x = notANumber) :
    v.2 (ofEnvironment env).1 = .float x := by
  have htaken := taken_of_reads hx (isBlankText_of_read? hx) (not_le_zero_iff.mpr hpos)
  rw [time_eq hv, hraw, htaken]
  rfl

/-- A time is greater than zero except where its variable spells what is not a number. -/
theorem isPositive_time_iff {v : String × (Settings → Number)} (hv : v ∈ timeVariables)
    (env : Environment) :
    (v.2 (ofEnvironment env).1).isPositive = true ↔
      ∀ raw, env v.1 = some raw → ¬Decimal.SpellsNotANumber raw := by
  constructor
  · intro hpos raw hraw hspells
    rw [time_of_read? hv hraw (Decimal.read?_eq_notANumber_iff.mpr hspells) (.inr rfl)] at hpos
    exact not_lt_notANumber (of_decide_eq_true hpos)
  · intro hspells
    by_cases h : Overlooked (Decimal.read? · = some ·) (env v.1)
    · rw [time_of_overlooked hv h]
      exact isPositive_default v hv
    · obtain ⟨raw, x, hraw, hx, hle⟩ := exists_of_not_overlooked h
      have hcases := not_le_zero_iff.mp hle
      rw [time_of_read? hv hraw hx hcases]
      rcases hcases with hpos | rfl
      · exact decide_eq_true hpos
      · exact absurd (Decimal.read?_eq_notANumber_iff.mp hx) (hspells raw hraw)

/-- **Settings are usable.** Every environment gives settings. All integers are at least one, and a
time is greater than zero exactly if its variable does not spell what is not a number. A variable
that is overlooked leaves the default, and any other one gives what is read from it. Environments
that differ in one variable give settings that differ in its field at most. -/
theorem usable_settings (env : Environment) :
    let s := (ofEnvironment env).1
    (∀ v ∈ integerVariables,
      1 ≤ v.2 s ∧
      (Overlooked Integer.Denotes (env v.1) → v.2 s = v.2 {}) ∧
      ∀ raw n, env v.1 = some raw → Integer.Denotes raw n → 0 < n → v.2 s = n) ∧
    (∀ v ∈ timeVariables,
      ((v.2 s).isPositive = true ↔
        ∀ raw, env v.1 = some raw → ¬Decimal.SpellsNotANumber raw) ∧
      (Overlooked (Decimal.read? · = some ·) (env v.1) → v.2 s = v.2 {}) ∧
      ∀ raw x, env v.1 = some raw → Decimal.read? raw = some x → 0 < x ∨ x = notANumber →
        v.2 s = .float x) ∧
    variableNames.Nodup ∧ unread s = unread {} ∧
    ∀ (env' : Environment) (name : String), (∀ other, other ≠ name → env' other = env other) →
      let s' := (ofEnvironment env').1
      (∀ v ∈ integerVariables, v.1 ≠ name → v.2 s' = v.2 s) ∧
      (∀ v ∈ timeVariables, v.1 ≠ name → v.2 s' = v.2 s) ∧
      ("RECONLAB_API_KEY" ≠ name → s'.apiKey = s.apiKey) ∧ unread s' = unread s := by
  intro s
  refine ⟨fun v hv => ?_, fun v hv => ?_, nodup_variableNames, rfl, fun env' name hsame => ?_⟩
  · exact ⟨one_le_integer hv env, integer_of_overlooked hv, fun _ _ => integer_of_denotes hv⟩
  · exact ⟨isPositive_time_iff hv env, time_of_overlooked hv, fun _ _ => time_of_read? hv⟩
  · refine ⟨fun v hv hne => ?_, fun v hv hne => ?_, fun hne => ?_, rfl⟩
    · rw [integer_eq hv, hsame v.1 hne, integer_eq hv]
    · rw [time_eq hv, hsame v.1 hne, time_eq hv]
    · change readText env' "RECONLAB_API_KEY" = readText env "RECONLAB_API_KEY"
      rw [readText, hsame _ hne, readText]

/-- A time that is not a number is neither overlooked nor greater than zero. -/
theorem time_not_a_number :
    let env : Environment := fun name => if name = "RECONLAB_DNS_TIMEOUT" then some "nan" else none
    (ofEnvironment env).1.subdomainTimeout = .float notANumber ∧
      (ofEnvironment env).1.subdomainTimeout.isPositive = false ∧
      ({} : Settings).subdomainTimeout.isPositive = true :=
  ⟨rfl, rfl, rfl⟩

end NetSurvey.Settings
