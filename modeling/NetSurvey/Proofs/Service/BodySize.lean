import NetSurvey.Proofs.Datum.Size
import NetSurvey.Proofs.Scan.PortCap
import NetSurvey.Proofs.Service.History

/-!
# The candidates of a request can be counted

A request names the candidates of its survey in its body, word by word or port by port, leaves them
to the settings, or names a block of addresses. So unless the body has more than `2 ^ 1000` code
points, a double can count the candidates.
-/

namespace NetSurvey

open Text

/-- A text has one field more than separators. -/
theorem Text.length_fields_le (sep : CodePoint) (t : Text) :
    (fields sep t).length ≤ t.length + 1 := by
  induction t with
  | nil => simp
  | cons c cs ih =>
    simp only [fields, List.length_cons]
    split
    · simpa using ih
    · split
      · simp
      · next hfields =>
        rw [hfields] at ih
        simp only [List.length_cons] at ih ⊢
        omega

namespace PortSpec

/-- A token names a range of ports within those that there are, or nothing. -/
theorem count_read_le (cs : Text) : (Token.read cs).count ≤ 65535 := by
  cases hread : Token.read cs with
  | range first last =>
    have hbounds := bounds_of_read hread
    simp only [Token.count, maxPort] at hbounds ⊢
    omega
  | _ => exact Nat.zero_le _

theorem length_expandTokens_le {limit : Option Int} {taken : Nat} {specs : List Text}
    {ports : List Int} (h : expandTokens limit taken (specs.map Token.read) = .ok ports) :
    ports.length ≤ 65535 * specs.length := by
  induction specs generalizing taken ports with
  | nil =>
    obtain rfl := Except.ok.inj h
    exact Nat.le_refl _
  | cons spec specs ih =>
    rw [List.map_cons, expandTokens] at h
    split at h
    · cases h
    · split at h
      · next more hmore =>
        obtain rfl := Except.ok.inj h
        have hle := ih hmore
        have hcount := count_read_le spec
        simp only [List.length_append, Token.length_ports, List.length_cons]
        omega
      · cases h

/-- No token names more ports than there are. -/
theorem length_expand_le {spec : Text} {limit : Option Int} {ports : List Int}
    (h : expand spec limit = .ok ports) : ports.length ≤ 65535 * (spec.length + 1) :=
  (length_expandTokens_le h).trans (Nat.mul_le_mul_left _ (length_fields_le _ spec))

end PortSpec

namespace Service

open Schedule Scan

/-! ### Bodies -/

/-- The data of a body hold no more than its bytes, or its code points where it is taken as a
text. -/
theorem weight_of_readBody {r : Request} {bytes : List UInt8} {body : Datum}
    (h : readBody r bytes = .ok body) : body.weight ≤ max bytes.length r.body.length + 1 := by
  rw [readBody] at h
  split at h
  · obtain rfl := Except.ok.inj h
    simp [Datum.weight]
  split at h
  · rw [readJson] at h
    split at h
    · cases h
    · next t hread =>
      have hlength := Encoding.length_of_read? hread
      split at h
      · next d hjson =>
        obtain rfl := Except.ok.inj h
        have hweight := Json.weight_of_read hjson
        omega
      · cases h
      · cases h
  · obtain rfl := Except.ok.inj h
    simp only [Datum.weight]
    omega

/-- A code point of a body takes at most four bytes. -/
theorem length_of_send {r : Request} {path : Text} {bytes : List UInt8}
    (h : r.send = .ok (path, bytes)) : bytes.length ≤ 4 * r.body.length := by
  have hbytes : bytes = (encodeUtf8? r.body).getD [] := by
    obtain ⟨_, -, h⟩ := bind_eq_ok_iff.mp h
    split at h
    · cases h
    · obtain ⟨_, -, h⟩ := bind_eq_ok_iff.mp h
      obtain ⟨_, -, h⟩ := bind_eq_ok_iff.mp h
      exact (Prod.mk.inj (Except.ok.inj h)).2.symm
  rw [hbytes]
  cases hencode : encodeUtf8? r.body with
  | none => exact Nat.zero_le _
  | some found => exact length_encodeUtf8?_le hencode

/-! ### Tasks -/

/-- How many ports or words a task names itself. -/
def Task.named : Task → Nat
  | .ports _ _ spec => spec.elim 0 List.length
  | .directories _ _ words | .subdomains _ _ words => words.elim 0 List.length
  | _ => 0

theorem Form.length_of_stringItems {key : String} {index : Nat} {items : List Datum}
    {words : List Text} (h : stringItems key index items = .ok words) :
    words.length = items.length := by
  induction items generalizing index words with
  | nil =>
    obtain rfl := Except.ok.inj h
    rfl
  | cons d items ih =>
    obtain ⟨⟨word, more⟩, hboth, rfl⟩ := map_eq_ok_iff.mp h
    rw [List.length_cons, List.length_cons, ih (Form.of_both_eq_ok hboth).2]

/-- A list of words that is given has no more words than the fields hold. -/
theorem Form.length_of_optionalStrings {fields : Fields} {key : String} {words : List Text}
    (h : optionalStrings fields key = .ok (some words)) :
    words.length ≤ Datum.weightOfFields fields := by
  rw [optionalStrings] at h
  split at h
  · cases h
  · next items hget =>
    obtain ⟨words, hitems, hsome⟩ := map_eq_ok_iff.mp h
    obtain rfl := Option.some.inj hsome
    have hweight := Datum.weight_le_of_get? hget
    have hlength := Datum.length_le_weightOfItems items
    rw [Datum.weight] at hweight
    rw [length_of_stringItems hitems]
    omega
  · cases h
  · cases h

theorem Form.length_of_optional {fields : Fields} {key : String} {t : Text}
    (h : optional fields key string = .ok (some t)) : t.length ≤ Datum.weightOfFields fields := by
  rw [optional] at h
  split at h
  · cases h
  · next d hnull hget =>
    obtain ⟨t, ht, hsome⟩ := map_eq_ok_iff.mp h
    obtain rfl := Option.some.inj hsome
    have hweight := Datum.weight_le_of_get? hget
    cases d with
    | text s =>
      obtain rfl : s = t := Except.ok.inj ht
      rw [Datum.weight] at hweight
      omega
    | _ => cases ht
  · cases h

/-- A task names no more than the body holds that it is read from. -/
theorem named_le_of_readTask {kind : TaskKind} {body : Datum} {task : Task}
    (h : readTask kind body = .ok task) : task.named ≤ body.weight := by
  cases body with
  | record fields =>
    have hform : kind.form fields = .ok task := h
    rw [Datum.weight]
    cases kind with
    | subnet | sweep | resolve | ping =>
      obtain ⟨_, -, rfl⟩ := map_eq_ok_iff.mp hform
      exact Nat.zero_le _
    | ports =>
      obtain ⟨⟨options, host, spec⟩, hboth, rfl⟩ := map_eq_ok_iff.mp hform
      cases spec with
      | none => exact Nat.zero_le _
      | some spec =>
        have hspec := (Form.of_both_eq_ok (Form.of_both_eq_ok hboth).2).2
        exact (Form.length_of_optional hspec).trans (Nat.le_succ _)
    | directories =>
      obtain ⟨⟨options, base, words⟩, hboth, rfl⟩ := map_eq_ok_iff.mp hform
      cases words with
      | none => exact Nat.zero_le _
      | some words =>
        have hwords := (Form.of_both_eq_ok (Form.of_both_eq_ok hboth).2).2
        exact (Form.length_of_optionalStrings hwords).trans (Nat.le_succ _)
    | subdomains =>
      obtain ⟨⟨options, domain, words⟩, hboth, rfl⟩ := map_eq_ok_iff.mp hform
      cases words with
      | none => exact Nat.zero_le _
      | some words =>
        have hwords := (Form.of_both_eq_ok (Form.of_both_eq_ok hboth).2).2
        exact (Form.length_of_optionalStrings hwords).trans (Nat.le_succ _)
  | _ => cases h

/-- What a request names is bounded by the length of its body. -/
theorem named_le_of_wants {r : Request} {task : Task} (h : r.Wants task) :
    task.named ≤ 4 * r.body.length + 1 := by
  obtain ⟨path, bytes, kind, body, hsend, -, hbody, htask⟩ := h
  have hnamed := named_le_of_readTask htask
  have hweight := weight_of_readBody hbody
  have hlength := length_of_send hsend
  omega

/-! ### Candidates -/

/-- Settings whose lists are not too long. -/
def HasShortLists (s : Settings) : Prop :=
  s.defaultPorts.length ≤ 65535 ∧ s.directoryWords.length ≤ 65535 ∧
    s.subdomainWords.length ≤ 65535

/-- The lists of the settings are short in every environment, since none of them is read from it. -/
theorem hasShortLists_ofEnvironment (env : Environment) :
    HasShortLists (Settings.ofEnvironment env).1 := by
  -- The environment replaces none of the lists.
  change HasShortLists {}
  simp [HasShortLists]

theorem length_words_le {default : List Text} (h : default.length ≤ 65535)
    (words : Option (List Text)) :
    (words.getD default).length ≤ 65535 * ((words.elim 0 List.length) + 1) := by
  cases words with
  | none => exact h
  | some words =>
    simp only [Option.getD_some, Option.elim_some]
    omega

/-- The candidates of a survey that is not of a block: what the task names, each of which may stand
for as many candidates as there are ports, or what the settings have. -/
theorem length_candidates_le {task : Task} {s : Settings} {scanner : Scanner} {survey : Survey}
    (hs : HasShortLists s) (h : task.survey? s = some (scanner, survey)) {cs : List Datum}
    (hcs : survey.candidates scanner.settings = .ok cs) :
    cs.length.log2 < 1023 ∨ cs.length ≤ 65535 * (task.named + 1) := by
  cases task with
  | resolve | ping => cases h
  | subnet options cidr =>
    obtain ⟨rfl, rfl⟩ := Option.some.inj h
    exact .inl (isCountable_subnet _ _ cs hcs)
  | sweep options cidr =>
    obtain ⟨rfl, rfl⟩ := Option.some.inj h
    exact .inl (isCountable_subnet (.text cidr) _ cs hcs)
  | ports options host spec =>
    obtain ⟨rfl, rfl⟩ := Option.some.inj h
    obtain ⟨ports, hports, rfl⟩ := map_eq_ok_iff.mp hcs
    have hfound := (Survey.of_checked_eq_ok hports).1
    rw [List.length_map]
    cases spec with
    | none =>
      obtain rfl := Except.ok.inj hfound
      exact .inr hs.1
    | some spec =>
      rw [portChoice, value, result_writtenPorts] at hfound
      exact .inr (PortSpec.length_expand_le (mapError_eq_ok_iff.mp hfound))
  | directories options base words =>
    obtain ⟨rfl, rfl⟩ := Option.some.inj h
    obtain ⟨paths, hpaths, rfl⟩ := map_eq_ok_iff.mp hcs
    obtain rfl := Except.ok.inj (Survey.of_checked_eq_ok hpaths).1
    rw [List.length_map]
    exact .inr (length_words_le hs.2.1 words)
  | subdomains options domain words =>
    obtain ⟨rfl, rfl⟩ := Option.some.inj h
    obtain ⟨found, hfound, rfl⟩ := map_eq_ok_iff.mp hcs
    obtain rfl := Except.ok.inj (Survey.of_checked_eq_ok hfound).1
    rw [List.length_map]
    exact .inr (length_words_le hs.2.2 words)

/-- A port for each code point, four bytes each, is below a bound that is `2 ^ 23` times as high. -/
theorem log2_lt_of_le {m n k : Nat} (hm : m.log2 < k) (h : n ≤ 65535 * (4 * m + 2)) :
    n.log2 < k + 23 := by
  have hlt : m < 2 ^ k := by
    by_cases hzero : m = 0
    · rw [hzero]
      exact Nat.two_pow_pos k
    · exact (Nat.log2_lt hzero).mp hm
  by_cases hzero : n = 0
  · rw [hzero, Nat.log2_zero]
    omega
  · rw [Nat.log2_lt hzero, Nat.pow_add]
    omega

/-- **The candidates of a request can be counted.** -/
theorem isCountable_of_wants {r : Request} {task : Task} {env : Environment} {scanner : Scanner}
    {survey : Survey} (hsize : r.body.length.log2 < 1000) (hwants : r.Wants task)
    (h : task.survey? (Settings.ofEnvironment env).1 = some (scanner, survey)) :
    survey.IsCountable scanner.settings := by
  intro cs hcs
  rcases length_candidates_le (hasShortLists_ofEnvironment env) h hcs with hlog | hle
  · exact hlog
  have hnamed := named_le_of_wants hwants
  exact log2_lt_of_le hsize (by omega)

end Service

end NetSurvey
