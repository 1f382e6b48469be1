import Mathlib.Data.List.Sort
import Mathlib.Data.List.TakeWhile
import Mathlib.Order.Bounds.Basic
import NetSurvey.Proofs.Number.Grammar
import NetSurvey.Proofs.Scan.PortCap

/-!
# What a port specification names

`NamesPorts` says which ports a token of a specification names, by the grammar of integers: one
port, a range that is clipped to the ports that exist, or nothing. A specification names the ports
of its tokens one after the other, whatever the tokens are. With a limit it names the same ports, or
it is refused at the first token that leads beyond the limit.
-/

namespace NetSurvey

open Text

namespace PortSpec

/-! ### Tokens -/

/-- A token is a range from one integer to another, with a single hyphen between them. -/
def IsRange (token : Text) (a b : Int) : Prop :=
  ∃ first last : Text, trim token = first ++ .char '-' :: last ∧ .char '-' ∉ first ∧
    .char '-' ∉ last ∧ Integer.Denotes (trim first) a ∧ Integer.Denotes (trim last) b

/-- The ports that a token names. -/
inductive NamesPorts (token : Text) : List Int → Prop
  | port {p : Int} (hp : Integer.Denotes (trim token) p) (hexists : 1 ≤ p ∧ p ≤ 65535) :
    NamesPorts token [p]
  | outOfRange {p : Int} (hp : Integer.Denotes (trim token) p) (hnone : ¬(1 ≤ p ∧ p ≤ 65535)) :
    NamesPorts token []
  | range {a b : Int} {ports : List Int} (hrange : IsRange token a b)
    (hascending : ports.Pairwise (· < ·))
    (hmem : ∀ n, n ∈ ports ↔ max a 1 ≤ n ∧ n ≤ min b 65535) : NamesPorts token ports
  | skipped (hport : ∀ p, ¬Integer.Denotes (trim token) p) (hrange : ∀ a b, ¬IsRange token a b) :
    NamesPorts token []

theorem pairwise_ports_range (first last : Int) :
    (Token.range first last).ports.Pairwise (· < ·) := by
  rw [Token.ports, List.pairwise_map]
  exact List.pairwise_lt_range.imp fun h => by omega

theorem mem_ports_range {first last n : Int} :
    n ∈ (Token.range first last).ports ↔ first ≤ n ∧ n ≤ last := by
  simp only [Token.ports, List.mem_map, List.mem_range]
  constructor
  · rintro ⟨i, hi, rfl⟩
    omega
  · intro h
    exact ⟨(n - first).toNat, by omega, by omega⟩

theorem ports_range_self (p : Int) : (Token.range p p).ports = [p] := by
  simp [Token.ports]

/-- Nothing but padding is trimmed to nothing. -/
theorem trim_eq_nil {t : Text} (h : ∀ c ∈ t, isPadding c = true) : trim t = [] := by
  have hdrop : t.dropWhile isBlank = [] :=
    List.dropWhile_eq_nil_iff.mpr fun c hc => isBlank_of_isPadding (h c hc)
  rw [trim, trimBy, hdrop]
  rfl

theorem not_mem_of_isPadding {t : Text} (h : ∀ c ∈ t, isPadding c = true) : .char '-' ∉ t :=
  fun hmem => absurd (h _ hmem) (by decide)

/-- An integer with a hyphen in it is negative, and nothing but padding stands before the hyphen. -/
theorem of_denotes_of_mem {t : Text} {p : Int} (h : Integer.Denotes t p) (hmem : .char '-' ∈ t) :
    p ≤ 0 ∧ ∃ front rest, fields '-' t = [front, rest] ∧ trim front = [] := by
  cases h with
  | @intro front sign cs back unit ds hfront hsign hcs hlength hback =>
    have hnumeral : .char '-' ∉ cs := fun hmem => absurd (hcs.isNumeralChar _ hmem) (by decide)
    have hrest : .char '-' ∉ cs ++ back := by
      simp [hnumeral, not_mem_of_isPadding hback]
    cases hsign with
    | none => simp [not_mem_of_isPadding hfront, hnumeral, not_mem_of_isPadding hback] at hmem
    | plus => simp [not_mem_of_isPadding hfront, hnumeral, not_mem_of_isPadding hback] at hmem
    | minus =>
      refine ⟨by omega, front, cs ++ back, ?_, trim_eq_nil hfront⟩
      rw [List.singleton_append, fields_append_sep, fields_of_not_mem (not_mem_of_isPadding hfront),
        fields_of_not_mem hrest]
      rfl

theorem ports_read_of_denotes {token : Text} {p : Int} (h : Integer.Denotes (trim token) p) :
    (Token.read token).ports = if 1 ≤ p ∧ p ≤ 65535 then [p] else [] := by
  have hread := Integer.read?_eq_some_iff.mpr h
  have hempty : (trim token).isEmpty = false := by
    rw [List.isEmpty_eq_false_iff]
    intro hnil
    rw [hnil] at hread
    cases hread
  by_cases hmem : .char '-' ∈ trim token
  · -- The sign is taken for the hyphen of a range, whose first end is missing.
    obtain ⟨hp, front, rest, hfields, hfront⟩ := of_denotes_of_mem h hmem
    have hnone : bound? front = none := by rw [bound?, hfront]; rfl
    have hcontains : (trim token).contains (.char '-') = true := by simpa using hmem
    rw [if_neg (by omega)]
    simp only [Token.read, hempty, Bool.false_eq_true, if_false, hcontains, if_true, hfields, hnone]
    rfl
  · have hcontains : (trim token).contains (.char '-') = false := by simpa using hmem
    simp only [Token.read, hempty, Bool.false_eq_true, if_false, hcontains, hread]
    by_cases hport : 1 ≤ p ∧ p ≤ 65535
    · have hrange : 0 < p ∧ p ≤ maxPort := hport
      rw [if_pos hport, if_pos hrange, ports_range_self]
    · have hrange : ¬(0 < p ∧ p ≤ maxPort) := hport
      rw [if_neg hport, if_neg hrange]
      rfl

theorem read_of_isRange {token : Text} {a b : Int} (h : IsRange token a b) :
    Token.read token = .range (max a 1) (min b maxPort) := by
  obtain ⟨first, last, hcut, hfirst, hlast, ha, hb⟩ := h
  have hfields : fields '-' (trim token) = [first, last] := by
    rw [hcut, fields_append_sep, fields_of_not_mem hfirst, fields_of_not_mem hlast]
    rfl
  have hempty : (trim token).isEmpty = false := by simp [hcut]
  have hcontains : (trim token).contains (.char '-') = true := by simp [hcut]
  simp only [Token.read, hempty, Bool.false_eq_true, if_false, hcontains, if_true, hfields, bound?,
    Integer.read?_eq_some_iff.mpr ha, Integer.read?_eq_some_iff.mpr hb]

/-- What is neither an integer nor a range names nothing. -/
theorem ports_read_of_skipped {token : Text} (hport : ∀ p, ¬Integer.Denotes (trim token) p)
    (hrange : ∀ a b, ¬IsRange token a b) : (Token.read token).ports = [] := by
  fun_cases Token.read token with
  | case2 part hempty hcontains first last hfields a b hb ha =>
    have hcut : part = first ++ .char '-' :: last := by
      rw [← joined_fields (.char '-') part, hfields]
      simp [joined]
    have hfirst : .char '-' ∉ first :=
      not_mem_of_mem_fields (hfields ▸ List.mem_cons_self)
    have hlast : .char '-' ∉ last :=
      not_mem_of_mem_fields (hfields ▸ List.mem_cons_of_mem _ List.mem_cons_self)
    have hends : Integer.Denotes (trim first) a ∧ Integer.Denotes (trim last) b :=
      ⟨Integer.read?_eq_some_iff.mp ha, Integer.read?_eq_some_iff.mp hb⟩
    exact absurd ⟨first, last, hcut, hfirst, hlast, hends⟩ (hrange a b)
  | case5 part hempty hcontains p hread hexists =>
    exact absurd (Integer.read?_eq_some_iff.mp hread) (hport p)
  | case1 | case3 | case4 | case6 | case7 => rfl

/-- Every token names the ports that it is read as, and no others. -/
theorem names_iff {token : Text} {ports : List Int} :
    NamesPorts token ports ↔ ports = (Token.read token).ports := by
  constructor
  · rintro (⟨hp, hexists⟩ | ⟨hp, hnone⟩ | ⟨hrange, hascending, hmem⟩ | ⟨hport, hrange⟩)
    · rw [ports_read_of_denotes hp, if_pos hexists]
    · rw [ports_read_of_denotes hp, if_neg hnone]
    · -- An ascending list is determined by its members.
      rw [read_of_isRange hrange]
      refine hascending.eq_of_mem_iff (pairwise_ports_range _ _) fun n => ?_
      rw [hmem, mem_ports_range]
      rfl
    · exact (ports_read_of_skipped hport hrange).symm
  · rintro rfl
    by_cases hport : ∃ p, Integer.Denotes (trim token) p
    · obtain ⟨p, hp⟩ := hport
      rw [ports_read_of_denotes hp]
      split
      · next hexists => exact .port hp hexists
      · next hnone => exact .outOfRange hp hnone
    by_cases hrange : ∃ a b, IsRange token a b
    · obtain ⟨a, b, hab⟩ := hrange
      rw [read_of_isRange hab]
      exact .range hab (pairwise_ports_range _ _) fun n => mem_ports_range
    have hport' := not_exists.mp hport
    have hrange' : ∀ a b, ¬IsRange token a b := fun a b hab => hrange ⟨a, b, hab⟩
    rw [ports_read_of_skipped hport' hrange']
    exact .skipped hport' hrange'

/-! ### Specifications -/

/-- Without a limit the ports of the tokens stand one after the other. -/
theorem expandTokens_none (taken : Nat) (ts : List Token) :
    expandTokens none taken ts = .ok (ts.flatMap Token.ports) := by
  induction ts generalizing taken with
  | nil => rfl
  | cons t ts ih => simp [expandTokens, exceeds, ih]

/-- Within the limit it is as without. -/
theorem expandTokens_of_le {m taken : Nat} {ts : List Token}
    (h : taken + (ts.flatMap Token.ports).length ≤ m) :
    expandTokens (some m) taken ts = .ok (ts.flatMap Token.ports) := by
  induction ts generalizing taken with
  | nil => rfl
  | cons t ts ih =>
    rw [List.flatMap_cons, List.length_append, Token.length_ports, ← Nat.add_assoc] at h
    have hfits : exceeds (some m) (taken + t.count) = false := by
      simp only [exceeds, decide_eq_false_iff_not]
      omega
    simp [expandTokens, hfits, ih h]

/-- Beyond the limit, the first token that leads there is refused: after `k` tokens there are too
many ports, and before there were not. -/
theorem expandTokens_of_lt {m taken : Nat} {ts : List Token} (htaken : taken ≤ m)
    (h : m < taken + (ts.flatMap Token.ports).length) :
    ∃ k, IsLeast {k | m < taken + ((ts.take k).flatMap Token.ports).length} k ∧
      expandTokens (some m) taken ts =
        .error ⟨(taken + ((ts.take k).flatMap Token.ports).length : Nat), m, .specifiedPorts⟩ := by
  induction ts generalizing taken with
  | nil => exact absurd h (by simpa using htaken)
  | cons t ts ih =>
    have hshift : ∀ j, taken + (((t :: ts).take (j + 1)).flatMap Token.ports).length =
        taken + t.count + ((ts.take j).flatMap Token.ports).length := fun j => by
      rw [List.take_succ_cons, List.flatMap_cons, List.length_append, Token.length_ports,
        Nat.add_assoc]
    -- No ports are listed before the first token, and so far they are within the limit.
    have hzero : ∀ {j}, m < taken + (((t :: ts).take j).flatMap Token.ports).length →
        ∃ i, j = i + 1 := fun {j} hj => by
      cases j with
      | zero => exact absurd hj (by simpa using htaken)
      | succ i => exact ⟨i, rfl⟩
    by_cases hover : m < taken + t.count
    · have hexceeds : exceeds (some m) (taken + t.count) = true := by
        simp only [exceeds, decide_eq_true_eq]
        omega
      have hcount : 0 < t.count := by omega
      refine ⟨1, ⟨?_, ?_⟩, ?_⟩
      · simpa using hover
      · intro j hj
        obtain ⟨i, rfl⟩ := hzero hj
        exact Nat.le_add_left 1 i
      · simp [expandTokens, hexceeds, hcount]
    · have hfits : exceeds (some m) (taken + t.count) = false := by
        simp only [exceeds, decide_eq_false_iff_not]
        omega
      have hrest : m < taken + t.count + (ts.flatMap Token.ports).length := by
        simpa [Nat.add_assoc] using h
      obtain ⟨k, ⟨hk, hleast⟩, hexpand⟩ := ih (Nat.not_lt.mp hover) hrest
      refine ⟨k + 1, ⟨?_, ?_⟩, ?_⟩
      · exact hk.trans_eq (hshift k).symm
      · intro j hj
        obtain ⟨i, rfl⟩ := hzero hj
        exact Nat.succ_le_succ (hleast (hj.trans_eq (hshift i)))
      · simp only [expandTokens, hfits, Bool.and_false, Bool.false_eq_true, if_false, hexpand,
          hshift]

end PortSpec

namespace Scan

open PortSpec

theorem value_specifiedPorts (spec : Text) (limit : Option Int) :
    (specifiedPorts (.text spec) limit).value = (expand spec limit).mapError .exhaustion := by
  cases spec <;> rfl

/-- **What a port specification names.** Every token names its ports: a port, a range clipped to the
ports that exist, or nothing. Without a limit, a specification names the ports of its tokens one
after the other, and never fails; so two specifications with a comma between them name the ports of
the one and then those of the other. With a limit it names the same ports if they are within it, and
otherwise the refusal counts the ports up to the first token that leads beyond the limit. -/
theorem specified_ports_eq_named :
    ∃ named : Text → List Int, (∀ token ports, NamesPorts token ports ↔ ports = named token) ∧
      ∀ spec : Text,
        let tokens := fields (.char ',') spec
        (specifiedPorts (.text spec) none).value = .ok (tokens.flatMap named) ∧
        (∀ more : Text, (specifiedPorts (.text (spec ++ .char ',' :: more)) none).value = (do
          let first ← (specifiedPorts (.text spec) none).value
          let second ← (specifiedPorts (.text more) none).value
          return first ++ second)) ∧
        ∀ m : Nat,
          ((tokens.flatMap named).length ≤ m →
            (specifiedPorts (.text spec) (some m)).value = .ok (tokens.flatMap named)) ∧
          (m < (tokens.flatMap named).length →
            ∃ k, IsLeast {k | m < ((tokens.take k).flatMap named).length} k ∧
              (specifiedPorts (.text spec) (some m)).value = .error (.exhaustion
                ⟨((tokens.take k).flatMap named).length, m, .specifiedPorts⟩)) := by
  have hnone : ∀ spec : Text, (specifiedPorts (.text spec) none).value =
      .ok ((fields (.char ',') spec).flatMap fun token => (Token.read token).ports) := by
    intro spec
    rw [value_specifiedPorts, expand, expandTokens_none, tokens, List.flatMap_map]
    rfl
  refine ⟨fun token => (Token.read token).ports, fun token ports => names_iff, fun spec => ?_⟩
  intro tokens
  refine ⟨hnone spec, fun more => ?_, fun m => ⟨fun h => ?_, fun h => ?_⟩⟩
  · rw [hnone, hnone, hnone, fields_append_sep, List.flatMap_append]
    rfl
  · have hle : 0 + ((tokens.map Token.read).flatMap Token.ports).length ≤ m := by
      rwa [Nat.zero_add, List.flatMap_map]
    rw [value_specifiedPorts, expand, PortSpec.tokens, expandTokens_of_le hle, List.flatMap_map]
    rfl
  · have hlt : m < 0 + ((tokens.map Token.read).flatMap Token.ports).length := by
      rwa [Nat.zero_add, List.flatMap_map]
    obtain ⟨k, hk, hexpand⟩ := expandTokens_of_lt (Nat.zero_le m) hlt
    simp only [← List.map_take, List.flatMap_map, Nat.zero_add] at hk hexpand
    refine ⟨k, hk, ?_⟩
    rw [value_specifiedPorts, expand, PortSpec.tokens, hexpand]
    rfl

end Scan

end NetSurvey
