import NetSurvey.Number.Basic
import NetSurvey.Proofs.Address.RoundTrip
import NetSurvey.Proofs.Number.Grammar

/-!
# The text of an integer is read back

The text of an integer is a numeral, after a hyphen if the integer is negative. A numeral is read
back as its number unless it has too many digits (`Integer.read?_numeral`).
-/

namespace NetSurvey

open Text

namespace Integer

variable {n : Nat} {c : CodePoint}

theorem digitValue?_digitChar : ∀ d < 10, digitValue? (.char d.digitChar) = some d := by
  decide

/-- What holds of the ten digits holds of every code point of a numeral. -/
theorem of_mem_numeral {p : CodePoint → Prop} (hp : ∀ d < 10, p (.char d.digitChar))
    (hc : c ∈ numeral 10 n) : p c := by
  obtain ⟨d, hd, rfl⟩ := exists_digit_of_mem_numeral (by decide) hc
  exact hp d hd

theorem isNumeralChar_of_mem (hc : c ∈ numeral 10 n) : isNumeralChar c = true :=
  of_mem_numeral (p := (isNumeralChar · = true)) (by decide) hc

theorem isBlank_of_mem (hc : c ∈ numeral 10 n) : isBlank c = false :=
  of_mem_numeral (p := (isBlank · = false)) (by decide) hc

theorem not_mem_numeral (n : Nat) {sep : Char} (hsep : ∀ d < 10, d.digitChar ≠ sep) :
    .char sep ∉ numeral 10 n := by
  intro hmem
  obtain ⟨d, hd, heq⟩ := exists_digit_of_mem_numeral (by decide) hmem
  exact hsep d hd (CodePoint.char.inj heq).symm

/-- Digits without underscores are a numeral. -/
theorem Numeral.of_mapM {t : Text} {ds : List Nat} (hne : t ≠ [])
    (h : t.mapM digitValue? = some ds) : Numeral t ds := by
  induction t generalizing ds with
  | nil => exact absurd rfl hne
  | cons c cs ih =>
    rw [List.mapM_cons] at h
    obtain ⟨d, hd, h⟩ := Option.bind_eq_some_iff.mp h
    obtain ⟨rest, hrest, h⟩ := Option.bind_eq_some_iff.mp h
    obtain rfl := Option.some.inj h
    cases cs with
    | nil =>
      obtain rfl := Option.some.inj hrest
      exact .last hd
    | cons c' cs => exact .next hd (ih (List.cons_ne_nil c' cs) hrest)

theorem splitSign_numeral (n : Nat) : splitSign (numeral 10 n) = (false, numeral 10 n) := by
  rw [splitSign]
  · intro cs hcs
    exact not_mem_numeral n (by decide) (hcs ▸ List.mem_cons_self : .char '-' ∈ numeral 10 n)
  · intro cs hcs
    exact not_mem_numeral n (by decide) (hcs ▸ List.mem_cons_self : .char '+' ∈ numeral 10 n)

/-- **A numeral is read back,** unless it is too long. -/
theorem read?_numeral (n : Nat) :
    read? (numeral 10 n) = if digitLimit < (numeral 10 n).length then none else some (n : Int) := by
  obtain ⟨c, cs, hcs⟩ := List.exists_cons_of_ne_nil (numeral_ne_nil 10 n)
  have hpadding : (numeral 10 n).dropWhile isPadding = numeral 10 n := by
    have hblank : isBlank c = false := isBlank_of_mem (n := n) (hcs ▸ List.mem_cons_self)
    rw [hcs, List.dropWhile_cons_of_neg]
    simp [isPadding, hblank]
  have htake : (numeral 10 n).takeWhile isNumeralChar = numeral 10 n :=
    List.takeWhile_eq_self_iff.mpr fun c => isNumeralChar_of_mem
  have hdrop : (numeral 10 n).dropWhile isNumeralChar = [] :=
    List.dropWhile_eq_nil_iff.mpr fun c => isNumeralChar_of_mem
  obtain ⟨ds, hds, hlength, hn⟩ := mapM_numeral (by decide) digitValue?_digitChar n
  have hdigits : digits? (numeral 10 n) = some ds :=
    digits?_eq_some_iff.mpr (.of_mapM (numeral_ne_nil 10 n) hds)
  simp only [read?, read, hpadding, splitSign_numeral, htake, hdigits, hdrop, hlength]
  split
  · rfl
  · simp only [List.all_nil, if_true, ofDigits, hn]
    rfl

end Integer

end NetSurvey
