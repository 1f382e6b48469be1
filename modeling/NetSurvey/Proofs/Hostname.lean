import Mathlib.Data.List.Basic
import Mathlib.Data.List.TakeWhile
import NetSurvey.Hostname
import NetSurvey.Proofs.Text.Pattern

/-!
# Which texts are names

The three patterns that names are checked with are written out here, and each text that is accepted
is one that a pattern matches. The patterns overlap in many ways: a point belongs to the alphabet
that a repetition may take off before the point that is looked for. The forms of host and domain
names (`IsHostName`, `IsDomainName`) say without patterns which texts are meant.

The end of a pattern leaves room for one line feed, so the texts that are accepted are the names,
each with and without a line feed after it (`Closes`). The line feed is not of the alphabet.
-/

namespace NetSurvey.Hostname

open Text

variable {s : Text} {c : CodePoint}

/-! ### Classes and patterns -/

/-- ASCII letters. -/
def letters : CharClass := [('a', 'z'), ('A', 'Z')]

/-- ASCII letters and digits, the point and the hyphen. -/
def alphabet : CharClass := [('a', 'z'), ('A', 'Z'), ('0', '9'), ('.', '.'), ('-', '-')]

def digits : CharClass := [('0', '9')]

def point : CharClass := [('.', '.')]

/-- Four numbers of one to three digits, with points between them. -/
def quadPattern : Pattern :=
  .fromEndToEnd (.seq (.times (.seq (.times (.one digits) 1 (some 3)) (.one point)) 3 (some 3))
    (.times (.one digits) 1 (some 3)))

/-- One or more characters of the alphabet. -/
def hostPattern : Pattern :=
  .fromEndToEnd (.times (.one alphabet) 1 none)

/-- One or more characters of the alphabet, a point, and two or more letters. -/
def domainPattern : Pattern :=
  .fromEndToEnd (.seq (.times (.one alphabet) 1 none)
    (.seq (.one point) (.times (.one letters) 2 none)))

/-- A range of one character. -/
theorem eq_char_iff {a : Char} : a.toNat ≤ c.toNat ∧ c.toNat ≤ a.toNat ↔ c = .char a := by
  constructor
  · intro hle
    exact CodePoint.toNat_injective (Nat.le_antisymm hle.2 hle.1)
  · rintro rfl
    exact ⟨Nat.le_refl _, Nat.le_refl _⟩

theorem has_letters_iff : letters.Has c ↔ isAsciiLetter c = true := by
  simp [CharClass.Has, letters, isAsciiLetter]

theorem has_point_iff : point.Has c ↔ c = .char '.' := by
  simp only [CharClass.Has, point, List.mem_singleton, exists_eq_left, eq_char_iff]

theorem has_alphabet_iff : alphabet.Has c ↔ isNameChar c = true := by
  simp [CharClass.Has, alphabet, isNameChar, isAsciiLetter, isAsciiDigit, ← eq_char_iff, or_assoc]

/-- The classes of the other patterns are parts of the alphabet. -/
theorem has_alphabet_of_has {ranges : CharClass} (hsub : ranges ⊆ alphabet) (h : ranges.Has c) :
    alphabet.Has c := by
  obtain ⟨r, hr, hle⟩ := h
  exact ⟨r, hsub hr, hle⟩

/-! ### The forms of names -/

/-- Some characters of the alphabet. -/
def IsHostName (s : Text) : Prop :=
  s ≠ [] ∧ ∀ c ∈ s, alphabet.Has c

/-- Some characters of the alphabet, a point, and at least two letters. -/
def IsDomainName (s : Text) : Prop :=
  ∃ u t, s = u ++ .char '.' :: t ∧ IsHostName u ∧ 2 ≤ t.length ∧ ∀ c ∈ t, letters.Has c

/-- A text is another one, or that one and a line feed. -/
def Closes (body s : Text) : Prop :=
  s = body ∨ s = body ++ [.char '\n']

theorem IsDomainName.isHostName (h : IsDomainName s) : IsHostName s := by
  obtain ⟨u, t, rfl, hu, -, ht⟩ := h
  refine ⟨by simp, fun c hc => ?_⟩
  rcases List.mem_append.mp hc with hc | hc
  · exact hu.2 c hc
  · rcases List.mem_cons.mp hc with rfl | hc
    · exact has_alphabet_of_has (by decide) (has_point_iff.mpr rfl)
    · exact has_alphabet_of_has (by decide) (ht c hc)

/-- A line feed is not of the alphabet. -/
theorem IsHostName.getLast?_ne (h : IsHostName s) : s.getLast? ≠ some (.char '\n') := by
  intro hlast
  have hhas := has_alphabet_iff.mp (h.2 _ (List.mem_of_mem_getLast? hlast))
  revert hhas
  decide

/-- The text that a text closes is the one without its final line feed. -/
theorem exists_closes_iff {P : Text → Prop} (hP : ∀ body, P body → IsHostName body) :
    (∃ body, P body ∧ Closes body s) ↔ P (withoutFinalNewline s) := by
  constructor
  · rintro ⟨body, hbody, rfl | rfl⟩
    · rwa [withoutFinalNewline, if_neg (hP _ hbody).getLast?_ne]
    · rwa [withoutFinalNewline, if_pos List.getLast?_concat, List.dropLast_concat]
  · intro h
    refine ⟨_, h, ?_⟩
    unfold withoutFinalNewline
    split
    case isTrue hlast => exact .inr (List.dropLast_append_getLast? _ hlast).symm
    case isFalse => exact .inl rfl

/-! ### What is accepted -/

theorem isName_iff : isName s = true ↔ IsHostName (withoutFinalNewline s) := by
  simp [isName, IsHostName, has_alphabet_iff]

theorem isDomainText_iff : isDomainText s = true ↔ IsDomainName (withoutFinalNewline s) := by
  unfold isDomainText
  generalize withoutFinalNewline s = body
  constructor
  · intro h
    simp only at h
    split at h
    case h_1 front hdrop =>
      simp only [Bool.and_eq_true, decide_eq_true_eq] at h
      obtain ⟨⟨htwo, hfront⟩, hall⟩ := h
      refine ⟨front.reverse, (body.reverse.takeWhile isAsciiLetter).reverse, ?_, ⟨?_, ?_⟩, ?_, ?_⟩
      · have hbody : body = (body.reverse.takeWhile isAsciiLetter ++
            body.reverse.dropWhile isAsciiLetter).reverse := by
          rw [List.takeWhile_append_dropWhile, List.reverse_reverse]
        rwa [hdrop, List.reverse_append, List.reverse_cons, List.append_assoc] at hbody
      · simpa using hfront
      · simpa [has_alphabet_iff] using hall
      · simpa using htwo
      · intro c hc
        exact has_letters_iff.mpr (List.mem_takeWhile_imp (List.mem_reverse.mp hc))
    case h_2 => cases h
  · rintro ⟨u, t, rfl, hu, ht, hletters⟩
    have hpos : ∀ c ∈ t.reverse, isAsciiLetter c = true := fun c hc =>
      has_letters_iff.mp (hletters c (List.mem_reverse.mp hc))
    have hback : (u ++ .char '.' :: t).reverse = t.reverse ++ .char '.' :: u.reverse := by simp
    have hpoint : ¬isAsciiLetter (.char '.') = true := by decide
    have hdrop :
        (u ++ .char '.' :: t).reverse.dropWhile isAsciiLetter = .char '.' :: u.reverse := by
      rw [hback, List.dropWhile_append_of_pos hpos, List.dropWhile_cons_of_neg hpoint]
    have htake : (u ++ .char '.' :: t).reverse.takeWhile isAsciiLetter = t.reverse := by
      rw [hback, List.takeWhile_append_of_pos hpos, List.takeWhile_cons_of_neg hpoint,
        List.append_nil]
    simp only [hdrop, htake]
    simpa [ht, IsHostName, has_alphabet_iff] using hu

/-! ### What the patterns match -/

theorem closes_iff {body : Text} :
    Closes body s ↔ ∃ r, s = body ++ r ∧ (r = [] ∨ r = [.char '\n']) := by
  constructor
  · rintro (rfl | rfl)
    · exact ⟨[], (List.append_nil _).symm, .inl rfl⟩
    · exact ⟨_, rfl, .inr rfl⟩
  · rintro ⟨r, rfl, rfl | rfl⟩
    · exact .inl (List.append_nil _)
    · exact .inr rfl

theorem matches_hostPattern_iff :
    hostPattern.Matches s ↔ ∃ body, IsHostName body ∧ Closes body s := by
  simp only [hostPattern, Pattern.matches_fromEndToEnd_iff, Pattern.leads_times_one_iff, closes_iff]
  constructor
  · rintro ⟨r, ⟨body, hs, hpos, -, hall⟩, hend⟩
    exact ⟨body, ⟨List.ne_nil_of_length_pos hpos, hall⟩, r, hs, hend⟩
  · rintro ⟨body, ⟨hne, hall⟩, r, hs, hend⟩
    exact ⟨r, ⟨body, hs, List.length_pos_of_ne_nil hne, nofun, hall⟩, hend⟩

theorem matches_domainPattern_iff :
    domainPattern.Matches s ↔ ∃ body, IsDomainName body ∧ Closes body s := by
  simp only [domainPattern, Pattern.matches_fromEndToEnd_iff, closes_iff]
  constructor
  · rintro ⟨r, ⟨m, hname, m', hpoint, hletters⟩, hend⟩
    obtain ⟨u, rfl, hpos, -, hu⟩ := Pattern.leads_times_one_iff.mp hname
    obtain ⟨c, hc, rfl⟩ := hpoint
    obtain ⟨t, rfl, htwo, -, ht⟩ := Pattern.leads_times_one_iff.mp hletters
    rw [has_point_iff.mp hc]
    exact ⟨_, ⟨u, t, rfl, ⟨List.ne_nil_of_length_pos hpos, hu⟩, htwo, ht⟩, r, by simp, hend⟩
  · rintro ⟨body, ⟨u, t, rfl, ⟨hne, hu⟩, htwo, ht⟩, r, rfl, hend⟩
    refine ⟨r, ⟨.char '.' :: t ++ r, ?_, t ++ r, ⟨_, has_point_iff.mpr rfl, rfl⟩, ?_⟩, hend⟩
    · refine Pattern.leads_times_one_iff.mpr ⟨u, ?_, List.length_pos_of_ne_nil hne, nofun, hu⟩
      rw [List.append_assoc]
    · exact Pattern.leads_times_one_iff.mpr ⟨t, rfl, htwo, nofun, ht⟩

/-- Four numbers with points between them are of the alphabet. -/
theorem matches_hostPattern_of_quadPattern (h : quadPattern.Matches s) : hostPattern.Matches s := by
  obtain ⟨r, ⟨m, hquad, hlast⟩, hend⟩ := Pattern.matches_fromEndToEnd_iff.mp h
  have hdigits : digits ⊆ alphabet := by decide
  have hpoint : point ⊆ alphabet := by decide
  have hwithin : Pattern.Within alphabet
      (.times (.seq (.times (.one digits) 1 (some 3)) (.one point)) 3 (some 3)) :=
    ⟨hdigits, hpoint⟩
  obtain ⟨u, rfl, hu⟩ := Pattern.exists_append_of_leads hwithin hquad
  obtain ⟨v, rfl, hpos, -, hv⟩ := Pattern.leads_times_one_iff.mp hlast
  refine matches_hostPattern_iff.mpr ⟨u ++ v, ⟨?_, ?_⟩, closes_iff.mpr ⟨r, by simp, hend⟩⟩
  · exact List.append_ne_nil_of_right_ne_nil u (List.ne_nil_of_length_pos hpos)
  · exact List.forall_mem_append.mpr ⟨hu, fun c hc => has_alphabet_of_has hdigits (hv c hc)⟩

/-! ### Domains and targets -/

theorem isDomainText_iff_closes :
    isDomainText s = true ↔ ∃ body, IsDomainName body ∧ Closes body s :=
  isDomainText_iff.trans (exists_closes_iff fun _ => IsDomainName.isHostName).symm

theorem isTargetText_iff_closes :
    isTargetText s = true ↔
      (∃ body, IsHostName body ∧ Closes body s) ∨ isAddress (.text s) = true := by
  rw [isTargetText, Bool.or_eq_true, isName_iff, ← exists_closes_iff fun _ => id]
  rfl

/-- What closes a name is of the alphabet, but for a line feed at the end. -/
theorem has_alphabet_of_closes {body before after : Text} (hbody : IsHostName body)
    (h : Closes body (before ++ c :: after)) :
    alphabet.Has c ∨ (c = .char '\n' ∧ after = []) := by
  rcases h with h | h
  · exact .inl (hbody.2 c (h ▸ by simp))
  · rcases List.eq_nil_or_concat after with rfl | ⟨after, d, rfl⟩
    · have hlast := (List.append_inj' h rfl).2
      exact .inr ⟨List.head_eq_of_cons_eq hlast, rfl⟩
    · rw [List.concat_eq_append, ← List.cons_append, ← List.append_assoc] at h
      have hfront := (List.append_inj' h rfl).1
      exact .inl (hbody.2 c (hfront ▸ by simp))

theorem exists_closes_iff_or {P : Text → Prop} :
    (∃ body, P body ∧ Closes body s) ↔ P s ∨ ∃ body, P body ∧ s = body ++ [.char '\n'] := by
  constructor
  · rintro ⟨body, hbody, rfl | hs⟩
    · exact .inl hbody
    · exact .inr ⟨body, hbody, hs⟩
  · rintro (hs | ⟨body, hbody, hs⟩)
    · exact ⟨s, hs, .inl rfl⟩
    · exact ⟨body, hbody, .inr hs⟩

/-- No name is another one with a line feed after it. -/
theorem IsHostName.not_concat (h : IsHostName s) (body : Text) : s ≠ body ++ [.char '\n'] := by
  rintro rfl
  exact h.getLast?_ne List.getLast?_concat

/-- **The alphabet of names.** A domain is accepted exactly if the pattern of domains matches it,
and these are the domain names, each with and without a line feed after it. A target is accepted
exactly if one of two patterns matches it or it is an address, and the former are the host names,
again with and without a line feed. So what is accepted and is no address has no character but those
of the alphabet, with the exception of one line feed at its end, and a name with such a line feed
makes the one difference between what is accepted and the forms of names. -/
theorem accepted_names (s : Text) :
    (∃ b, isDomain (.text s) = .ok b ∧ (b = true ↔ domainPattern.Matches s) ∧
      (b = true ↔ ∃ body, IsDomainName body ∧ Closes body s) ∧
      ((b = true ↔ IsDomainName s) ↔
        ¬ ∃ body, IsDomainName body ∧ s = body ++ [.char '\n'])) ∧
    (∃ b, isTarget (.text s) = .ok b ∧
      (b = true ↔
        quadPattern.Matches s ∨ hostPattern.Matches s ∨ isAddress (.text s) = true) ∧
      (b = true ↔ (∃ body, IsHostName body ∧ Closes body s) ∨ isAddress (.text s) = true) ∧
      ((b = true ↔ IsHostName s ∨ isAddress (.text s) = true) ↔
        ¬ ((∃ body, IsHostName body ∧ s = body ++ [.char '\n']) ∧
          isAddress (.text s) = false))) ∧
    (∀ before c after, s = before ++ c :: after →
      isDomain (.text s) = .ok true ∨
        (isTarget (.text s) = .ok true ∧ isAddress (.text s) = false) →
      alphabet.Has c ∨ (c = .char '\n' ∧ after = [])) := by
  refine ⟨⟨_, rfl, ?_, isDomainText_iff_closes, ?_⟩, ⟨_, rfl, ?_, isTargetText_iff_closes, ?_⟩, ?_⟩
  · rw [isDomainText_iff_closes, matches_domainPattern_iff]
  · rw [isDomainText_iff_closes, exists_closes_iff_or]
    constructor
    · rintro h ⟨body, hbody, hs⟩
      exact (h.mp (.inr ⟨body, hbody, hs⟩)).isHostName.not_concat body hs
    · intro h
      exact or_iff_left h
  · rw [isTargetText_iff_closes, ← matches_hostPattern_iff, ← or_assoc,
      or_iff_right_of_imp matches_hostPattern_of_quadPattern]
  · rw [isTargetText_iff_closes, exists_closes_iff_or]
    constructor
    · rintro h ⟨⟨body, hbody, hs⟩, hno⟩
      rcases h.mp (.inl (.inr ⟨body, hbody, hs⟩)) with hname | haddress
      · exact hname.not_concat body hs
      · simp [hno] at haddress
    · intro h
      rw [not_and, Bool.not_eq_false] at h
      constructor
      · rintro ((hname | hfeed) | haddress)
        · exact .inl hname
        · exact .inr (h hfeed)
        · exact .inr haddress
      · exact Or.imp_left .inl
  · rintro before c after rfl (hdomain | ⟨htarget, hno⟩)
    · obtain ⟨body, hbody, hclose⟩ := isDomainText_iff_closes.mp (Except.ok.inj hdomain)
      exact has_alphabet_of_closes hbody.isHostName hclose
    · rcases isTargetText_iff_closes.mp (Except.ok.inj htarget) with
        ⟨body, hbody, hclose⟩ | haddress
      · exact has_alphabet_of_closes hbody hclose
      · simp [hno] at haddress

/-- A line feed after a name is accepted, and is no part of a name. -/
theorem accepted_with_line_feed :
    isDomain (.text "example.com\n") = .ok true ∧ ¬ IsDomainName "example.com\n" ∧
      isTarget (.text "example.com\n") = .ok true ∧ ¬ IsHostName "example.com\n" ∧
      isAddress (.text "example.com\n") = false := by
  have hnot : ¬ IsHostName "example.com\n" := fun h => h.getLast?_ne (by decide)
  exact ⟨rfl, fun h => hnot h.isHostName, by decide, hnot, by decide⟩

end NetSurvey.Hostname
