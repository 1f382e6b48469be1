import NetSurvey.Text.Basic

/-!
# Patterns of texts

A pattern is put to the front of a text and takes off some of it. There may be several ways to do
so, since a repetition may end early or late; a text matches if there is one. `Leads` says what each
pattern can leave over. A pattern may ask where it is: at the front of the whole text, or at its
end. One line feed may be left over at the end.

A repetition of a class takes off any beginning of the text that lies in the class and is of an
admitted length (`leads_times_one_iff`). The other patterns are opened by their definition.
-/

namespace NetSurvey.Text

/-- A class of characters, by the first and the last character of each of its ranges. -/
abbrev CharClass := List (Char × Char)

/-- A code point belongs to one of the ranges of a class. -/
def CharClass.Has (ranges : CharClass) (c : CodePoint) : Prop :=
  ∃ r ∈ ranges, r.1.toNat ≤ c.toNat ∧ c.toNat ≤ r.2.toNat

/-- What a text may look like from its front on. -/
inductive Pattern where
  /-- The front of the whole text. -/
  | front
  /-- The end of the text, or the place before a line feed that ends it. -/
  | back
  /-- One code point of a class. -/
  | one (ranges : CharClass)
  | seq (first second : Pattern)
  /-- The pattern as often as `least` says, or more often, up to `most` times if that is given. -/
  | times (p : Pattern) (least : Nat) (most : Option Nat)

namespace Pattern

/-- `n` steps of a relation. -/
def Iterated (R : Text → Text → Prop) : Nat → Text → Text → Prop
  | 0, s, r => s = r
  | n + 1, s, r => ∃ m, R s m ∧ Iterated R n m r

/-- At `s`, which is what is left of the whole text, a pattern can leave `r` over. -/
def Leads (whole : Text) : Pattern → Text → Text → Prop
  | front, s, r => s = whole ∧ r = s
  | back, s, r => (s = [] ∨ s = [.char '\n']) ∧ r = s
  | one ranges, s, r => ∃ c, ranges.Has c ∧ s = c :: r
  | seq first second, s, r => ∃ m, Leads whole first s m ∧ Leads whole second m r
  | times p least most, s, r =>
    ∃ n, least ≤ n ∧ (∀ m ∈ most, n ≤ m) ∧ Iterated (Leads whole p) n s r

/-- A text begins in the way that a pattern describes. -/
def Matches (p : Pattern) (t : Text) : Prop :=
  ∃ r, p.Leads t t r

/-- A pattern that has to go from the front of a text to its end. -/
def fromEndToEnd (p : Pattern) : Pattern :=
  seq front (seq p back)

variable {p : Pattern} {whole s r : Text} {ranges : CharClass} {n : Nat}

theorem matches_fromEndToEnd_iff :
    (fromEndToEnd p).Matches s ↔ ∃ r, p.Leads s s r ∧ (r = [] ∨ r = [.char '\n']) := by
  constructor
  · rintro ⟨r, m, ⟨-, rfl⟩, m', hp, hend, rfl⟩
    exact ⟨_, hp, hend⟩
  · rintro ⟨r, hp, hend⟩
    exact ⟨r, s, ⟨rfl, rfl⟩, r, hp, hend, rfl⟩

/-! ### Repeated classes -/

theorem iterated_one_iff :
    Iterated (Leads whole (one ranges)) n s r ↔
      ∃ u, s = u ++ r ∧ u.length = n ∧ ∀ c ∈ u, ranges.Has c := by
  induction n generalizing s with
  | zero =>
    constructor
    · rintro rfl
      exact ⟨[], rfl, rfl, nofun⟩
    · rintro ⟨u, rfl, hlen, -⟩
      rw [List.eq_nil_of_length_eq_zero hlen]
      rfl
  | succ n ih =>
    constructor
    · rintro ⟨m, ⟨c, hc, rfl⟩, hrest⟩
      obtain ⟨u, rfl, hlen, hall⟩ := ih.mp hrest
      exact ⟨c :: u, rfl, by rw [List.length_cons, hlen], List.forall_mem_cons.mpr ⟨hc, hall⟩⟩
    · rintro ⟨u, rfl, hlen, hall⟩
      obtain ⟨c, u, rfl⟩ := List.exists_cons_of_length_eq_add_one hlen
      rw [List.forall_mem_cons] at hall
      exact ⟨u ++ r, ⟨c, hall.1, rfl⟩, ih.mpr ⟨u, rfl, by simpa using hlen, hall.2⟩⟩

/-- **A repeated class.** It takes off a beginning that lies in the class. -/
theorem leads_times_one_iff {least : Nat} {most : Option Nat} :
    Leads whole (times (one ranges) least most) s r ↔
      ∃ u, s = u ++ r ∧ least ≤ u.length ∧ (∀ m ∈ most, u.length ≤ m) ∧
        ∀ c ∈ u, ranges.Has c := by
  constructor
  · rintro ⟨n, hleast, hmost, hn⟩
    obtain ⟨u, rfl, rfl, hall⟩ := iterated_one_iff.mp hn
    exact ⟨u, rfl, hleast, hmost, hall⟩
  · rintro ⟨u, rfl, hleast, hmost, hall⟩
    exact ⟨u.length, hleast, hmost, iterated_one_iff.mpr ⟨u, rfl, rfl, hall⟩⟩

/-! ### What a pattern takes off -/

/-- The classes of a pattern are parts of another class. -/
def Within (ranges : CharClass) : Pattern → Prop
  | front => True
  | back => True
  | one own => own ⊆ ranges
  | seq first second => Within ranges first ∧ Within ranges second
  | times p _ _ => Within ranges p

/-- Each step takes off some code points of a class, so several steps do. -/
theorem exists_append_of_iterated {R : Text → Text → Prop}
    (hR : ∀ s r, R s r → ∃ u, s = u ++ r ∧ ∀ c ∈ u, ranges.Has c) (h : Iterated R n s r) :
    ∃ u, s = u ++ r ∧ ∀ c ∈ u, ranges.Has c := by
  induction n generalizing s with
  | zero => exact ⟨[], h, nofun⟩
  | succ n ih =>
    obtain ⟨m, hstep, hrest⟩ := h
    obtain ⟨u, rfl, hu⟩ := hR s m hstep
    obtain ⟨v, rfl, hv⟩ := ih hrest
    exact ⟨u ++ v, (List.append_assoc ..).symm, List.forall_mem_append.mpr ⟨hu, hv⟩⟩

/-- A pattern takes off code points of its classes and no others. -/
theorem exists_append_of_leads (hp : p.Within ranges) (h : p.Leads whole s r) :
    ∃ u, s = u ++ r ∧ ∀ c ∈ u, ranges.Has c := by
  induction p generalizing s r with
  | front => exact ⟨[], h.2.symm, nofun⟩
  | back => exact ⟨[], h.2.symm, nofun⟩
  | one own =>
    obtain ⟨c, ⟨range, hrange, hle⟩, rfl⟩ := h
    refine ⟨[c], rfl, fun d hd => ?_⟩
    rw [List.mem_singleton.mp hd]
    exact ⟨range, hp hrange, hle⟩
  | seq first second ihf ihs =>
    obtain ⟨m, hfirst, hsecond⟩ := h
    obtain ⟨u, rfl, hu⟩ := ihf hp.1 hfirst
    obtain ⟨v, rfl, hv⟩ := ihs hp.2 hsecond
    exact ⟨u ++ v, (List.append_assoc ..).symm, List.forall_mem_append.mpr ⟨hu, hv⟩⟩
  | times p _ _ ih =>
    obtain ⟨n, -, -, hn⟩ := h
    exact exists_append_of_iterated (fun s r => ih hp) hn

end Pattern

end NetSurvey.Text
