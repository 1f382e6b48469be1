import NetSurvey.Number.Integer

/-!
# Which texts are integers

The texts of an integer, said as a grammar. A numeral has digits of any scripts, and between two of
them there may be one underscore (`Numeral`). An integer is a numeral of at most 4300 digits after a
sign or none, with padding around both (`Denotes`).

Main statement: `read?` finds the integer that a text denotes, and nothing where it denotes none
(`read?_eq_some_iff`). So a text denotes at most one integer.
-/

namespace NetSurvey.Integer

open Text

/-! ### The grammar -/

/-- Digits with at most one underscore between two of them, and the values of the digits. -/
inductive Numeral : Text → List Nat → Prop
  | last {c : CodePoint} {d : Nat} (hc : digitValue? c = some d) : Numeral [c] [d]
  | next {c : CodePoint} {d : Nat} {cs : Text} {ds : List Nat} (hc : digitValue? c = some d)
    (hcs : Numeral cs ds) : Numeral (c :: cs) (d :: ds)
  | separated {c : CodePoint} {d : Nat} {cs : Text} {ds : List Nat} (hc : digitValue? c = some d)
    (hcs : Numeral cs ds) : Numeral (c :: .char '_' :: cs) (d :: ds)

/-- A sign or none, and the unit that it stands for. -/
inductive Sign : Text → Int → Prop
  | none : Sign [] 1
  | plus : Sign [.char '+'] 1
  | minus : Sign [.char '-'] (-1)

/-- A text denotes an integer. -/
inductive Denotes : Text → Int → Prop
  | intro {front sign cs back : Text} {unit : Int} {ds : List Nat}
    (hfront : ∀ c ∈ front, isPadding c = true) (hsign : Sign sign unit) (hcs : Numeral cs ds)
    (hlength : ds.length ≤ digitLimit) (hback : ∀ c ∈ back, isPadding c = true) :
    Denotes (front ++ (sign ++ (cs ++ back))) (unit * ofDigits ds)

/-! ### Numerals -/

/-- A numeral begins with a digit. -/
theorem Numeral.exists_cons {cs : Text} {ds : List Nat} (h : Numeral cs ds) :
    ∃ c rest, cs = c :: rest ∧ isDecimalDigit c = true := by
  cases h with
  | last hc | next hc | separated hc => exact ⟨_, _, rfl, by simp [isDecimalDigit, hc]⟩

theorem not_isDecimalDigit_underscore : isDecimalDigit (.char '_') = false := by decide

/-- The digits of a text are found exactly if it is a numeral. -/
theorem digits?_eq_some_iff {cs : Text} {ds : List Nat} : digits? cs = some ds ↔ Numeral cs ds := by
  constructor
  · intro h
    fun_induction digits? cs generalizing ds with
    | case1 => cases h
    | case2 c =>
      obtain ⟨d, hd, rfl⟩ := Option.map_eq_some_iff.mp h
      exact .last hd
    | case3 c cs ih =>
      obtain ⟨d, hd, h⟩ := Option.bind_eq_some_iff.mp h
      obtain ⟨rest, hrest, h⟩ := Option.bind_eq_some_iff.mp h
      obtain rfl := Option.some.inj h
      exact .separated hd (ih hrest)
    | case4 c cs _ _ ih =>
      obtain ⟨d, hd, h⟩ := Option.bind_eq_some_iff.mp h
      obtain ⟨rest, hrest, h⟩ := Option.bind_eq_some_iff.mp h
      obtain rfl := Option.some.inj h
      exact .next hd (ih hrest)
  · intro h
    induction h with
    | last hc => simp [digits?, hc]
    | separated hc _ ih => simp [digits?, hc, ih]
    | next hc hcs ih =>
      -- What follows begins with a digit, which is no underscore.
      obtain ⟨c', rest, rfl, hdigit⟩ := hcs.exists_cons
      have hne : c' ≠ .char '_' := by
        rintro rfl
        rw [not_isDecimalDigit_underscore] at hdigit
        cases hdigit
      rw [digits?]
      · simp [hc, ih]
      · simp
      · rintro cs ⟨⟩
        exact hne rfl

/-- A numeral has digits and underscores only. -/
theorem Numeral.isNumeralChar {cs : Text} {ds : List Nat} (h : Numeral cs ds) :
    ∀ c ∈ cs, isNumeralChar c = true := by
  induction h with
  | last hc => simp [Integer.isNumeralChar, isDecimalDigit, hc]
  | next hc _ ih => simpa [Integer.isNumeralChar, isDecimalDigit, hc] using ih
  | separated hc _ ih => simpa [Integer.isNumeralChar, isDecimalDigit, hc] using ih

/-! ### Padding and signs -/

/-- The numbers of the code points that are padding. -/
def paddingNumbers : List Nat :=
  [9, 10, 11, 12, 13, 32, 0x85, 0xA0, 0x1680, 0x2000, 0x2001, 0x2002, 0x2003, 0x2004, 0x2005,
    0x2006, 0x2007, 0x2008, 0x2009, 0x200A, 0x2028, 0x2029, 0x202F, 0x205F, 0x3000]

theorem toNat_mem_of_isPadding {c : CodePoint} (h : isPadding c = true) :
    c.toNat ∈ paddingNumbers := by
  simp only [isPadding, isBlank, Bool.and_eq_true, Bool.or_eq_true, Bool.not_eq_true',
    Bool.and_eq_false_iff, decide_eq_true_eq, decide_eq_false_iff_not, beq_iff_eq] at h
  simp only [paddingNumbers, List.mem_cons, List.not_mem_nil, or_false]
  omega

/-- Padding is no part of a numeral. -/
theorem isNumeralChar_of_isPadding {c : CodePoint} (h : isPadding c = true) :
    isNumeralChar c = false := by
  have hdigit : ∀ n ∈ paddingNumbers, digitValue? (.ofNat n) = none := by decide
  have hunderscore : c ≠ .char '_' := by
    rintro rfl
    exact absurd h (by decide)
  have hnone : digitValue? c = none := by
    rw [← CodePoint.ofNat_toNat c]
    exact hdigit _ (toNat_mem_of_isPadding h)
  simp [isNumeralChar, isDecimalDigit, hnone, hunderscore]

/-- No character of a numeral is padding, so trimming stops at it. -/
theorem isPadding_of_isNumeralChar {c : CodePoint} (h : isNumeralChar c = true) :
    isPadding c = false := by
  cases hpadding : isPadding c with
  | false => rfl
  | true => exact absurd h (by simp [isNumeralChar_of_isPadding hpadding])

/-- A sign before a numeral is split off. -/
theorem splitSign_append {sign cs rest : Text} {unit : Int} {ds : List Nat} (hsign : Sign sign unit)
    (hcs : Numeral cs ds) :
    splitSign (sign ++ (cs ++ rest)) = (decide (unit < 0), cs ++ rest) := by
  cases hsign with
  | plus => rfl
  | minus => rfl
  | none =>
    obtain ⟨c, tail, rfl, hdigit⟩ := hcs.exists_cons
    -- A digit is neither sign.
    rw [List.nil_append, List.cons_append, splitSign]
    · rfl
    · rintro tail ⟨⟩
      exact absurd hdigit (by decide)
    · rintro tail ⟨⟩
      exact absurd hdigit (by decide)

/-- What is taken off the front is a sign, or nothing, which is a sign as well. -/
theorem exists_splitSign (t : Text) :
    ∃ sign unit, Sign sign unit ∧ t = sign ++ (splitSign t).2 ∧
      (splitSign t).1 = decide (unit < 0) := by
  fun_cases splitSign t with
  | case1 cs => exact ⟨_, _, .minus, rfl, rfl⟩
  | case2 cs => exact ⟨_, _, .plus, rfl, rfl⟩
  | case3 cs => exact ⟨_, _, .none, rfl, rfl⟩

/-- Neither a sign nor a digit is padding. -/
theorem head_not_isPadding {sign cs : Text} {unit : Int} {ds : List Nat}
    (hsign : Sign sign unit) (hcs : Numeral cs ds) (rest : Text) :
    ∃ c tail, sign ++ (cs ++ rest) = c :: tail ∧ isPadding c = false := by
  cases hsign with
  | plus | minus => exact ⟨_, _, rfl, by decide⟩
  | none =>
    obtain ⟨c, tail, rfl, hdigit⟩ := hcs.exists_cons
    exact ⟨c, tail ++ rest, rfl, isPadding_of_isNumeralChar (by simp [isNumeralChar, hdigit])⟩

/-! ### Reading -/

/-- What is read is denoted. -/
theorem denotes_of_read? {t : Text} {n : Int} (h : read? t = some n) : Denotes t n := by
  obtain ⟨sign, unit, hsign, hsplit, hneg⟩ := exists_splitSign (t.dropWhile isPadding)
  have hread : read t = .ok n := by
    rw [read?] at h
    cases hread : read t with
    | error e => rw [hread] at h; cases h
    | ok m => rw [hread] at h; exact congrArg _ (Option.some.inj h)
  simp only [read, hneg] at hread
  generalize (splitSign (t.dropWhile isPadding)).2 = cs at hread hsplit
  cases hdigits : digits? (cs.takeWhile isNumeralChar) with
  | none => simp [hdigits] at hread
  | some ds =>
    simp only [hdigits] at hread
    split at hread
    · cases hread
    next hlength =>
      split at hread
      · next hback =>
        obtain rfl := Except.ok.inj hread
        have ht : t = t.takeWhile isPadding ++
            (sign ++ (cs.takeWhile isNumeralChar ++ cs.dropWhile isNumeralChar)) := by
          rw [List.takeWhile_append_dropWhile, ← hsplit, List.takeWhile_append_dropWhile]
        have hunit : (if decide (unit < 0) = true then -(ofDigits ds : Int) else ofDigits ds) =
            unit * ofDigits ds := by
          cases hsign <;> simp
        rw [ht, hunit]
        refine .intro ?_ hsign (digits?_eq_some_iff.mp hdigits) (Nat.not_lt.mp hlength) ?_
        · exact fun c hc => List.all_eq_true.mp List.all_takeWhile c hc
        · exact List.all_eq_true.mp hback
      · cases hread

/-- What is denoted is read. -/
theorem read?_of_denotes {t : Text} {n : Int} (h : Denotes t n) : read? t = some n := by
  cases h with
  | @intro front sign cs back unit ds hfront hsign hcs hlength hback =>
    obtain ⟨c, tail, hhead, hpadding⟩ := head_not_isPadding hsign hcs back
    have hdrop : (front ++ (sign ++ (cs ++ back))).dropWhile isPadding = sign ++ (cs ++ back) := by
      rw [List.dropWhile_append_of_pos hfront, hhead,
        List.dropWhile_cons_of_neg (by simp [hpadding])]
    have hnone : ∀ c ∈ back, ¬isNumeralChar c = true := fun c hc => by
      simp [isNumeralChar_of_isPadding (hback c hc)]
    have hback' : back.takeWhile isNumeralChar = [] ∧ back.dropWhile isNumeralChar = back := by
      cases back with
      | nil => exact ⟨rfl, rfl⟩
      | cons b bs =>
        have hb := hnone b List.mem_cons_self
        exact ⟨List.takeWhile_cons_of_neg hb, List.dropWhile_cons_of_neg hb⟩
    have htake : (cs ++ back).takeWhile isNumeralChar = cs := by
      rw [List.takeWhile_append_of_pos hcs.isNumeralChar, hback'.1, List.append_nil]
    have hrest : (cs ++ back).dropWhile isNumeralChar = back := by
      rw [List.dropWhile_append_of_pos hcs.isNumeralChar, hback'.2]
    simp only [read?, read, hdrop, splitSign_append hsign hcs, htake, hrest,
      digits?_eq_some_iff.mpr hcs, Nat.not_lt.mpr hlength, if_false, List.all_eq_true.mpr hback,
      if_true]
    cases hsign <;> simp [Except.toOption]

/-- **Which texts are integers.** -/
theorem read?_eq_some_iff {t : Text} {n : Int} : read? t = some n ↔ Denotes t n :=
  ⟨denotes_of_read?, read?_of_denotes⟩

end NetSurvey.Integer
