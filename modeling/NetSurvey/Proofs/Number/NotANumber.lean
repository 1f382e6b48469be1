import Mathlib
import NetSurvey.Number.Basic
import NetSurvey.Proofs.Number.Grammar
import NetSurvey.Proofs.Text.Trim

/-!
# Which texts are not numbers

A double is at most zero, or greater than zero, or it is not a number (`not_le_zero_iff`): that the
first does not hold does not show the second. A text is read as what is not a number exactly if it
spells that word (`read?_eq_notANumber_iff`). No numeral does so, whatever its digits and its
exponent are: the double nearest to a quotient has a whole number below `2 ^ 53` and an exponent
within bounds, and where the quotient is beyond all doubles the result is infinite
(`nearest_ne_notANumber`). From a blank text nothing is read at all (`read?_of_isBlankText`).

What the library knows about the bits of a double (`Float.isNaN_eq_decide_eq_nan`,
`UnpackedFloat.pack_unpack`) is in Batteries, in a file that no single file of Mathlib imports. So
this module imports Mathlib as a whole.
-/

namespace NetSurvey

open Text Float.Model

namespace Binary

/-! ### Comparison with zero -/

/-- A double that is not at most zero is greater than zero, or not a number. -/
theorem not_le_zero_iff {x : Float} : ¬ x ≤ 0 ↔ 0 < x ∨ x = notANumber := by
  have hle : x ≤ 0 ↔ x.toModel.unpack.le (0 : Float).toModel.unpack = true := decide_eq_true_iff
  have hlt : 0 < x ↔ (0 : Float).toModel.unpack.lt x.toModel.unpack = true := decide_eq_true_iff
  have hnan : x = notANumber ↔ x.toModel.unpack.isNaN = true := by
    have hdecide : x.toModel.unpack.isNaN = decide (x = notANumber) :=
      Float.isNaN_eq_decide_eq_nan
    rw [hdecide, decide_eq_true_iff]
  have hzero : (0 : Float).toModel.unpack = .zero .positive := rfl
  rw [hle, hlt, hnan, hzero]
  cases x.toModel.unpack with
  | infinity sign => cases sign <;> decide
  | notANumber => decide
  | zero sign => cases sign <;> decide
  | finite sign m e hm =>
    cases sign <;> simp [UnpackedFloat.le, UnpackedFloat.lt, UnpackedFloat.compare]

/-- What is not a number is not greater than zero. -/
theorem not_lt_notANumber : ¬ 0 < notANumber := by decide +kernel

/-! ### Bits -/

/-- Bits whose field for the exponent is not full stand for a number or for an infinite value. -/
theorem ofBits_ne_notANumber {b : UInt64} (h : b.toNat / 2 ^ 52 % 2 ^ 11 ≠ 2047) :
    Float.ofBits b ≠ notANumber := by
  have hbits : ¬ @UnpackedFloat.isNaNBits Format.binary64 b.toBitVec = true := by
    intro hnan
    have hfield := (of_decide_eq_true hnan).1
    refine h ?_
    simpa [UnpackedFloat.unpackExponent, ← BitVec.toNat_inj, Nat.shiftRight_eq_div_pow] using hfield
  have hsame : (Float.ofBits b).toBits = b := by
    have hpack := @UnpackedFloat.pack_unpack Format.binary64 b.toBitVec (by decide)
    rw [if_neg hbits] at hpack
    exact congrArg UInt64.ofBitVec hpack
  intro heq
  rw [heq] at hsame
  exact h (hsame ▸ rfl)

theorem infinity_ne_notANumber (negative : Bool) : infinity negative ≠ notANumber := by
  intro heq
  have hbits := congrArg Float.toBits heq
  cases negative <;> exact absurd hbits (by decide +kernel)

theorem encode_ne_notANumber (negative : Bool) {m : Nat} {e : Int} (hm : m < 2 ^ 53)
    (he : e ≤ maxExponent) : encode negative m e ≠ notANumber := by
  refine ofBits_ne_notANumber ?_
  rw [UInt64.toNat_ofNat']
  simp only [maxExponent, Nat.pow_eq] at he ⊢
  have hfield : (e + 1075).toNat ≤ 2046 := by omega
  generalize (e + 1075).toNat = field at hfield
  split <;> split <;> omega

/-! ### Quotients -/

/-- A bound on a scaled quotient, as a bound on the quotient itself. -/
theorem scaled_lt_iff {num den k : Nat} {e : Int} :
    (scaled num den e).1 < (scaled num den e).2 * 2 ^ k ↔ (num : ℚ) < den * 2 ^ (e + k) := by
  unfold scaled
  split
  case isTrue h =>
    obtain ⟨n, rfl⟩ := Int.eq_ofNat_of_zero_le h
    simp only [Int.toNat_natCast, Nat.pow_eq]
    rw [← Nat.cast_add, zpow_natCast, pow_add, mul_assoc]
    exact_mod_cast Iff.rfl
  case isFalse h =>
    obtain ⟨n, rfl⟩ : ∃ n : Nat, e = -n := ⟨(-e).toNat, by omega⟩
    simp only [neg_neg, Int.toNat_natCast, Nat.pow_eq]
    have hcancel : (den : ℚ) * ((2 ^ n)⁻¹ * 2 ^ k) * 2 ^ n = den * 2 ^ k := by field_simp
    rw [zpow_add₀ two_ne_zero, zpow_neg, zpow_natCast, zpow_natCast,
      ← mul_lt_mul_iff_left₀ (show (0 : ℚ) < 2 ^ n by positivity), hcancel]
    exact_mod_cast Iff.rfl

theorem scaled_pos (num : Nat) {den : Nat} (hden : 0 < den) (e : Int) :
    0 < (scaled num den e).2 := by
  unfold scaled
  split
  · exact Nat.mul_pos hden (Nat.pow_pos two_pos)
  · exact hden

/-- The binary digits of a quotient are at most one more than those of its parts let expect. -/
theorem lt_mul_two_zpow (num : Nat) {den : Nat} (hden : 0 < den) :
    (num : ℚ) < den * 2 ^ ((num.log2 : Int) - den.log2 + 1) := by
  have hnum : (num : ℚ) < 2 ^ (num.log2 + 1) := by exact_mod_cast Nat.lt_log2_self
  have hle : (2 : ℚ) ^ den.log2 ≤ den := by exact_mod_cast Nat.log2_self_le (Nat.ne_of_gt hden)
  calc (num : ℚ) < 2 ^ (num.log2 + 1) := hnum
    _ = 2 ^ den.log2 * 2 ^ ((num.log2 : Int) - den.log2 + 1) := by
      rw [← zpow_natCast, ← zpow_natCast, ← zpow_add₀ two_ne_zero]
      congr 1
      push_cast
      ring
    _ ≤ den * 2 ^ ((num.log2 : Int) - den.log2 + 1) := by gcongr

/-- The exponent that is chosen is the expected one, or the one before it where the quotient has a
digit less than expected; or it is greater, being the least one. -/
theorem exponentOf_cases (num den : Nat) :
    let e : Int := (num.log2 : Int) - den.log2 - 52
    e ≤ exponentOf num den ∨
      (scaled num den e).1 / (scaled num den e).2 < 2 ^ 52 ∧ e - 1 ≤ exponentOf num den := by
  intro e
  have hmax : exponentOf num den = max minExponent
      (if (scaled num den e).1 / (scaled num den e).2 < 2 ^ 52 then e - 1 else e) := rfl
  rw [hmax]
  split
  case isTrue hlt => exact .inr ⟨hlt, le_max_right _ _⟩
  case isFalse => exact .inl (le_max_right _ _)

/-- At the exponent that is chosen for it, a quotient has at most 53 binary digits. -/
theorem lt_mul_of_exponentOf (num : Nat) {den : Nat} (hden : 0 < den) :
    (num : ℚ) < den * 2 ^ (exponentOf num den + (53 : Nat)) := by
  have hmono {d : Int} (hd : d ≤ exponentOf num den + (53 : Nat)) :
      (den : ℚ) * 2 ^ d ≤ den * 2 ^ (exponentOf num den + (53 : Nat)) :=
    mul_le_mul_of_nonneg_left (zpow_le_zpow_right₀ one_le_two hd) (Nat.cast_nonneg den)
  rcases exponentOf_cases num den with hle | ⟨hlt, hle⟩
  · exact (lt_mul_two_zpow num hden).trans_le (hmono (by omega))
  · rw [Nat.div_lt_iff_lt_mul (scaled_pos num hden _), Nat.mul_comm, scaled_lt_iff] at hlt
    exact hlt.trans_le (hmono (by omega))

theorem roundDiv_le (num den : Nat) : roundDiv num den ≤ num / den + 1 := by
  unfold roundDiv
  simp only
  split_ifs <;> omega

/-- **A quotient is near a number.** -/
theorem nearest_ne_notANumber (negative : Bool) (num : Nat) {den : Nat} (hden : 0 < den) :
    nearest negative num den ≠ notANumber := by
  have hround : roundDiv (scaled num den (exponentOf num den)).1
      (scaled num den (exponentOf num den)).2 ≤ 2 ^ 53 := by
    have hlt := scaled_lt_iff.mpr (lt_mul_of_exponentOf num hden)
    rw [Nat.mul_comm, ← Nat.div_lt_iff_lt_mul (scaled_pos num hden _)] at hlt
    exact (roundDiv_le _ _).trans hlt
  have hrange {m : Nat} {e : Int} (hm : m < 2 ^ 53) :
      (if maxExponent < e then none else some (encode negative m e)).getD (infinity negative) ≠
        notANumber := by
    split
    case isTrue => exact infinity_ne_notANumber negative
    case isFalse he => exact encode_ne_notANumber negative hm (not_lt.mp he)
  simp only [nearest, nearest?]
  split
  case isTrue => exact encode_ne_notANumber negative (by norm_num) (by decide)
  case isFalse =>
    -- Where the rounding carries, the number is halved and the exponent goes up.
    split
    case isTrue => exact hrange (show Nat.pow 2 52 < 2 ^ 53 by decide)
    case isFalse hcarry => exact hrange (lt_of_le_of_ne hround hcarry)

end Binary

namespace Decimal

open Binary

variable {c : CodePoint} {cs t : Text} {d : Nat}

/-! ### Words and numerals -/

theorem Numeral.toFloat_ne_notANumber (negative : Bool) (n : Numeral) :
    n.toFloat negative ≠ notANumber := by
  simp only [Numeral.toFloat]
  split
  · exact encode_ne_notANumber negative (by norm_num) (by decide)
  split
  · exact infinity_ne_notANumber negative
  split
  · exact nearest_ne_notANumber negative _ one_pos
  · exact nearest_ne_notANumber negative _ (Nat.pow_pos (by norm_num))

/-- Only the word for it, after a sign or none, is not a number. -/
theorem ofText?_eq_notANumber_iff :
    ofText? cs = some notANumber ↔ lowered (Integer.splitSign cs).2 = "nan" := by
  have hinf : ("nan" : Text) ≠ "inf" ∧ ("nan" : Text) ≠ "infinity" := by decide
  simp only [ofText?]
  generalize (Integer.splitSign cs).2 = word
  constructor
  · intro h
    split at h
    · exact absurd (Option.some.inj h) (infinity_ne_notANumber _)
    split at h
    · assumption
    · obtain ⟨n, -, hn⟩ := Option.map_eq_some_iff.mp h
      exact absurd hn (n.toFloat_ne_notANumber _)
  · intro h
    rw [h, if_neg (by simp [hinf]), if_pos rfl]

/-! ### Digits and underscores -/

theorem digitValue?_le (h : digitValue? c = some d) : d ≤ 9 := by
  simp only [digitValue?] at h
  split at h
  · split at h
    · obtain rfl := Option.some.inj h
      omega
    · cases h
  · obtain ⟨z, hz, rfl⟩ := Option.map_eq_some_iff.mp h
    have hrun := List.find?_some hz
    simp only [Bool.and_eq_true, decide_eq_true_eq] at hrun
    omega

/-- A digit of any script is written as an ASCII digit. -/
theorem isAsciiDigit_plainDigit (h : digitValue? c = some d) :
    isAsciiDigit (plainDigit c) = true := by
  have hplain : ∀ d ≤ 9, isAsciiDigit (.ofNat (48 + d)) = true := by decide
  rw [plainDigit, h]
  exact hplain d (digitValue?_le h)

/-- What holds no digits is not changed where digits are written plainly. -/
theorem map_plainDigit_eq_self (h : ∀ c ∈ t, digitValue? c = none) : t.map plainDigit = t := by
  refine (List.map_congr_left fun c hc => ?_).trans (List.map_id t)
  rw [plainDigit, h c hc, id]

/-- Where no digit is left when digits are written plainly, there was none. -/
theorem digitValue?_eq_none_of_map (h : ∀ c ∈ t.map plainDigit, isAsciiDigit c = false) :
    ∀ c ∈ t, digitValue? c = none := by
  intro c hc
  cases hvalue : digitValue? c with
  | none => rfl
  | some d =>
    have hdigit := h (plainDigit c) (List.mem_map_of_mem hc)
    rw [isAsciiDigit_plainDigit hvalue] at hdigit
    cases hdigit

/-- Underscores stand between digits. So where no digit is left, there was no underscore. -/
theorem eq_of_withoutUnderscores? (h : withoutUnderscores? t = some cs)
    (hcs : ∀ c ∈ cs, isAsciiDigit c = false) : t = cs := by
  fun_induction withoutUnderscores? t generalizing cs with
  | case1 => exact Option.some.inj h
  | case2 => cases h
  | case3 c d rest _ hdigits ih =>
    obtain ⟨cs, -, rfl⟩ := Option.map_eq_some_iff.mp h
    simp [hcs c List.mem_cons_self] at hdigits
  | case4 => cases h
  | case5 c rest _ _ ih =>
    obtain ⟨cs, hrest, rfl⟩ := Option.map_eq_some_iff.mp h
    rw [ih hrest fun c hc => hcs c (List.mem_cons_of_mem _ hc)]

theorem withoutUnderscores?_eq_self (h : .char '_' ∉ t) : withoutUnderscores? t = some t := by
  fun_induction withoutUnderscores? t with
  | case1 => rfl
  | case2 => simp at h
  | case3 => simp at h
  | case4 => simp at h
  | case5 c rest _ _ ih => simp [ih (List.not_mem_of_not_mem_cons h)]

/-! ### Texts -/

/-- A text spells what is not a number: the word for it in letters of any case, after a sign or
none, with padding around both. -/
inductive SpellsNotANumber : Text → Prop
  | intro {front sign word back : Text} {unit : Int} (hfront : ∀ c ∈ front, isPadding c = true)
    (hsign : Integer.Sign sign unit) (hword : lowered word = "nan")
    (hback : ∀ c ∈ back, isPadding c = true) :
    SpellsNotANumber (front ++ (sign ++ word ++ back))

theorem isAsciiLetter_of_lowerLetter (h : isAsciiLetter (lowerLetter c) = true) :
    isAsciiLetter c = true := by
  cases c with
  | half n => exact h
  | char c =>
    by_cases hupper : c.val ≥ 'A'.val ∧ c.val ≤ 'Z'.val
    · have hrange : 65 ≤ c.toNat ∧ c.toNat ≤ 90 := hupper
      simp [isAsciiLetter, hrange]
    · have hsame : c.toLower = c := dif_neg hupper
      rwa [lowerLetter, hsame] at h

/-- The word for what is not a number is made of letters. -/
theorem isAsciiLetter_of_lowered (h : lowered t = "nan") (hc : c ∈ t) : isAsciiLetter c = true := by
  have hletters : ∀ c ∈ ("nan" : Text), isAsciiLetter c = true := by decide
  refine isAsciiLetter_of_lowerLetter (hletters _ ?_)
  rw [← h]
  exact List.mem_map_of_mem hc

/-- A letter is no digit, no padding and no underscore. -/
theorem of_isAsciiLetter (h : isAsciiLetter c = true) :
    digitValue? c = none ∧ isPadding c = false ∧ c ≠ .char '_' := by
  have hrange : 97 ≤ c.toNat ∧ c.toNat ≤ 122 ∨ 65 ≤ c.toNat ∧ c.toNat ≤ 90 := by
    simpa only [isAsciiLetter, Bool.or_eq_true, Bool.and_eq_true, decide_eq_true_eq] using h
  refine ⟨?_, ?_, ?_⟩
  · rw [digitValue?, if_pos (by omega), if_neg (by omega)]
  · rw [Bool.eq_false_iff]
    intro hpadding
    have hmem := Integer.toNat_mem_of_isPadding hpadding
    simp only [Integer.paddingNumbers, List.mem_cons, List.not_mem_nil, or_false] at hmem
    omega
  · rintro rfl
    exact absurd h (by decide)

/-- Neither is anything in the word for what is not a number, or in a sign before it. -/
theorem of_mem_signed {sign word : Text} {unit : Int} (hsign : Integer.Sign sign unit)
    (hword : lowered word = "nan") (hc : c ∈ sign ++ word) :
    digitValue? c = none ∧ isPadding c = false ∧ c ≠ .char '_' := by
  rcases List.mem_append.mp hc with hc | hc
  · cases hsign with
    | none => cases hc
    | plus | minus =>
      rw [List.mem_singleton.mp hc]
      decide
  · exact of_isAsciiLetter (isAsciiLetter_of_lowered hword hc)

theorem isAsciiDigit_eq_false (h : digitValue? c = none) : isAsciiDigit c = false := by
  rw [Bool.eq_false_iff]
  intro hdigit
  simp only [isAsciiDigit, Bool.and_eq_true, decide_eq_true_eq] at hdigit
  rw [digitValue?, if_pos (by omega), if_pos hdigit] at h
  cases h

theorem splitSign_signed {sign word : Text} {unit : Int} (hsign : Integer.Sign sign unit)
    (hword : lowered word = "nan") : (Integer.splitSign (sign ++ word)).2 = word := by
  cases hsign with
  | plus | minus => rfl
  | none =>
    -- A letter is neither sign.
    rw [List.nil_append]
    fun_cases Integer.splitSign word with
    | case1 | case2 =>
      have hletter := isAsciiLetter_of_lowered hword List.mem_cons_self
      exact absurd hletter (by decide)
    | case3 => rfl

/-- **Which texts are not numbers.** -/
theorem read?_eq_notANumber_iff : read? t = some notANumber ↔ SpellsNotANumber t := by
  constructor
  · intro h
    obtain ⟨cs, hcs, hnan⟩ := Option.bind_eq_some_iff.mp h
    obtain ⟨sign, unit, hsign, hsplit, -⟩ := Integer.exists_splitSign cs
    have hword := ofText?_eq_notANumber_iff.mp hnan
    have hplain : ∀ c ∈ cs, isAsciiDigit c = false := by
      rw [hsplit]
      exact fun c hc => isAsciiDigit_eq_false (of_mem_signed hsign hword hc).1
    have hmap := eq_of_withoutUnderscores? hcs hplain
    rw [map_plainDigit_eq_self (digitValue?_eq_none_of_map (by rwa [hmap]))] at hmap
    obtain ⟨front, back, hfront, hback, ht⟩ := exists_trimBy isPadding t
    rw [ht, hmap, hsplit]
    exact .intro hfront hsign hword hback
  · rintro ⟨hfront, hsign, hword, hback⟩
    rename_i front sign word back unit
    have hplain := fun c hc => of_mem_signed (c := c) hsign hword hc
    have htrim : trimBy isPadding (front ++ (sign ++ word ++ back)) = sign ++ word :=
      trimBy_append hfront hback (fun c hc => (hplain c (List.mem_of_mem_head? hc)).2.1)
        fun c hc => (hplain c (List.mem_of_mem_getLast? hc)).2.1
    have hmap : (sign ++ word).map plainDigit = sign ++ word :=
      map_plainDigit_eq_self fun c hc => (hplain c hc).1
    rw [read?, htrim, hmap, withoutUnderscores?_eq_self fun hc => (hplain _ hc).2.2 rfl]
    exact ofText?_eq_notANumber_iff.mpr (by rw [splitSign_signed hsign hword, hword])

/-! ### Blank texts -/

/-- The numbers of the code points that are blank. -/
def blankNumbers : List Nat :=
  [28, 29, 30, 31] ++ Integer.paddingNumbers

/-- A blank is no part of a double. -/
theorem of_isBlank (h : isBlank c = true) :
    digitValue? c = none ∧ c ∉ ("_.+-" : Text) ∧ lowerLetter c ∉ ("in" : Text) := by
  have hall : ∀ n ∈ blankNumbers, digitValue? (.ofNat n) = none ∧
      .ofNat n ∉ ("_.+-" : Text) ∧ lowerLetter (.ofNat n) ∉ ("in" : Text) := by decide
  have hmem : c.toNat ∈ blankNumbers := by
    by_cases hseparator : 28 ≤ c.toNat ∧ c.toNat ≤ 31
    · refine List.mem_append_left _ ?_
      simp only [List.mem_cons, List.not_mem_nil, or_false]
      omega
    · refine List.mem_append_right _ (Integer.toNat_mem_of_isPadding ?_)
      rw [isPadding, h, Bool.true_and, Bool.not_eq_true', Bool.and_eq_false_iff]
      simp only [decide_eq_false_iff_not]
      omega
  rw [← CodePoint.ofNat_toNat c]
  exact hall _ hmem

theorem ofText?_of_isBlank (h : ∀ c ∈ cs, isBlank c = true) : ofText? cs = none := by
  cases cs with
  | nil => decide
  | cons c cs =>
    obtain ⟨hdigit, hmark, hletter⟩ := of_isBlank (h c List.mem_cons_self)
    have hsplit : Integer.splitSign (c :: cs) = (false, c :: cs) := by
      rw [Integer.splitSign]
      · rintro cs ⟨⟩
        exact hmark (by decide)
      · rintro cs ⟨⟩
        exact hmark (by decide)
    have hspan : spanDigits (c :: cs) = ([], c :: cs) := by
      simp [spanDigits, isAsciiDigit_eq_false hdigit]
    have hnumeral : numeral? (c :: cs) = none := by
      simp only [numeral?, hspan]
      split
      next heq =>
        obtain ⟨rfl, -⟩ := List.cons.inj heq
        exact absurd (by decide) hmark
      · rfl
    have hword (word : Text) (hword : ∃ c ∈ word.head?, c ∈ ("in" : Text)) :
        lowered (c :: cs) ≠ word := by
      rintro rfl
      obtain ⟨_, ⟨⟩, hc⟩ := hword
      exact hletter hc
    simp only [ofText?, hsplit, hnumeral]
    rw [if_neg, if_neg]
    · rfl
    · exact hword "nan" (by decide)
    · exact not_or.mpr ⟨hword "inf" (by decide), hword "infinity" (by decide)⟩

/-- Nothing is read from a blank text. -/
theorem read?_of_isBlankText (h : isBlankText t = true) : read? t = none := by
  have hblank : ∀ c ∈ trimBy isPadding t, isBlank c = true := fun c hc =>
    List.all_eq_true.mp h c (mem_of_mem_trimBy hc)
  have hmap : (trimBy isPadding t).map plainDigit = trimBy isPadding t :=
    map_plainDigit_eq_self fun c hc => (of_isBlank (hblank c hc)).1
  have hunderscore : .char '_' ∉ trimBy isPadding t := fun hc =>
    absurd (hblank _ hc) (by decide)
  rw [read?, hmap, withoutUnderscores?_eq_self hunderscore]
  exact ofText?_of_isBlank hblank

end Decimal

end NetSurvey
