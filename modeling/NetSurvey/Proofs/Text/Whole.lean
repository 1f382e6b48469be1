import NetSurvey.Number.Integer
import NetSurvey.Text.Quoted

/-!
# Quoted texts are whole

A text that is given may have halves of surrogate pairs, and then it has no bytes. Between quotation
marks such a half is written by its number, so what is quoted is whole, and a message that only
quotes what was given can be written whatever that was.
-/

namespace NetSurvey

namespace Text

@[simp]
theorem isWhole_append (s t : Text) : isWhole (s ++ t) = (isWhole s && isWhole t) :=
  List.all_append

/-- The front of a whole text is whole. -/
theorem isWhole_take {t : Text} (h : isWhole t = true) (n : Nat) : isWhole (t.take n) = true := by
  simp only [isWhole, List.all_eq_true] at h ⊢
  exact fun c hc => h c (List.mem_of_mem_take hc)

/-- One range of the table covers all the halves. -/
theorem exists_unprintable_halves : ∃ r ∈ unprintable, r.1 ≤ 0xD800 ∧ 0xDFFF ≤ r.2 := by
  have hany : unprintable.toList.any (fun r => r.1 ≤ 0xD800 && 0xDFFF ≤ r.2) = true := by
    decide +kernel
  simpa only [List.any_eq_true, Array.mem_toList_iff, Bool.and_eq_true,
    decide_eq_true_eq] using hany

/-- Half of a surrogate pair is never printable, so it is always escaped. -/
theorem isPrintable_half (n : Fin 2048) : isPrintable (.half n) = false := by
  have hn := n.isLt
  have hnat := CodePoint.toNat_half n
  obtain ⟨r, hr, hfirst, hlast⟩ := exists_unprintable_halves
  have hany : (unprintable.any fun r => r.1 ≤ (CodePoint.half n).toNat &&
      (CodePoint.half n).toNat ≤ r.2) = true := by
    simp only [Array.any_eq_true', Bool.and_eq_true, decide_eq_true_eq]
    exact ⟨r, hr, by omega, by omega⟩
  have hlarge : ¬(CodePoint.half n).toNat < 127 := by omega
  simp only [isPrintable, hany, if_neg hlarge, Bool.not_true]

theorem isWhole_hexDigits (width n : Nat) : isWhole (hexDigits width n) = true := by
  induction width generalizing n with
  | zero => rfl
  | succ width ih =>
    rw [hexDigits, isWhole_append, ih]
    rfl

/-- An escape is written in ASCII, whatever it stands for. -/
theorem isWhole_escaped (mark : Char) (c : CodePoint) : isWhole (escaped mark c) = true := by
  cases c with
  | char c => fun_cases escaped mark (.char c) <;> simp [isWhole, hexDigits, hexDigit, ofString]
  | half n =>
    -- Only the escapes by number are left, and they are made of characters.
    fun_cases escaped mark (.half n) <;> simp_all [isPrintable_half, isWhole_hexDigits]

/-- **What is quoted is whole**, even where the text itself is not. -/
@[simp]
theorem isWhole_quoted (t : Text) : isWhole (quoted t) = true := by
  have hbody (mark : Char) : (t.flatMap (escaped mark)).all CodePoint.isChar = true := by
    rw [List.all_flatMap, List.all_eq_true]
    exact fun c _ => isWhole_escaped mark c
  rw [quoted, isWhole_append, isWhole, List.all_cons, hbody]
  rfl

end Text

theorem IntegerError.isWhole_message (e : IntegerError) : e.message.isWhole = true := by
  cases e with
  | malformed text =>
    rw [message, Text.isWhole_append, Text.isWhole_ofString]
    exact Text.isWhole_take (Text.isWhole_quoted text) _
  | tooLong digits => rw [message, Text.isWhole_append, Text.isWhole_ofString,
      Text.isWhole_ofString, Bool.and_true]

end NetSurvey
