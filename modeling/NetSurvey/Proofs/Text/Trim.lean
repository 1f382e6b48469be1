import NetSurvey.Text.Blank

/-!
# Trimmed texts

Trimming takes the code points of a class off the two ends of a text and nothing else
(`exists_trimBy`). What neither begins nor ends with one of them is what is left, whatever code
points of the class were around it (`trimBy_append`). So what was trimmed of blanks is not changed
by trimming (`trim_trim`).
-/

namespace NetSurvey.Text

variable {t : Text} {c : CodePoint} {p : CodePoint → Bool}

theorem dropWhile_eq_self_of_head (h : ∀ c ∈ t.head?, p c = false) : t.dropWhile p = t := by
  cases t with
  | nil => rfl
  | cons c t => rw [List.dropWhile_cons_of_neg (by simp [h c rfl])]

theorem not_of_mem_head?_dropWhile (h : c ∈ (t.dropWhile p).head?) : p c = false := by
  have hnot := List.head?_dropWhile_not p t
  rw [Option.mem_def.mp h] at hnot
  simpa using hnot

/-- What has no code point of the class at either end is not trimmed. -/
theorem trimBy_eq_self (hhead : ∀ c ∈ t.head?, p c = false)
    (hlast : ∀ c ∈ t.getLast?, p c = false) : trimBy p t = t := by
  have hback : ∀ c ∈ t.reverse.head?, p c = false := by rwa [List.head?_reverse]
  rw [trimBy, dropWhile_eq_self_of_head hhead, dropWhile_eq_self_of_head hback,
    List.reverse_reverse]

/-- What was trimmed does not end with a code point of the class. -/
theorem not_of_mem_getLast?_trimBy (h : c ∈ (trimBy p t).getLast?) : p c = false := by
  rw [trimBy, List.getLast?_reverse] at h
  exact not_of_mem_head?_dropWhile h

/-- What trimming takes off the end. -/
theorem exists_dropWhile_eq_trimBy_append (p : CodePoint → Bool) (t : Text) :
    ∃ back, (∀ c ∈ back, p c = true) ∧ t.dropWhile p = trimBy p t ++ back := by
  refine ⟨((t.dropWhile p).reverse.takeWhile p).reverse, fun c hc => ?_, ?_⟩
  · exact List.all_eq_true.mp List.all_takeWhile c (List.mem_reverse.mp hc)
  · rw [trimBy, ← List.reverse_append, List.takeWhile_append_dropWhile, List.reverse_reverse]

/-- What was trimmed does not begin with a code point of the class. -/
theorem not_of_mem_head?_trimBy (h : c ∈ (trimBy p t).head?) : p c = false := by
  obtain ⟨back, -, hback⟩ := exists_dropWhile_eq_trimBy_append p t
  refine not_of_mem_head?_dropWhile (t := t) ?_
  rw [hback, List.head?_append, Option.mem_def.mp h]
  rfl

/-- Around what is left of a text there were code points of the class only. -/
theorem exists_trimBy (p : CodePoint → Bool) (t : Text) :
    ∃ front back, (∀ c ∈ front, p c = true) ∧ (∀ c ∈ back, p c = true) ∧
      t = front ++ (trimBy p t ++ back) := by
  obtain ⟨back, hback, hdrop⟩ := exists_dropWhile_eq_trimBy_append p t
  refine ⟨t.takeWhile p, back, List.all_eq_true.mp List.all_takeWhile, hback, ?_⟩
  rw [← hdrop, List.takeWhile_append_dropWhile]

/-- What has no code point of the class at either end is left of a text that has such code points
around it. -/
theorem trimBy_append {front back : Text} (hfront : ∀ c ∈ front, p c = true)
    (hback : ∀ c ∈ back, p c = true) (hhead : ∀ c ∈ t.head?, p c = false)
    (hlast : ∀ c ∈ t.getLast?, p c = false) : trimBy p (front ++ (t ++ back)) = t := by
  have hlast' : ∀ c ∈ t.reverse.head?, p c = false := by rwa [List.head?_reverse]
  have hback' : ∀ c ∈ back.reverse, p c = true := fun c hc => hback c (List.mem_reverse.mp hc)
  rw [trimBy, List.dropWhile_append_of_pos hfront]
  cases t with
  | nil => rw [List.nil_append, ← List.append_nil back, List.dropWhile_append_of_pos hback]; rfl
  | cons c cs =>
    rw [dropWhile_eq_self_of_head (t := c :: cs ++ back) hhead, List.reverse_append,
      List.dropWhile_append_of_pos hback', dropWhile_eq_self_of_head hlast', List.reverse_reverse]

theorem mem_of_mem_trimBy (h : c ∈ trimBy p t) : c ∈ t := by
  obtain ⟨front, back, -, -, ht⟩ := exists_trimBy p t
  rw [ht]
  simp [h]

/-! ### Blanks -/

/-- What has no blank at either end is not trimmed. -/
theorem trim_eq_self_of_ends (hhead : ∀ c ∈ t.head?, isBlank c = false)
    (hlast : ∀ c ∈ t.getLast?, isBlank c = false) : trim t = t :=
  trimBy_eq_self hhead hlast

/-- What holds no blanks is not trimmed. -/
theorem trim_eq_self (h : ∀ c ∈ t, isBlank c = false) : trim t = t :=
  trim_eq_self_of_ends (fun c hc => h c (List.mem_of_mem_head? hc))
    fun c hc => h c (List.mem_of_mem_getLast? hc)

/-- What was trimmed does not end with a blank. -/
theorem isBlank_of_mem_getLast?_trim (h : c ∈ (trim t).getLast?) : isBlank c = false :=
  not_of_mem_getLast?_trimBy h

theorem trim_trim (t : Text) : trim (trim t) = trim t :=
  trim_eq_self_of_ends (fun _ hc => not_of_mem_head?_trimBy hc)
    fun _ hc => isBlank_of_mem_getLast?_trim hc

end NetSurvey.Text
