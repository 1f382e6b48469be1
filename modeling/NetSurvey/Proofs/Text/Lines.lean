import NetSurvey.Text.Lines

/-!
# Which lines a text has

The lines of a text, said as a grammar: a line holds no line feed and no carriage return, and it
ends with one of the three line ends, a carriage return alone only where no line feed follows. The
last line may have no end if it is not empty (`LinesOf`).

Main statement: a text has one list of lines, the one that is found (`linesOf_iff`).
-/

namespace NetSurvey.Text

/-- A text within a line. -/
def IsLine (t : Text) : Prop :=
  .char '\n' ∉ t ∧ .char '\r' ∉ t

/-- The ends of lines. -/
inductive LineEnd : Text → Prop
  | lineFeed : LineEnd [.char '\n']
  | carriageReturn : LineEnd [.char '\r']
  | both : LineEnd [.char '\r', .char '\n']

/-- The lines of a text. -/
inductive LinesOf : Text → List Text → Prop
  | nil : LinesOf [] []
  | last {line : Text} (hline : IsLine line) (hne : line ≠ []) : LinesOf line [line]
  | next {line ending rest : Text} {ls : List Text} (hline : IsLine line) (hending : LineEnd ending)
    (hlong : ending = [.char '\r'] → rest.head? ≠ some (.char '\n')) (hrest : LinesOf rest ls) :
    LinesOf (line ++ (ending ++ rest)) (line :: ls)

variable {line ending t : Text} {ls : List Text} {c : CodePoint}

theorem isLine_nil : IsLine [] :=
  ⟨List.not_mem_nil, List.not_mem_nil⟩

theorem isLine_cons : IsLine (c :: t) ↔ ¬(c = .char '\n' ∨ c = .char '\r') ∧ IsLine t := by
  simp only [IsLine, List.mem_cons, not_or, eq_comm (a := c)]
  exact and_and_and_comm

/-- The next code point, where it does not begin a line end of two. -/
theorem linesFrom_cons (h : c = .char '\r' → t.head? ≠ some (.char '\n')) (start : Text) :
    linesFrom start (c :: t) =
      if c = .char '\n' ∨ c = .char '\r' then start.reverse :: linesFrom [] t
      else linesFrom (c :: start) t := by
  rw [linesFrom]
  rintro cs rfl rfl
  exact h rfl rfl

/-- What stands within a line is added to it. -/
theorem linesFrom_append (hline : IsLine line) (start t : Text) :
    linesFrom start (line ++ t) = linesFrom (line.reverse ++ start) t := by
  induction line generalizing start with
  | nil => rfl
  | cons c line ih =>
    obtain ⟨hc, hline⟩ := isLine_cons.mp hline
    rw [List.cons_append, linesFrom_cons fun h => absurd (.inr h) hc, if_neg hc, ih hline,
      List.reverse_cons, List.append_assoc, List.singleton_append]

/-- A line end completes the line. -/
theorem linesFrom_ending (hending : LineEnd ending)
    (hlong : ending = [.char '\r'] → t.head? ≠ some (.char '\n')) (start : Text) :
    linesFrom start (ending ++ t) = start.reverse :: linesFrom [] t := by
  cases hending with
  | lineFeed => rw [List.singleton_append, linesFrom_cons (by simp), if_pos (.inl rfl)]
  | carriageReturn =>
    rw [List.singleton_append, linesFrom_cons fun _ => hlong rfl, if_pos (.inr rfl)]
  | both => rfl

/-- The lines that are found are lines of the text, where those of the line that is being read are
in reverse. -/
theorem linesOf_linesFrom {start : Text} (hstart : IsLine start) (t : Text) :
    LinesOf (start.reverse ++ t) (linesFrom start t) := by
  have hreverse {start : Text} (h : IsLine start) : IsLine start.reverse := by
    simpa [IsLine] using h
  fun_induction linesFrom start t with
  | case1 start hempty =>
    rw [List.isEmpty_iff.mp hempty]
    exact .nil
  | case2 start hempty =>
    rw [List.append_nil]
    exact .last (hreverse hstart) (by simpa using hempty)
  | case3 start cs ih =>
    exact .next (hreverse hstart) .both (by simp) (ih isLine_nil)
  | case4 start c cs hlong hc ih =>
    have hending : LineEnd [c] := by
      rcases hc with rfl | rfl
      · exact .lineFeed
      · exact .carriageReturn
    refine LinesOf.next (hreverse hstart) hending (fun hreturn hfeed => ?_) (ih isLine_nil)
    obtain ⟨cs, rfl⟩ := List.head?_eq_some_iff.mp hfeed
    exact hlong cs (List.singleton_inj.mp hreturn) rfl
  | case5 start c cs hlong hc ih =>
    have hline := ih (isLine_cons.mpr ⟨hc, hstart⟩)
    rwa [List.reverse_cons, List.append_assoc, List.singleton_append] at hline

/-- **Which lines a text has.** -/
theorem linesOf_iff : LinesOf t ls ↔ ls = lines t := by
  constructor
  · intro h
    induction h with
    | nil => rfl
    | @last line hline hne =>
      rw [lines, ← List.append_nil line, linesFrom_append hline, linesFrom,
        if_neg (by simpa using hne)]
      simp
    | next hline hending hlong _ ih =>
      rw [lines, linesFrom_append hline, linesFrom_ending hending hlong, ih]
      simp [lines]
  · rintro rfl
    exact linesOf_linesFrom isLine_nil t

/-- Lines hold no line ends, and nothing that is not in the text. -/
theorem LinesOf.of_mem (h : LinesOf t ls) (hmem : line ∈ ls) : IsLine line ∧ ∀ c ∈ line, c ∈ t := by
  induction h with
  | nil => cases hmem
  | last hline =>
    rw [List.mem_singleton.mp hmem]
    exact ⟨hline, fun _ hc => hc⟩
  | next hline _ _ _ ih =>
    rcases List.mem_cons.mp hmem with rfl | hmem
    · exact ⟨hline, fun c hc => List.mem_append_left _ hc⟩
    · obtain ⟨hisLine, hsub⟩ := ih hmem
      exact ⟨hisLine, fun c hc => List.mem_append_right _ (List.mem_append_right _ (hsub c hc))⟩

end NetSurvey.Text
