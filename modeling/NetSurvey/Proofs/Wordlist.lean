import NetSurvey.Proofs.Text.Lines
import NetSurvey.Proofs.Text.Trim
import NetSurvey.Proofs.Text.Utf8
import NetSurvey.Wordlist

/-!
# Wordlists are read back

A file stands for a text, and the words of a text are its lines, trimmed, without the empty ones and
the comments. A list of words that may be found in a file (`IsEntry`) can be written to a file, one
word on each line (`Written`), and is read back from it, whatever line ends are used.

Main statement: `loaded_words`.
-/

namespace NetSurvey.Wordlist

open Text

/-! ### Words -/

/-- A word as it may be found in a file. -/
structure IsEntry (w : Text) : Prop where
  ne_nil : w ≠ []
  trimmed : trim w = w
  isLine : IsLine w
  not_comment : w.head? ≠ some (.char '#')

/-- Words are written to a text, one on each line. The last line may have no end. -/
inductive Written : List Text → Text → Prop
  | nil : Written [] []
  | last (w : Text) : Written [w] w
  | next {w ending t : Text} {ws : List Text} (hending : LineEnd ending) (hrest : Written ws t) :
    Written (w :: ws) (w ++ (ending ++ t))

/-- A path that a file can have. -/
structure IsPath (path : Text) : Prop where
  ne_nil : path ≠ []
  encodable : File.unencodable? path = none
  no_null : path.contains (Char.ofNat 0) = false

variable {w t path : Text} {ws : List Text}

theorem isWord_iff : isWord w = true ↔ w ≠ [] ∧ w.head? ≠ some (.char '#') := by
  simp [isWord]

/-- What is found in a text is an entry, and its code points are those of the text. -/
theorem isEntry_of_mem_wordsOf (h : w ∈ wordsOf t) : IsEntry w ∧ ∀ c ∈ w, c ∈ t := by
  rw [wordsOf, List.mem_filter, isWord_iff] at h
  obtain ⟨hmem, hne, hcomment⟩ := h
  obtain ⟨line, hline, rfl⟩ := List.mem_map.mp hmem
  obtain ⟨hisLine, hsub⟩ := (linesOf_iff.mpr rfl).of_mem hline
  have htrim {c : CodePoint} (hc : c ∈ trim line) : c ∈ line := mem_of_mem_trimBy hc
  refine ⟨⟨hne, trim_trim line, ⟨?_, ?_⟩, hcomment⟩, fun c hc => hsub c (htrim hc)⟩
  · exact fun hc => hisLine.1 (htrim hc)
  · exact fun hc => hisLine.2 (htrim hc)

/-! ### Writing and reading back -/

/-- A written text does not begin with a line feed. -/
theorem Written.head?_ne (h : Written ws t) (hws : ∀ w ∈ ws, IsEntry w) :
    t.head? ≠ some (.char '\n') := by
  have hword {w : Text} (hw : IsEntry w) (rest : Text) :
      (w ++ rest).head? ≠ some (.char '\n') := by
    obtain ⟨c, cs, rfl⟩ := List.exists_cons_of_ne_nil hw.ne_nil
    rintro ⟨⟩
    exact hw.isLine.1 List.mem_cons_self
  cases h with
  | nil => nofun
  | last => simpa using hword (hws t List.mem_cons_self) []
  | next => exact hword (hws _ List.mem_cons_self) _

/-- The lines of a written text are the words. -/
theorem Written.linesOf (h : Written ws t) (hws : ∀ w ∈ ws, IsEntry w) : LinesOf t ws := by
  induction h with
  | nil => exact .nil
  | last w =>
    have hw := hws w List.mem_cons_self
    exact .last hw.isLine hw.ne_nil
  | @next w ending t ws hending hrest ih =>
    have hw := hws w List.mem_cons_self
    have hws' : ∀ w ∈ ws, IsEntry w := fun w hw => hws w (List.mem_cons_of_mem _ hw)
    exact .next hw.isLine hending (fun _ => hrest.head?_ne hws') (ih hws')

theorem wordsOf_of_written (h : Written ws t) (hws : ∀ w ∈ ws, IsEntry w) : wordsOf t = ws := by
  have hlines : lines t = ws := (linesOf_iff.mp (h.linesOf hws)).symm
  have htrim : ws.map trim = ws :=
    (List.map_congr_left fun w hw => (hws w hw).trimmed).trans (List.map_id ws)
  rw [wordsOf, hlines, htrim, List.filter_eq_self]
  exact fun w hw => isWord_iff.mpr ⟨(hws w hw).ne_nil, (hws w hw).not_comment⟩

theorem Written.isWhole (h : Written ws t) (hws : ∀ w ∈ ws, isWhole w = true) :
    isWhole t = true := by
  induction h with
  | nil => rfl
  | last w => exact hws w List.mem_cons_self
  | @next w ending t ws hending hrest ih =>
    have hw := hws w List.mem_cons_self
    have ht := ih fun w hw => hws w (List.mem_cons_of_mem _ hw)
    have hend : Text.isWhole ending = true := by cases hending <;> rfl
    simp only [Text.isWhole, List.all_append, Bool.and_eq_true] at *
    exact ⟨hw, hend, ht⟩

/-! ### Files -/

theorem load_eq (hpath : IsPath path) (bytes : List UInt8) (default : List Text) :
    load (some ⟨path, some bytes⟩) default = .words (parse bytes) := by
  have hne : path.isEmpty = false := by simpa using hpath.ne_nil
  simp only [load, hne, hpath.encodable, hpath.no_null, Bool.false_eq_true, if_false]

/-- Entries that are written to a file are read back. -/
theorem exists_load_written (hpath : IsPath path) (hws : ∀ w ∈ ws, IsEntry w ∧ isWhole w = true)
    (h : Written ws t) (default : List Text) :
    ∃ bytes, encodeUtf8? t = some bytes ∧
      load (some ⟨path, some bytes⟩) default = .words ws := by
  obtain ⟨bytes, hbytes, ht⟩ := exists_encodeUtf8? (h.isWhole fun w hw => (hws w hw).2)
  refine ⟨bytes, hbytes, ?_⟩
  rw [load_eq hpath, parse, ht, wordsOf_of_written h fun w hw => (hws w hw).1]

/-- **Loaded words.** The bytes of a file stand for one text, and it has one list of lines; the
trimmed lines that are neither empty nor comments are the words that are loaded, in their order. All
of them are entries. Written to a file, one on each line, they are loaded again; and so is any list
of entries whose code points are characters. -/
theorem loaded_words (path : Text) (hpath : IsPath path) (default : List Text) :
    (∀ bytes, ∃ t ls ws,
      (∀ t', Decodes bytes t' ↔ t' = t) ∧ (∀ ls', LinesOf t ls' ↔ ls' = ls) ∧
      ws = (ls.map trim).filter isWord ∧
      load (some ⟨path, some bytes⟩) default = .words ws ∧
      (∀ w ∈ ws, IsEntry w) ∧
      ∀ t', Written ws t' → ∃ bytes', encodeUtf8? t' = some bytes' ∧
        load (some ⟨path, some bytes'⟩) default = .words ws) ∧
    (∀ ws, (∀ w ∈ ws, IsEntry w ∧ isWhole w = true) → ∀ t, Written ws t →
      ∃ bytes, encodeUtf8? t = some bytes ∧
        load (some ⟨path, some bytes⟩) default = .words ws) := by
  constructor
  · intro bytes
    have hwhole := (decodes_decodeUtf8 bytes).isWhole
    have hentry : ∀ w ∈ parse bytes, IsEntry w ∧ isWhole w = true := by
      intro w hw
      obtain ⟨hentry, hsub⟩ := isEntry_of_mem_wordsOf hw
      exact ⟨hentry, List.all_eq_true.mpr fun c hc => List.all_eq_true.mp hwhole c (hsub c hc)⟩
    refine ⟨decodeUtf8 bytes, lines (decodeUtf8 bytes), parse bytes, fun _ => decodes_iff,
      fun _ => linesOf_iff, rfl, load_eq hpath bytes default, fun w hw => (hentry w hw).1,
      fun t' ht' => exists_load_written hpath hentry ht' default⟩
  · exact fun ws hws t ht => exists_load_written hpath hws ht default

/-- Two words after which different line ends are written. -/
theorem loaded_words_two_endings :
    IsPath "w" ∧ (∀ w ∈ [("ab" : Text), "é c"], IsEntry w ∧ isWhole w = true) ∧
      Written ["ab", "é c"] "ab\ré c\r\n" ∧
      ∃ bytes, encodeUtf8? "ab\ré c\r\n" = some bytes ∧
        load (some ⟨"w", some bytes⟩) [] = .words ["ab", "é c"] := by
  have hpath : IsPath "w" := ⟨by decide, by decide, by decide⟩
  have hws : ∀ w ∈ [("ab" : Text), "é c"], IsEntry w ∧ isWhole w = true := by
    intro w hw
    rcases List.mem_cons.mp hw with rfl | hw
    · exact ⟨⟨by decide, by decide, ⟨by decide, by decide⟩, by decide⟩, rfl⟩
    · rw [List.mem_singleton.mp hw]
      exact ⟨⟨by decide, by decide, ⟨by decide, by decide⟩, by decide⟩, rfl⟩
  have hwritten : Written ["ab", "é c"] "ab\ré c\r\n" :=
    .next (w := "ab") .carriageReturn (.next (w := "é c") .both .nil)
  exact ⟨hpath, hws, hwritten, (loaded_words "w" hpath []).2 _ hws _ hwritten⟩

end NetSurvey.Wordlist
