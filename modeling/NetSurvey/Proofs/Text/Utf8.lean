import NetSurvey.Text.Utf8

/-!
# What bytes stand for

What bytes stand for in UTF-8, said without a reader. At the front of any bytes there is a
character, or else a fault: the longest part of the bytes that begins the bytes of some character,
or a single byte that begins none (`IsFault`). A text has the characters, and a replacement for each
fault (`Decodes`).

Main statements: the reader finds what stands at the front and goes on behind it (`exists_front`),
so that bytes stand for one text, the one that is read (`decodes_iff`). The bytes of a text stand
for that text (`exists_encodeUtf8?`).
-/

namespace NetSurvey.Text

/-! ### Well-formed sequences -/

/-- The well-formed sequences of bytes, each with the number of its character. -/
inductive Spells : List UInt8 → Nat → Prop
  | one {a : UInt8} (ha : a.toNat < 0x80) : Spells [a] a.toNat
  | two {a b : UInt8} (ha : 0xC2 ≤ a.toNat ∧ a.toNat ≤ 0xDF) (hb : isContinuation b = true) :
    Spells [a, b] (a.toNat % 32 * 64 + payload b)
  | three {a b c : UInt8} (ha : 0xE0 ≤ a.toNat ∧ a.toNat ≤ 0xEF)
    (hb : followsLead false a b = true) (hc : isContinuation c = true) :
    Spells [a, b, c] ((a.toNat % 16 * 64 + payload b) * 64 + payload c)
  | four {a b c d : UInt8} (ha : 0xF0 ≤ a.toNat ∧ a.toNat ≤ 0xF4)
    (hb : followsLead false a b = true) (hc : isContinuation c = true)
    (hd : isContinuation d = true) :
    Spells [a, b, c, d] (((a.toNat % 8 * 64 + payload b) * 64 + payload c) * 64 + payload d)

theorem isContinuation_iff {b : UInt8} :
    isContinuation b = true ↔ 0x80 ≤ b.toNat ∧ b.toNat ≤ 0xBF := by
  simp [isContinuation, UInt8.le_iff_toNat_le]

/-- The second bytes, by number. -/
theorem followsLead_iff {a b : UInt8} :
    followsLead false a b = true ↔ 0x80 ≤ b.toNat ∧ b.toNat ≤ 0xBF ∧
      (a.toNat = 0xE0 → 0xA0 ≤ b.toNat) ∧ (a.toNat = 0xED → b.toNat ≤ 0x9F) ∧
      (a.toNat = 0xF0 → 0x90 ≤ b.toNat) ∧ (a.toNat = 0xF4 → b.toNat ≤ 0x8F) := by
  unfold followsLead
  split
  next h => subst h; simp [UInt8.le_iff_toNat_le]; omega
  split
  next h => subst h; simp [UInt8.le_iff_toNat_le]; omega
  split
  next h => subst h; simp [UInt8.le_iff_toNat_le]; omega
  split
  next h => subst h; simp [UInt8.le_iff_toNat_le]; omega
  next h₁ h₂ h₃ h₄ =>
    simp only [← UInt8.toNat_inj, UInt8.reduceToNat] at h₁ h₂ h₃ h₄
    rw [isContinuation_iff]
    omega

theorem toNat_ofNat_of_lt {n : Nat} (h : n < 256) : (UInt8.ofNat n).toNat = n := by
  rw [UInt8.toNat_ofNat', Nat.mod_eq_of_lt h]

/-- The bytes of a character are well-formed. -/
theorem spells_utf8EncodeChar (c : Char) : Spells (String.utf8EncodeChar c) c.toNat := by
  have hvalid : c.val.toNat < 0xD800 ∨ 0xDFFF < c.val.toNat ∧ c.val.toNat < 0x110000 := c.valid
  simp only [String.utf8EncodeChar]
  change Spells _ c.val.toNat
  generalize c.val.toNat = v at hvalid
  -- The bytes by number.
  have h₀ : (UInt8.ofNat (v % 64 + 128)).toNat = v % 64 + 128 := toNat_ofNat_of_lt (by omega)
  have h₁ : (UInt8.ofNat (v / 64 % 64 + 128)).toNat = v / 64 % 64 + 128 :=
    toNat_ofNat_of_lt (by omega)
  have h₂ : (UInt8.ofNat (v / 4096 % 64 + 128)).toNat = v / 4096 % 64 + 128 :=
    toNat_ofNat_of_lt (by omega)
  split
  next hle =>
    have ha : (UInt8.ofNat v).toNat = v := toNat_ofNat_of_lt (by omega)
    have h := @Spells.one (UInt8.ofNat v) (by omega)
    rwa [ha] at h
  split
  next hle =>
    have ha : (UInt8.ofNat (v / 64 % 32 + 192)).toNat = v / 64 % 32 + 192 :=
      toNat_ofNat_of_lt (by omega)
    have h := @Spells.two (UInt8.ofNat (v / 64 % 32 + 192)) (UInt8.ofNat (v % 64 + 128)) (by omega)
      (isContinuation_iff.mpr (by omega))
    have hv : (v / 64 % 32 + 192) % 32 * 64 + (v % 64 + 128) % 64 = v := by omega
    rwa [ha, payload, h₀, hv] at h
  split
  next hle =>
    have ha : (UInt8.ofNat (v / 4096 % 16 + 224)).toNat = v / 4096 % 16 + 224 :=
      toNat_ofNat_of_lt (by omega)
    have h := @Spells.three (UInt8.ofNat (v / 4096 % 16 + 224)) (UInt8.ofNat (v / 64 % 64 + 128))
      (UInt8.ofNat (v % 64 + 128)) (by omega) (followsLead_iff.mpr (by omega))
      (isContinuation_iff.mpr (by omega))
    have hv : ((v / 4096 % 16 + 224) % 16 * 64 + (v / 64 % 64 + 128) % 64) * 64 +
        (v % 64 + 128) % 64 = v := by omega
    rwa [ha, payload, payload, h₀, h₁, hv] at h
  next hle =>
    have ha : (UInt8.ofNat (v / 262144 % 8 + 240)).toNat = v / 262144 % 8 + 240 :=
      toNat_ofNat_of_lt (by omega)
    have h := @Spells.four (UInt8.ofNat (v / 262144 % 8 + 240))
      (UInt8.ofNat (v / 4096 % 64 + 128)) (UInt8.ofNat (v / 64 % 64 + 128))
      (UInt8.ofNat (v % 64 + 128)) (by omega) (followsLead_iff.mpr (by omega))
      (isContinuation_iff.mpr (by omega)) (isContinuation_iff.mpr (by omega))
    have hv : (((v / 262144 % 8 + 240) % 8 * 64 + (v / 4096 % 64 + 128) % 64) * 64 +
        (v / 64 % 64 + 128) % 64) * 64 + (v % 64 + 128) % 64 = v := by omega
    rwa [ha, payload, payload, payload, h₀, h₁, h₂, hv] at h

theorem ofNat_eq_of_toNat {b : UInt8} {n : Nat} (h : b.toNat = n) : UInt8.ofNat n = b := by
  rw [← h, UInt8.ofNat_toNat]

/-- A well-formed sequence is the bytes of a character. -/
theorem Spells.exists_char {bytes : List UInt8} {v : Nat} (h : Spells bytes v) :
    ∃ c : Char, c.toNat = v ∧ String.utf8EncodeChar c = bytes := by
  have hvalid : v.isValidChar := by
    cases h with
    | one ha => exact .inl (by omega)
    | two ha hb => exact .inl (by simp only [payload]; omega)
    | three ha hb hc =>
      simp only [followsLead_iff, isContinuation_iff, Nat.isValidChar, payload] at *
      omega
    | four ha hb hc hd =>
      simp only [followsLead_iff, isContinuation_iff, Nat.isValidChar, payload] at *
      omega
  obtain ⟨c, hval⟩ : ∃ c : Char, c.val.toNat = v := ⟨Char.ofNatAux v hvalid, rfl⟩
  refine ⟨c, hval, ?_⟩
  simp only [String.utf8EncodeChar, hval]
  cases h with
  | one ha => rw [if_pos (by omega), UInt8.ofNat_toNat]
  | @two a b ha hb =>
    rw [isContinuation_iff] at hb
    generalize hv : a.toNat % 32 * 64 + payload b = v
    rw [payload] at hv
    rw [if_neg (by omega), if_pos (by omega), ofNat_eq_of_toNat (b := a) (by omega),
      ofNat_eq_of_toNat (b := b) (by omega)]
  | @three a b c ha hb hc =>
    rw [followsLead_iff] at hb
    rw [isContinuation_iff] at hc
    generalize hv : (a.toNat % 16 * 64 + payload b) * 64 + payload c = v
    rw [payload, payload] at hv
    rw [if_neg (by omega), if_neg (by omega), if_pos (by omega),
      ofNat_eq_of_toNat (b := a) (by omega), ofNat_eq_of_toNat (b := b) (by omega),
      ofNat_eq_of_toNat (b := c) (by omega)]
  | @four a b c d ha hb hc hd =>
    rw [followsLead_iff] at hb
    rw [isContinuation_iff] at hc hd
    generalize hv : ((a.toNat % 8 * 64 + payload b) * 64 + payload c) * 64 + payload d = v
    rw [payload, payload, payload] at hv
    rw [if_neg (by omega), if_neg (by omega), if_neg (by omega),
      ofNat_eq_of_toNat (b := a) (by omega), ofNat_eq_of_toNat (b := b) (by omega),
      ofNat_eq_of_toNat (b := c) (by omega), ofNat_eq_of_toNat (b := d) (by omega)]

/-! ### Faults -/

/-- Bytes begin a well-formed sequence. -/
def Begins (front : List UInt8) : Prop :=
  ∃ c : Char, front <+: String.utf8EncodeChar c

/-- The fault at the front of bytes at which no character stands: the longest part of them that
begins a well-formed sequence, or a single byte that begins none. -/
structure IsFault (bad rest : List UInt8) : Prop where
  ne_nil : bad ≠ []
  not_char (c : Char) : ¬String.utf8EncodeChar c <+: bad ++ rest
  longest {front : List UInt8} : front <+: bad ++ rest → Begins front → front.length ≤ bad.length
  begins_or : Begins bad ∨ bad.length = 1

variable {a b : UInt8} {bad front rest bytes : List UInt8} {v : Nat}

theorem begins_iff : Begins front ↔ ∃ bytes v, Spells bytes v ∧ front <+: bytes := by
  constructor
  · rintro ⟨c, hc⟩
    exact ⟨_, _, spells_utf8EncodeChar c, hc⟩
  · rintro ⟨bytes, v, hspells, hfront⟩
    obtain ⟨c, -, rfl⟩ := hspells.exists_char
    exact ⟨c, hfront⟩

theorem Begins.of_isPrefix (h : Begins bad) (hfront : front <+: bad) : Begins front := by
  obtain ⟨c, hc⟩ := h
  exact ⟨c, hfront.trans hc⟩

/-- A fault ends where the next byte does not carry the sequence on. -/
theorem isFault_of_stops (hne : bad ≠ []) (hbegins : Begins bad ∨ bad.length = 1)
    (hincomplete : ∀ c : Char, ¬String.utf8EncodeChar c <+: bad)
    (hstops : ∀ b ∈ rest.head?, ¬Begins (bad ++ [b])) : IsFault bad rest := by
  have hlongest {front : List UInt8} (hfront : front <+: bad ++ rest) (h : Begins front) :
      front.length ≤ bad.length := by
    refine Nat.not_lt.mp fun hlt => ?_
    cases rest with
    | nil =>
      have hle := hfront.length_le
      simp at hle
      omega
    | cons b rest =>
      have hnext : bad ++ [b] <+: bad ++ b :: rest := ⟨rest, by simp⟩
      refine hstops b rfl (h.of_isPrefix (List.prefix_of_prefix_length_le hnext hfront ?_))
      simpa using Nat.succ_le_of_lt hlt
  refine ⟨hne, fun c hc => ?_, hlongest, hbegins⟩
  refine hincomplete c (List.prefix_of_prefix_length_le hc (List.prefix_append _ _) ?_)
  exact hlongest hc ⟨c, List.prefix_refl _⟩

/-- Bytes have one fault at their front at most. -/
theorem IsFault.unique {bad' rest' : List UInt8} (h : IsFault bad rest) (h' : IsFault bad' rest')
    (heq : bad ++ rest = bad' ++ rest') : bad = bad' ∧ rest = rest' := by
  have hle {bad rest bad' rest' : List UInt8} (h : IsFault bad rest) (h' : IsFault bad' rest')
      (heq : bad ++ rest = bad' ++ rest') : bad.length ≤ bad'.length := by
    rcases h.begins_or with hbegins | hone
    · exact h'.longest (heq ▸ List.prefix_append bad rest) hbegins
    · rw [hone]
      exact List.length_pos_iff.mpr h'.ne_nil
  exact List.append_inj heq (Nat.le_antisymm (hle h h' heq) (hle h' h heq.symm))

/-- The incomplete sequences, each with a test for the bytes that carry it on. -/
inductive Opening : List UInt8 → (UInt8 → Bool) → Prop
  | short {a : UInt8} (ha : 0xC2 ≤ a.toNat ∧ a.toNat ≤ 0xDF) : Opening [a] isContinuation
  | first {a : UInt8} (ha : 0xE0 ≤ a.toNat ∧ a.toNat ≤ 0xF4) : Opening [a] (followsLead false a)
  | second {a b : UInt8} (ha : 0xE0 ≤ a.toNat ∧ a.toNat ≤ 0xF4)
    (hb : followsLead false a b = true) : Opening [a, b] isContinuation
  | third {a b c : UInt8} (ha : 0xF0 ≤ a.toNat ∧ a.toNat ≤ 0xF4)
    (hb : followsLead false a b = true) (hc : isContinuation c = true) :
    Opening [a, b, c] isContinuation

variable {next : UInt8 → Bool}

/-- What carries an incomplete sequence on. -/
theorem Opening.next_of_begins (h : Opening bad next) (hb : Begins (bad ++ [b])) :
    next b = true := by
  obtain ⟨bytes, v, hspells, hfront⟩ := begins_iff.mp hb
  cases h with
  | short ha => cases hspells <;> simp_all [List.cons_prefix_cons] <;> omega
  | first ha =>
    cases hspells <;> simp_all [List.cons_prefix_cons]
    omega
  | second ha hb => cases hspells <;> simp_all [List.cons_prefix_cons]
  | third ha hb hc => cases hspells <;> simp_all [List.cons_prefix_cons]

/-- An incomplete sequence is shorter than its first byte tells. -/
theorem Opening.not_char (h : Opening bad next) (c : Char) : ¬String.utf8EncodeChar c <+: bad := by
  intro hprefix
  have hspells := spells_utf8EncodeChar c
  generalize String.utf8EncodeChar c = bytes at hspells hprefix
  generalize c.toNat = v at hspells
  cases h with
  | short ha =>
    cases hspells <;> simp_all [List.cons_prefix_cons]
    omega
  | first ha =>
    cases hspells <;> simp_all [List.cons_prefix_cons]
    omega
  | second ha hb => cases hspells <;> simp_all [List.cons_prefix_cons] <;> omega
  | third ha hb hc => cases hspells <;> simp_all [List.cons_prefix_cons] <;> omega

theorem exists_followsLead (a : UInt8) : ∃ b, followsLead false a b = true := by
  refine ⟨if a.toNat = 0xE0 then 0xA0 else if a.toNat = 0xF0 then 0x90 else 0x80, ?_⟩
  rw [followsLead_iff]
  split
  · simp_all
  split
  · simp_all
  · simp_all

/-- Every incomplete sequence can be completed. -/
theorem Opening.begins (h : Opening bad next) : Begins bad := by
  have hlast : isContinuation 0x80 = true := rfl
  have hsecond {a b : UInt8} (ha : 0xE0 ≤ a.toNat ∧ a.toNat ≤ 0xF4)
      (hb : followsLead false a b = true) : Begins [a, b] := by
    by_cases hlead : a.toNat ≤ 0xEF
    · exact begins_iff.mpr ⟨_, _, .three ⟨ha.1, hlead⟩ hb hlast, by simp⟩
    · exact begins_iff.mpr ⟨_, _, .four ⟨by omega, ha.2⟩ hb hlast hlast, by simp⟩
  cases h with
  | short ha => exact begins_iff.mpr ⟨_, _, .two ha hlast, by simp⟩
  | first ha =>
    obtain ⟨b, hb⟩ := exists_followsLead _
    exact (hsecond ha hb).of_isPrefix (by simp)
  | second ha hb => exact hsecond ha hb
  | third ha hb hc => exact begins_iff.mpr ⟨_, _, .four ha hb hc hlast, by simp⟩

theorem Opening.isFault (h : Opening bad next) (hnext : ∀ b ∈ rest.head?, ¬next b = true) :
    IsFault bad rest := by
  have hne : bad ≠ [] := by
    rintro rfl
    cases h
  exact isFault_of_stops hne (.inl h.begins) h.not_char fun b hb hbegins =>
    hnext b hb (h.next_of_begins hbegins)

/-- A byte that begins no sequence is a fault by itself. -/
theorem isFault_of_not_begins (h : ¬Begins [a]) : IsFault [a] rest := by
  refine isFault_of_stops (by simp) (.inr rfl) (fun c hc => ?_) fun b _ hb => ?_
  · have hpos : 0 < (String.utf8EncodeChar c).length := by
      rw [String.length_utf8EncodeChar]
      exact c.utf8Size_pos
    have hlength : (String.utf8EncodeChar c).length = 1 := Nat.le_antisymm hc.length_le hpos
    exact h ⟨c, hc.eq_of_length hlength ▸ List.prefix_refl _⟩
  · exact h (hb.of_isPrefix (by simp))

/-! ### Reading bytes -/

/-- What stands at the front of bytes: a character, or a fault. -/
inductive Front : List UInt8 → Option CodePoint → List UInt8 → Prop
  | char (c : Char) (rest : List UInt8) :
    Front (String.utf8EncodeChar c ++ rest) (some (.char c)) rest
  | fault {bad rest : List UInt8} (h : IsFault bad rest) : Front (bad ++ rest) none rest

/-- Bytes stand for a text: each character is that of its bytes, and there is one replacement for
each fault. -/
inductive Decodes : List UInt8 → Text → Prop
  | nil : Decodes [] []
  | cons {bytes rest : List UInt8} {point : Option CodePoint} {t : Text}
    (hfront : Front bytes point rest) (hrest : Decodes rest t) :
    Decodes bytes (point.getD replacement :: t)

theorem Front.of_spells (h : Spells front v) (rest : List UInt8) :
    Front (front ++ rest) (some (.ofNat v)) rest := by
  obtain ⟨c, rfl, rfl⟩ := h.exists_char
  rw [← CodePoint.toNat_char, CodePoint.ofNat_toNat]
  exact .char c rest

theorem Front.of_opening (h : Opening bad next) (hnext : ∀ b ∈ rest.head?, ¬next b = true) :
    Front (bad ++ rest) none rest :=
  .fault (h.isFault hnext)

theorem inRange_iff {lo hi : UInt8} :
    (decide (lo ≤ a) && decide (a ≤ hi)) = true ↔ lo.toNat ≤ a.toNat ∧ a.toNat ≤ hi.toNat := by
  simp [UInt8.le_iff_toNat_le]

/-- **One step of reading.** What stands at the front of bytes is read, and reading goes on behind
it. -/
theorem exists_front (hne : bytes ≠ []) :
    ∃ point rest, Front bytes point rest ∧
      scanUtf8 false bytes = point :: scanUtf8 false rest := by
  have hthree {a : UInt8} (ha : (decide (0xE0 ≤ a) && decide (a ≤ 0xEF)) = true) :
      0xE0 ≤ a.toNat ∧ a.toNat ≤ 0xF4 :=
    (inRange_iff.mp ha).imp_right fun hle => Nat.le_trans hle (by decide)
  have hfour {a : UInt8} (ha : (decide (0xF0 ≤ a) && decide (a ≤ 0xF4)) = true) :
      0xE0 ≤ a.toNat ∧ a.toNat ≤ 0xF4 :=
    (inRange_iff.mp ha).imp_left fun hle => Nat.le_trans (by decide) hle
  fun_cases scanUtf8 false bytes with
  | case1 => exact absurd rfl hne
  | case2 a rest ha =>
    exact ⟨_, rest, Front.of_spells (.one (UInt8.lt_iff_toNat_lt.mp ha)) rest, rfl⟩
  -- Two bytes.
  | case3 a _ ha =>
    exact ⟨_, [], Front.of_opening (.short (inRange_iff.mp ha)) (by simp), rfl⟩
  | case4 a _ ha b rest hb =>
    exact ⟨_, rest, Front.of_spells (.two (inRange_iff.mp ha) hb) rest, rfl⟩
  | case5 a _ ha b rest hb =>
    exact ⟨_, b :: rest, Front.of_opening (.short (inRange_iff.mp ha)) (by simpa using hb), rfl⟩
  -- Three bytes.
  | case6 a _ _ ha =>
    exact ⟨_, [], Front.of_opening (.first (hthree ha)) (by simp), rfl⟩
  | case7 a _ _ ha b hb =>
    exact ⟨_, [], Front.of_opening (.second (hthree ha) hb) (by simp), rfl⟩
  | case8 a _ _ ha b hb c rest hc =>
    exact ⟨_, rest, Front.of_spells (.three (inRange_iff.mp ha) hb hc) rest, rfl⟩
  | case9 a _ _ ha b hb c rest hc =>
    exact ⟨_, c :: rest, Front.of_opening (.second (hthree ha) hb) (by simpa using hc), rfl⟩
  | case10 a _ _ ha b rest hb =>
    exact ⟨_, b :: rest, Front.of_opening (.first (hthree ha)) (by simpa using hb), rfl⟩
  -- Four bytes.
  | case11 a _ _ _ ha =>
    exact ⟨_, [], Front.of_opening (.first (hfour ha)) (by simp), rfl⟩
  | case12 a _ _ _ ha b hb =>
    exact ⟨_, [], Front.of_opening (.second (hfour ha) hb) (by simp), rfl⟩
  | case13 a _ _ _ ha b hb c hc =>
    exact ⟨_, [], Front.of_opening (.third (inRange_iff.mp ha) hb hc) (by simp), rfl⟩
  | case14 a _ _ _ ha b hb c hc d rest hd =>
    exact ⟨_, rest, Front.of_spells (.four (inRange_iff.mp ha) hb hc hd) rest, rfl⟩
  | case15 a _ _ _ ha b hb c hc d rest hd =>
    exact ⟨_, d :: rest, Front.of_opening (.third (inRange_iff.mp ha) hb hc) (by simpa using hd),
      rfl⟩
  | case16 a _ _ _ ha b hb c rest hc =>
    exact ⟨_, c :: rest, Front.of_opening (.second (hfour ha) hb) (by simpa using hc), rfl⟩
  | case17 a _ _ _ ha b rest hb =>
    exact ⟨_, b :: rest, Front.of_opening (.first (hfour ha)) (by simpa using hb), rfl⟩
  -- No first byte.
  | case18 a rest h₁ h₂ h₃ h₄ =>
    refine ⟨_, rest, Front.fault (isFault_of_not_begins (a := a) fun h => ?_), rfl⟩
    rw [UInt8.lt_iff_toNat_lt] at h₁
    rw [inRange_iff] at h₂ h₃ h₄
    obtain ⟨bytes, v, hspells, hfront⟩ := begins_iff.mp h
    cases hspells <;> simp_all [List.cons_prefix_cons] <;> omega

/-! ### Texts -/

theorem utf8EncodeChar_append_inj {c c' : Char} {rest' : List UInt8}
    (h : String.utf8EncodeChar c ++ rest = String.utf8EncodeChar c' ++ rest') :
    c = c' ∧ rest = rest' := by
  have hdecode := congrArg (fun l => l.toByteArray.utf8DecodeChar? 0) h
  simp only [List.toByteArray_append, ByteArray.utf8DecodeChar?_utf8EncodeChar_append] at hdecode
  obtain rfl := Option.some.inj hdecode
  exact ⟨rfl, List.append_cancel_left h⟩

/-- What stands at the front of bytes is determined. -/
theorem Front.unique {point point' : Option CodePoint} {rest' : List UInt8}
    (h : Front bytes point rest) (h' : Front bytes point' rest') :
    point = point' ∧ rest = rest' := by
  generalize hbytes : bytes = bytes' at h'
  cases h with
  | char c =>
    cases h' with
    | char c' =>
      obtain ⟨rfl, rfl⟩ := utf8EncodeChar_append_inj hbytes
      exact ⟨rfl, rfl⟩
    | fault hbad => exact absurd (hbytes ▸ List.prefix_append _ _) (hbad.not_char c)
  | fault hbad =>
    cases h' with
    | char c' => exact absurd (hbytes ▸ List.prefix_append _ _) (hbad.not_char c')
    | fault hbad' => exact ⟨rfl, (hbad.unique hbad' hbytes).2⟩

theorem Front.length_lt {point : Option CodePoint} (h : Front bytes point rest) :
    rest.length < bytes.length := by
  cases h with
  | char c =>
    have hpos := c.utf8Size_pos
    rw [List.length_append, String.length_utf8EncodeChar]
    omega
  | fault hbad =>
    have hpos := List.length_pos_iff.mpr hbad.ne_nil
    rw [List.length_append]
    omega

theorem decodeUtf8_of_front {point : Option CodePoint} (h : Front bytes point rest) :
    decodeUtf8 bytes = point.getD replacement :: decodeUtf8 rest := by
  have hne : bytes ≠ [] := List.ne_nil_of_length_pos (Nat.zero_lt_of_lt h.length_lt)
  obtain ⟨point', rest', hfront, hscan⟩ := exists_front hne
  obtain ⟨rfl, rfl⟩ := h.unique hfront
  rw [decodeUtf8, hscan, List.map_cons, decodeUtf8]

theorem decodes_decodeUtf8 (bytes : List UInt8) : Decodes bytes (decodeUtf8 bytes) := by
  by_cases hne : bytes = []
  · subst hne
    exact .nil
  · obtain ⟨point, rest, hfront, -⟩ := exists_front hne
    have hlt := hfront.length_lt
    rw [decodeUtf8_of_front hfront]
    exact .cons hfront (decodes_decodeUtf8 rest)
termination_by bytes.length

/-- **What bytes stand for.** Bytes stand for one text, and this is the text that is read. -/
theorem decodes_iff {t : Text} : Decodes bytes t ↔ t = decodeUtf8 bytes := by
  constructor
  · intro h
    induction h with
    | nil => rfl
    | cons hfront _ ih => rw [ih, decodeUtf8_of_front hfront]
  · rintro rfl
    exact decodes_decodeUtf8 bytes

/-- All code points that bytes stand for are characters. -/
theorem Decodes.isWhole {t : Text} (h : Decodes bytes t) : isWhole t = true := by
  induction h with
  | nil => rfl
  | cons hfront _ ih =>
    cases hfront with
    | char c => simpa [Text.isWhole] using ih
    | fault => simpa [Text.isWhole] using ih

/-- A text of characters can be written, and its bytes stand for it. -/
theorem exists_encodeUtf8? {t : Text} (h : isWhole t = true) :
    ∃ bytes, encodeUtf8? t = some bytes ∧ decodeUtf8 bytes = t := by
  induction t with
  | nil => exact ⟨[], rfl, rfl⟩
  | cons c t ih =>
    rw [isWhole, List.all_cons, Bool.and_eq_true] at h
    obtain ⟨bytes, hbytes, ht⟩ := ih h.2
    obtain ⟨parts, hparts, rfl⟩ := Option.map_eq_some_iff.mp hbytes
    cases c with
    | half n => cases h.1
    | char c =>
      refine ⟨String.utf8EncodeChar c ++ parts.flatten, ?_, ?_⟩
      · simp [encodeUtf8?, pointBytes?, hparts]
      · rw [decodeUtf8_of_front (.char c _), ht]
        rfl

end NetSurvey.Text
