import Mathlib.Data.List.TakeWhile
import NetSurvey.Address.Text

/-!
# The text of an address is read back

`Address.read?_text` says that reading the text of an address gives the address again, without a
scope. So an address is known by its text (`Address.text_injective`), and the texts of different
addresses are different.

Both families are written as numerals with a separator between them. The separator is no digit, so
cutting the text at the separator gives the numerals back (`fields_joined`). In a text of groups the
place of the run that was left out is known as well: between two numerals there is one colon, so the
first double colon is the one that stands for the run (`Groups.splitDouble?_plain_append`).
-/

namespace NetSurvey

open Text

/-! ### Numerals -/

namespace Text

/-- A code point is a digit of a base of at most sixteen. -/
def IsDigit (c : CodePoint) : Prop := ∃ d < 16, c = .char d.digitChar

theorem hexDigitValue?_digitChar :
    ∀ d < 16, hexDigitValue? (.char d.digitChar) = some d := by
  decide

/-- A digit is none of the characters that stand between digits. -/
theorem IsDigit.ne {c : CodePoint} (h : IsDigit c) {sep : Char}
    (hsep : ∀ d < 16, d.digitChar ≠ sep) : c ≠ .char sep := by
  obtain ⟨d, hd, rfl⟩ := h
  simpa using hsep d hd

/-- A numeral of several digits is a shorter numeral and a last digit. -/
theorem numeral_eq {base : Nat} (hbase : 1 < base) (n : Nat) :
    numeral base n =
      (if n < base then [] else numeral base (n / base)) ++ [.char (n % base).digitChar] := by
  rw [numeral, Nat.toDigits_eq_if hbase]
  split
  · next h => simp [Nat.mod_eq_of_lt h]
  · simp [numeral]

/-- A number has at least one digit. -/
theorem numeral_ne_nil (base n : Nat) : numeral base n ≠ [] := by
  simp [numeral]

theorem exists_digit_of_mem_numeral {base : Nat} (hbase : 1 < base) {n : Nat} {c : CodePoint}
    (hc : c ∈ numeral base n) : ∃ d < base, c = .char d.digitChar := by
  induction n using Nat.strongRecOn with
  | ind n ih =>
    rw [numeral_eq hbase, List.mem_append, List.mem_singleton] at hc
    obtain hc | rfl := hc
    · split at hc
      · cases hc
      · exact ih (n / base) (Nat.div_lt_self (by omega) hbase) hc
    · exact ⟨n % base, Nat.mod_lt _ (by omega), rfl⟩

theorem isDigit_of_mem_numeral {base : Nat} (hbase : 1 < base) (hle : base ≤ 16) {n : Nat}
    {c : CodePoint} (hc : c ∈ numeral base n) : IsDigit c := by
  obtain ⟨d, hd, rfl⟩ := exists_digit_of_mem_numeral hbase hc
  exact ⟨d, by omega, rfl⟩

/-- The digits of a numeral, read one by one, stand for the number. -/
theorem mapM_numeral {base : Nat} (hbase : 1 < base) {value? : CodePoint → Option Nat}
    (hvalue : ∀ d < base, value? (.char d.digitChar) = some d) (n : Nat) :
    ∃ ds, (numeral base n).mapM value? = some ds ∧ ds.length = (numeral base n).length ∧
      ds.foldl (fun n d => base * n + d) 0 = n := by
  induction n using Nat.strongRecOn with
  | ind n ih =>
    have hlast : value? (.char (n % base).digitChar) = some (n % base) :=
      hvalue _ (Nat.mod_lt _ (by omega))
    rw [numeral_eq hbase]
    split
    · next h =>
      refine ⟨[n % base], by simp [hlast], rfl, ?_⟩
      simp [Nat.mod_eq_of_lt h]
    · next h =>
      obtain ⟨ds, hds, hlength, hn⟩ := ih (n / base) (Nat.div_lt_self (by omega) hbase)
      refine ⟨ds ++ [n % base], by simp [hds, hlast], by simp [hlength], ?_⟩
      rw [List.foldl_append, hn, List.foldl_cons, List.foldl_nil]
      exact Nat.div_add_mod n base

/-- What is read back item by item is read back as a list. -/
theorem mapM_map_eq_some {α β : Type} {write : α → β} {read : β → Option α} {items : List α}
    (h : ∀ a ∈ items, read (write a) = some a) : (items.map write).mapM read = some items := by
  induction items with
  | nil => rfl
  | cons a items ih =>
    have hrest := ih fun b hb => h b (List.mem_cons_of_mem a hb)
    simp only [List.map_cons, List.mapM_cons, h a List.mem_cons_self, hrest, Option.pure_def,
      Option.bind_eq_bind, Option.bind_some]

/-! ### Separators -/

/-- Texts without the separator are the fields of the text that joins them. -/
theorem fields_joined {sep : CodePoint} {ts : List Text} (hne : ts ≠ [])
    (h : ∀ t ∈ ts, sep ∉ t) : fields sep (joined [sep] ts) = ts := by
  induction ts with
  | nil => exact absurd rfl hne
  | cons t ts ih =>
    have ht : fields sep t = [t] := fields_of_not_mem (h t List.mem_cons_self)
    cases ts with
    | nil => exact ht
    | cons u us =>
      have hrest := ih (List.cons_ne_nil u us) fun v hv => h v (List.mem_cons_of_mem t hv)
      rw [joined, List.append_assoc, List.singleton_append, fields_append_sep, ht, hrest,
        List.singleton_append]

theorem mem_joined {sep : Text} {ts : List Text} {c : CodePoint} (h : c ∈ joined sep ts) :
    c ∈ sep ∨ ∃ t ∈ ts, c ∈ t := by
  fun_induction joined sep ts with
  | case1 => cases h
  | case2 f => exact .inr ⟨f, List.mem_singleton_self f, h⟩
  | case3 f g fs ih =>
    rw [List.mem_append, List.mem_append] at h
    obtain (h | h) | h := h
    · exact .inr ⟨f, List.mem_cons_self, h⟩
    · exact .inl h
    · obtain h | ⟨t, ht, hc⟩ := ih h
      · exact .inl h
      · exact .inr ⟨t, List.mem_cons_of_mem f ht, hc⟩

end Text

/-! ### Addresses of 32 bits -/

namespace Dotted

/-- An octet is read as it is written, without zeros at the front. -/
theorem octet?_numeral : ∀ n < 256, octet? (numeral 10 n) = some n := by
  decide +kernel

theorem mem_write {n : Nat} {c : CodePoint} (h : c ∈ write n) : c = .char '.' ∨ IsDigit c := by
  obtain h | ⟨t, ht, hc⟩ := mem_joined h
  · exact .inl (List.mem_singleton.mp h)
  · obtain ⟨b, -, rfl⟩ := List.mem_map.mp ht
    exact .inr (isDigit_of_mem_numeral (by decide) (by decide) hc)

theorem read?_of_not_mem {t : Text} (h : .char '.' ∉ t) : read? t = none := by
  rw [read?, fields_of_not_mem h, List.mapM_cons, List.mapM_nil]
  cases octet? t <;> rfl

theorem read?_write {n : Nat} (h : n < Nat.pow 2 Family.v4.width) : read? (write n) = some n := by
  have hfields : fields '.' (write n) =
      (Octets.ofNat 4 n).map fun b => numeral 10 b.toNat := by
    refine fields_joined (by simp [Octets.ofNat]) ?_
    intro t ht hmem
    obtain ⟨b, -, rfl⟩ := List.mem_map.mp ht
    have hdigit := isDigit_of_mem_numeral (by decide) (by decide) hmem
    exact hdigit.ne (by decide) rfl
  have hoctet : ∀ m : Nat, octet? (numeral 10 (m % 256)) = some (m % 256) := fun m =>
    octet?_numeral _ (Nat.mod_lt _ (by decide))
  rw [read?, hfields]
  simp only [Octets.ofNat, List.nil_append, List.cons_append, List.map_cons, List.map_nil,
    UInt8.toNat_ofNat', Nat.reducePow, List.mapM_cons, List.mapM_nil, hoctet, Option.pure_def,
    Option.bind_eq_bind, Option.bind_some, Option.some.injEq]
  have h32 : Nat.pow 2 Family.v4.width = 4294967296 := by decide
  omega

end Dotted

/-! ### Addresses of 128 bits -/

namespace Groups

/-- The groups of an address are numbers of sixteen bits. -/
theorem lt_of_mem_ofNat {n g : Nat} (h : g ∈ ofNat n) : g < 65536 := by
  obtain ⟨place, -, rfl⟩ := List.mem_map.mp h
  exact Nat.mod_lt _ (by decide)

theorem length_ofNat (n : Nat) : (ofNat n).length = count := rfl

/-- The groups of an address are its number again. -/
theorem value_ofNat {n : Nat} (h : n < Nat.pow 2 Family.v6.width) : value (ofNat n) = n := by
  have hdiv : ∀ k, n / Nat.pow 2 (k + 16) = n / Nat.pow 2 k / 65536 := by
    intro k
    rw [Nat.div_div_eq_div_mul]
    exact congrArg _ (Nat.pow_add 2 k 16)
  have htop : n / Nat.pow 2 112 < 65536 := by
    refine Nat.div_lt_of_lt_mul ?_
    exact Nat.lt_of_lt_of_eq h (by decide)
  simp only [ofNat, List.map_cons, List.map_nil, value, List.foldl_cons, List.foldl_nil]
  rw [hdiv 96] at htop ⊢
  rw [hdiv 80] at htop ⊢
  rw [hdiv 64] at htop ⊢
  rw [hdiv 48] at htop ⊢
  rw [hdiv 32] at htop ⊢
  rw [hdiv 16] at htop ⊢
  rw [hdiv 0] at htop ⊢
  have hzero : n / Nat.pow 2 0 = n := Nat.div_one n
  rw [hzero] at htop ⊢
  omega

/-! #### Writing and reading groups in full -/

theorem mapM_hexDigitValue?_numeral (n : Nat) :
    ((numeral 16 n).mapM hexDigitValue?).map ofHex = some n := by
  obtain ⟨ds, hds, -, hn⟩ := mapM_numeral (by decide) hexDigitValue?_digitChar n
  rw [hds, Option.map_some, ofHex, hn]

/-- A group is read as it is written: it has at most four digits. -/
theorem group?_numeral {g : Nat} (h : g < 65536) : group? (numeral 16 g) = some g := by
  have hlen : (numeral 16 g).length ≤ 4 := by
    rw [numeral, List.length_map, Nat.length_toDigits_le_iff (by decide) (by decide)]
    exact h
  rw [group?, if_neg, mapM_hexDigitValue?_numeral]
  simpa [numeral_ne_nil] using hlen

theorem mem_plain {gs : List Nat} {c : CodePoint} (h : c ∈ plain gs) :
    c = .char ':' ∨ IsDigit c := by
  obtain h | ⟨t, ht, hc⟩ := mem_joined h
  · exact .inl (List.mem_singleton.mp h)
  · obtain ⟨g, -, rfl⟩ := List.mem_map.mp ht
    exact .inr (isDigit_of_mem_numeral (by decide) (by decide) hc)

theorem plain_cons_cons (g g' : Nat) (gs : List Nat) :
    plain (g :: g' :: gs) = numeral 16 g ++ .char ':' :: plain (g' :: gs) := by
  simp only [plain, List.map_cons, joined, List.append_assoc]
  rfl

/-- The text of groups begins with a digit. -/
theorem exists_plain_eq_cons (g : Nat) (gs : List Nat) :
    ∃ c t, plain (g :: gs) = c :: t ∧ IsDigit c := by
  obtain ⟨c, t, hct⟩ := List.exists_cons_of_ne_nil (numeral_ne_nil 16 g)
  have hdigit : IsDigit c :=
    isDigit_of_mem_numeral (n := g) (by decide) (by decide) (hct ▸ List.mem_cons_self)
  cases gs with
  | nil => exact ⟨c, t, hct, hdigit⟩
  | cons g' gs =>
    refine ⟨c, t ++ .char ':' :: plain (g' :: gs), ?_, hdigit⟩
    rw [plain_cons_cons, hct, List.cons_append]

/-- Groups with a colon between them are read as they are written. -/
theorem list?_plain {gs : List Nat} (h : ∀ g ∈ gs, g < 65536) : list? (plain gs) = some gs := by
  cases gs with
  | nil => rfl
  | cons g gs =>
    obtain ⟨c, t, hct, -⟩ := exists_plain_eq_cons g gs
    have hfields : fields ':' (plain (g :: gs)) = (g :: gs).map (numeral 16) := by
      refine fields_joined (by simp) ?_
      intro t ht hmem
      obtain ⟨g, -, rfl⟩ := List.mem_map.mp ht
      exact (isDigit_of_mem_numeral (by decide) (by decide) hmem).ne (by decide) rfl
    rw [list?, hfields, mapM_map_eq_some fun g hg => group?_numeral (h g hg), hct]
    rfl

/-! #### The run that is left out -/

/-- What is left out of a text stands for as many groups of zeros as were left out. -/
theorem replicate_zeros_append_drop (gs : List Nat) :
    List.replicate (zeros gs) 0 ++ gs.drop (zeros gs) = gs := by
  induction gs with
  | nil => rfl
  | cons g gs ih =>
    by_cases hg : g = 0
    · have hzeros : zeros (g :: gs) = zeros gs + 1 := by simp [zeros, hg]
      rw [hzeros, List.replicate_succ, List.drop_succ_cons, List.cons_append, ih, hg]
    · have hzeros : zeros (g :: gs) = 0 := by simp [zeros, hg]
      rw [hzeros, List.replicate_zero, List.drop_zero, List.nil_append]

/-- The longest run of zero groups is a run of zero groups. -/
theorem take_append_replicate_append_drop (gs : List Nat) :
    gs.take (longestZeros gs).1 ++ List.replicate (longestZeros gs).2 0 ++
      gs.drop ((longestZeros gs).1 + (longestZeros gs).2) = gs := by
  induction gs with
  | nil => rfl
  | cons g gs ih =>
    by_cases hle : (longestZeros gs).2 ≤ zeros (g :: gs)
    · have hrun : longestZeros (g :: gs) = (0, zeros (g :: gs)) := by simp [longestZeros, hle]
      rw [hrun, List.take_zero, List.nil_append, Nat.zero_add, replicate_zeros_append_drop]
    · have hrun : longestZeros (g :: gs) = ((longestZeros gs).1 + 1, (longestZeros gs).2) := by
        simp [longestZeros, hle]
      rw [hrun, Nat.add_right_comm, List.drop_succ_cons, List.take_succ_cons, List.cons_append,
        List.cons_append, ih]

/-- What has no colon is passed over in the search for a double one. -/
theorem splitDouble?_append {t : Text} (h : .char ':' ∉ t) (rest : Text) :
    splitDouble? (t ++ rest) = (splitDouble? rest).map fun (l, r) => (t ++ l, r) := by
  induction t with
  | nil => simp
  | cons c t ih =>
    have hc : c ≠ .char ':' := fun hc => h (hc ▸ List.mem_cons_self)
    have ht := ih fun hmem => h (List.mem_cons_of_mem c hmem)
    rw [List.cons_append, splitDouble?, ht, Option.map_map]
    · rfl
    · intro cs hcs
      exact absurd hcs hc

theorem splitDouble?_colon_cons {c : CodePoint} (h : c ≠ .char ':') (t : Text) :
    splitDouble? (.char ':' :: c :: t) =
      (splitDouble? (c :: t)).map fun (l, r) => (.char ':' :: l, r) := by
  rw [splitDouble?]
  intro cs _ hcs
  exact absurd (List.cons.inj hcs).1 h

/-- No double colon is met before the end of groups that are written in full. -/
theorem splitDouble?_plain_append (gs : List Nat) (rest : Text) :
    splitDouble? (plain gs ++ rest) = (splitDouble? rest).map fun (l, r) => (plain gs ++ l, r) := by
  have hcolon : ∀ g, .char ':' ∉ numeral 16 g := fun g hmem =>
    (isDigit_of_mem_numeral (by decide) (by decide) hmem).ne (by decide) rfl
  induction gs with
  | nil => simp [plain, joined]
  | cons g gs ih =>
    cases gs with
    | nil => exact splitDouble?_append (hcolon g) rest
    | cons g' gs =>
      -- one colon stands between two numerals, and a digit follows it
      obtain ⟨c, t, hct, hdigit⟩ := exists_plain_eq_cons g' gs
      rw [plain_cons_cons, List.append_assoc, splitDouble?_append (hcolon g), List.cons_append]
      rw [hct, List.cons_append] at ih ⊢
      rw [splitDouble?_colon_cons (hdigit.ne (by decide)), ih, Option.map_map, Option.map_map]
      simp only [Function.comp_def, List.append_assoc, List.cons_append]

/-! #### Whole addresses -/

theorem mem_write {n : Nat} {c : CodePoint} (h : c ∈ write n) : c = .char ':' ∨ IsDigit c := by
  rw [write] at h
  dsimp only at h
  split at h
  · rw [List.mem_append, List.mem_append] at h
    obtain (h | h) | h := h
    · exact mem_plain h
    · exact .inl (by simpa [ofString] using h)
    · exact mem_plain h
  · exact mem_plain h

/-- A text without points has no dotted part. -/
theorem expandDotted?_of_not_mem {t : Text} (h : .char '.' ∉ t) : expandDotted? t = some t := by
  have hlast : (afterLast ':' t).contains (.char '.') = false := by
    rw [List.contains_eq_mem, decide_eq_false_iff_not, afterLast, List.mem_reverse]
    intro hmem
    exact h (List.mem_reverse.mp ((List.takeWhile_sublist _).mem hmem))
  rw [expandDotted?]
  simp only [hlast, Bool.false_eq_true, ↓reduceIte]

theorem read?_write {n : Nat} (h : n < Nat.pow 2 Family.v6.width) : read? (write n) = some n := by
  have hpoint : .char '.' ∉ write n := fun hmem => by
    obtain hc | hc := mem_write hmem
    · cases hc
    · exact hc.ne (by decide) rfl
  have hlt : ∀ g ∈ ofNat n, g < 65536 := fun g => lt_of_mem_ofNat
  rw [read?, expandDotted?_of_not_mem hpoint, Option.bind_eq_bind, Option.bind_some, write]
  have hgroups := take_append_replicate_append_drop (ofNat n)
  generalize longestZeros (ofNat n) = run at hgroups ⊢
  obtain ⟨start, length⟩ := run
  dsimp only at hgroups ⊢
  by_cases hrun : 2 ≤ length
  · -- the run stands where the double colon is, and has as many groups as are missing
    have hsplit : splitDouble? (plain ((ofNat n).take start) ++ "::" ++
        plain ((ofNat n).drop (start + length))) =
          some (plain ((ofNat n).take start), plain ((ofNat n).drop (start + length))) := by
      rw [List.append_assoc, splitDouble?_plain_append]
      simp [ofString, splitDouble?]
    have hleft : list? (plain ((ofNat n).take start)) = some ((ofNat n).take start) :=
      list?_plain fun g hg => hlt g (List.mem_of_mem_take hg)
    have hright : list? (plain ((ofNat n).drop (start + length))) =
        some ((ofNat n).drop (start + length)) :=
      list?_plain fun g hg => hlt g (List.mem_of_mem_drop hg)
    have hlen := congrArg List.length hgroups
    rw [List.length_append, List.length_append, List.length_replicate, length_ofNat] at hlen
    have hgap : count - ((ofNat n).take start).length -
        ((ofNat n).drop (start + length)).length = length := by omega
    rw [if_pos hrun, hsplit]
    simp only [hleft, hright, Option.bind_eq_bind, Option.bind_some]
    rw [if_pos (by omega), hgap, hgroups, value_ofNat h]
  · have hsplit : splitDouble? (plain (ofNat n)) = none := by
      have hplain := splitDouble?_plain_append (ofNat n) []
      rwa [List.append_nil] at hplain
    rw [if_neg hrun, hsplit]
    simp only [list?_plain hlt, Option.bind_eq_bind, Option.bind_some]
    rw [if_pos (length_ofNat n), value_ofNat h]

end Groups

/-! ### Addresses -/

namespace Address

/-- An address is known by its family and its number. -/
theorem eq_of_value_eq {a b : Address} (hfamily : a.family = b.family)
    (hvalue : a.value = b.value) : a = b := by
  obtain ⟨family, value, value_lt⟩ := a
  obtain rfl : family = b.family := hfamily
  obtain rfl : value = b.value := hvalue
  rfl

/-- An address is given by its family and its number. -/
theorem ofNat_value (a : Address) : ofNat a.family a.value = a :=
  eq_of_value_eq rfl (Nat.mod_eq_of_lt a.value_lt)

/-- The text of an address is made of digits, points and colons. -/
theorem mem_text {a : Address} {c : CodePoint} (h : c ∈ a.text) :
    c = .char '.' ∨ c = .char ':' ∨ IsDigit c := by
  rw [text] at h
  split at h
  · exact (Dotted.mem_write h).imp_right .inr
  · exact .inr (Groups.mem_write h)

/-- In the text of an address stand digits, points and colons only. -/
theorem not_mem_text (a : Address) {sep : Char} (hsep : ∀ d < 16, d.digitChar ≠ sep)
    (hpoint : sep ≠ '.') (hcolon : sep ≠ ':') : .char sep ∉ a.text := by
  intro h
  obtain hc | hc | hc := mem_text h
  · exact hpoint (CodePoint.char.inj hc)
  · exact hcolon (CodePoint.char.inj hc)
  · exact hc.ne hsep rfl

/-- A text without a percent sign has no scope. -/
theorem splitScope?_of_not_mem {t : Text} (h : .char '%' ∉ t) : splitScope? t = some (t, none) := by
  have hnone : startingAt '%' t = [] := by
    refine List.dropWhile_eq_nil_iff.mpr fun c hc => ?_
    simpa using fun hsep : c = .char '%' => h (hsep ▸ hc)
  rw [splitScope?, hnone]

/-- **The text of an address is read back.** -/
theorem read?_text (a : Address) : read? a.text = some ⟨a, none⟩ := by
  have hslash : a.text.contains (.char '/') = false := by
    rw [List.contains_eq_mem, decide_eq_false_iff_not]
    exact a.not_mem_text (by decide) (by decide) (by decide)
  have hscope := splitScope?_of_not_mem
    (a.not_mem_text (by decide) (by decide) (by decide))
  rw [read?, hslash, if_neg Bool.false_ne_true]
  cases a with
  | mk family value value_lt =>
    cases family with
    | v4 =>
      simp only [text, Dotted.read?_write value_lt, ofNat, Nat.mod_eq_of_lt value_lt]
    | v6 =>
      have hpoint : .char '.' ∉ Groups.write value := fun hmem => by
        obtain hc | hc := Groups.mem_write hmem
        · cases hc
        · exact hc.ne (by decide) rfl
      simp only [text] at hscope ⊢
      simp only [Dotted.read?_of_not_mem hpoint, hscope, Groups.read?_write value_lt, ofNat,
        Nat.mod_eq_of_lt value_lt, Option.bind_eq_bind, Option.bind_some, Option.pure_def]

/-- An address is known by its text. -/
theorem text_injective {a b : Address} (h : a.text = b.text) : a = b := by
  have hread := a.read?_text
  rw [h, read?_text] at hread
  cases hread
  rfl

end Address

end NetSurvey
