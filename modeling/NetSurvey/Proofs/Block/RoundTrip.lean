import NetSurvey.Proofs.Block.Hosts
import NetSurvey.Proofs.Number.ReadBack
import NetSurvey.Proofs.Text.Trim

/-!
# The text of a block is read back

A block is written as its base, its scope if it has one, and the length of its prefix. The base is
masked already and a scope ends with no blank, so trimming, splitting at the slash and masking take
nothing away, and the text is read as the same block (`Block.ofText_text`). Around every other
address of the block lies the block without its scope (`Block.around_of_contains`), and the hosts of
a block do not depend on the scope.

Main statement: `Block.text_reads_back`.
-/

namespace NetSurvey

open Text

/-! ### Addresses with a scope -/

/-- A code point of a text stands in one of the fields, unless it is the separator. -/
theorem Text.exists_mem_fields {sep c : CodePoint} {t : Text} (hc : c ∈ t) (hne : c ≠ sep) :
    ∃ f ∈ fields sep t, c ∈ f := by
  rw [← joined_fields sep t] at hc
  exact (mem_joined hc).resolve_left fun h => hne (List.mem_singleton.mp h)

theorem Dotted.read?_of_mem {t : Text} {c : CodePoint} (hc : c ∈ t) (hpoint : c ≠ .char '.')
    (hdigit : isAsciiDigit c = false) : read? t = none := by
  obtain ⟨f, hf, hcf⟩ := exists_mem_fields hc hpoint
  have hnone : octet? f = none := by
    have hall : f.all isAsciiDigit = false := List.all_eq_false.mpr ⟨c, hcf, by simp [hdigit]⟩
    simp [octet?, hall]
  have hfields : (fields '.' t).mapM octet? = none := by
    generalize fields '.' t = fs at hf
    induction fs with
    | nil => cases hf
    | cons g gs ih =>
      rw [List.mapM_cons]
      obtain rfl | hf := List.mem_cons.mp hf
      · rw [hnone]; rfl
      · rw [ih hf]
        cases octet? g <;> rfl
  rw [read?, hfields]

namespace Address

/-- A text that can stand after the percent sign of an address. -/
structure IsScope (scope : Text) : Prop where
  ne_nil : scope ≠ []
  percent_not_mem : .char '%' ∉ scope
  slash_not_mem : .char '/' ∉ scope

/-- An address with a scope ends as the scope does. -/
theorem IsScope.getLast?_append {scope : Text} (h : IsScope scope) (front : Text) :
    (front ++ .char '%' :: scope).getLast? = scope.getLast? := by
  obtain ⟨c, rest, rfl⟩ := List.exists_cons_of_ne_nil h.ne_nil
  rw [List.getLast?_append_cons, List.getLast?_cons_cons]

theorem read?_text_scope {a : Address} (hfamily : a.family = .v6) {scope : Text}
    (h : IsScope scope) : read? (a.text ++ .char '%' :: scope) = some ⟨a, some scope⟩ := by
  have hpercent : .char '%' ∉ a.text := a.not_mem_text (by decide) (by decide) (by decide)
  have hslash : (a.text ++ .char '%' :: scope).contains (.char '/') = false := by
    have htext : .char '/' ∉ a.text := a.not_mem_text (by decide) (by decide) (by decide)
    simp [htext, h.slash_not_mem]
  have hdotted : Dotted.read? (a.text ++ .char '%' :: scope) = none :=
    Dotted.read?_of_mem (c := .char '%') (by simp) (by decide) (by decide)
  have hne : ∀ c ∈ a.text, decide (c ≠ .char '%') = true := fun c hc =>
    decide_eq_true fun heq => hpercent (heq ▸ hc)
  have hsplit : splitScope? (a.text ++ .char '%' :: scope) = some (a.text, some scope) := by
    have hstart : startingAt '%' (a.text ++ .char '%' :: scope) = .char '%' :: scope := by
      rw [startingAt, List.dropWhile_append_of_pos hne, List.dropWhile_cons_of_neg (by simp)]
    have hbefore : before '%' (a.text ++ .char '%' :: scope) = a.text := by
      rw [before, List.takeWhile_append_of_pos hne, List.takeWhile_cons_of_neg (by simp),
        List.append_nil]
    have hscope : (scope.isEmpty || scope.contains (.char '%')) = false := by
      simp [h.ne_nil, h.percent_not_mem]
    rw [splitScope?, hstart]
    simp only [hscope, Bool.false_eq_true, if_false, hbefore]
  have hread : Groups.read? a.text = some a.value := by
    have hlt := a.value_lt
    rw [hfamily] at hlt
    rw [text, hfamily]
    exact Groups.read?_write hlt
  have ha : ofNat .v6 a.value = a := hfamily ▸ a.ofNat_value
  rw [read?, hslash, if_neg Bool.false_ne_true, hdotted]
  simp only [hsplit, hread, ha, Option.bind_eq_bind, Option.bind_some, Option.pure_def]

theorem isBlank_of_mem_text (a : Address) {c : CodePoint} (h : c ∈ a.text) : isBlank c = false := by
  obtain rfl | rfl | ⟨d, hd, rfl⟩ := mem_text h
  · rfl
  · rfl
  · have hdigit : ∀ d < 16, isBlank (.char d.digitChar) = false := by decide
    exact hdigit d hd

theorem slash_not_mem_of_read? {t : Text} {a : Scoped} (h : read? t = some a) : .char '/' ∉ t := by
  intro hmem
  have hslash : t.contains (.char '/') = true := by simpa using hmem
  rw [read?, if_pos hslash] at h
  cases h

theorem of_splitScope? {t front scope : Text} (h : splitScope? t = some (front, some scope)) :
    t = front ++ .char '%' :: scope ∧ scope ≠ [] ∧ .char '%' ∉ scope := by
  have hcut := before_append_startingAt (.char '%') t
  rw [splitScope?] at h
  cases hstart : startingAt '%' t with
  | nil =>
    rw [hstart] at h
    cases h
  | cons c rest =>
    have hpercent : c = .char '%' := by
      have hnot := List.head?_dropWhile_not (fun c => decide (c ≠ .char '%')) t
      rw [show t.dropWhile _ = c :: rest from hstart] at hnot
      simpa using hnot
    rw [hstart] at h hcut
    subst hpercent
    simp only [Option.ite_none_left_eq_some, Bool.or_eq_true, not_or] at h
    obtain ⟨⟨hne, hmem⟩, hparts⟩ := h
    obtain ⟨rfl, rfl⟩ : before '%' t = front ∧ rest = scope := by simpa using hparts
    exact ⟨hcut.symm, by simpa using hne, by simpa using hmem⟩

/-- A scope that was read stands at the end of the text, and the address is one of 128 bits. -/
theorem of_read?_scope {t scope : Text} {a : Address} (h : read? t = some ⟨a, some scope⟩) :
    a.family = .v6 ∧ IsScope scope ∧ ∃ front, t = front ++ .char '%' :: scope := by
  have hslash := slash_not_mem_of_read? h
  have hcontains : t.contains (.char '/') = false := by simpa using hslash
  rw [read?, hcontains, if_neg Bool.false_ne_true] at h
  cases hdotted : Dotted.read? t with
  | some n =>
    rw [hdotted] at h
    cases h
  | none =>
    rw [hdotted] at h
    obtain ⟨⟨front, found⟩, hsplit, h⟩ := Option.bind_eq_some_iff.mp h
    obtain ⟨n, -, h⟩ := Option.bind_eq_some_iff.mp h
    obtain ⟨rfl, rfl⟩ := Scoped.mk.inj (Option.some.inj h)
    obtain ⟨rfl, hne, hpercent⟩ := of_splitScope? hsplit
    have hslash : .char '/' ∉ scope := fun hmem =>
      hslash (List.mem_append_right _ (List.mem_cons_of_mem _ hmem))
    exact ⟨rfl, ⟨hne, hpercent, hslash⟩, front, rfl⟩

end Address

/-! ### Masks -/

namespace Block

/-- A mask keeps the bits of the prefix and clears the others. -/
theorem testBit_mask (a : Address) (length i : Nat) :
    (mask a length).value.testBit i =
      if i < a.family.width - length then false else a.value.testBit i := by
  have hvalue : (mask a length).value =
      2 ^ (a.family.width - length) * (a.value / 2 ^ (a.family.width - length)) := by
    have hsplit := Nat.div_add_mod a.value (2 ^ (a.family.width - length))
    simp only [mask, Nat.pow_eq]
    omega
  rw [hvalue, Nat.testBit_two_pow_mul, Nat.testBit_div_two_pow]
  split
  · next h => rw [decide_eq_false (by omega), Bool.false_and]
  · next h => rw [decide_eq_true (by omega), Bool.true_and, Nat.sub_add_cancel (by omega)]

/-- The base of a block is masked already, so the block around it is the same one. -/
theorem around_base (b : Block) :
    around ⟨b.base, b.scope⟩ b.prefixLength b.prefixLength_le = b := by
  have hbase : mask b.base b.prefixLength = b.base := by
    simp only [mask, b.aligned, Nat.sub_zero]
  cases b
  simp only [around, hbase, if_true]

/-! ### Reading -/

/-- The length of a prefix is read back. -/
theorem read_numeral_of_le {family : Family} {length : Nat} (h : length ≤ family.width) :
    Integer.read (numeral 10 length) = .ok (length : Int) := by
  have hwidth : family.width ≤ 128 := by cases family <;> decide
  have hshort : (numeral 10 length).length ≤ 3 := by
    rw [numeral, List.length_map, Nat.length_toDigits_le_iff (by decide) (by decide)]
    omega
  have hread := Integer.read?_numeral length
  rw [if_neg (by rw [Integer.digitLimit]; omega), Integer.read?] at hread
  cases hresult : Integer.read (numeral 10 length) with
  | error e =>
    rw [hresult] at hread
    cases hread
  | ok n =>
    rw [hresult] at hread
    exact congrArg _ (Option.some.inj hread)

/-- An address without blanks at its ends and a length, with a slash between them, are the block
around the address. -/
theorem ofText_append_slash {address : Text} {a : Address.Scoped} {length : Nat}
    (htrim : trim address = address) (hread : Address.read? address = some a)
    (hlength : length ≤ a.address.family.width) :
    ofText (address ++ .char '/' :: numeral 10 length) = .ok (around a length hlength) := by
  have hfields : fields '/' (address ++ .char '/' :: numeral 10 length) =
      [address, numeral 10 length] := by
    rw [fields_append_sep, fields_of_not_mem (Address.slash_not_mem_of_read? hread),
      fields_of_not_mem (Integer.not_mem_numeral length (by decide)), List.singleton_append]
  have htrim' : trim (numeral 10 length) = numeral 10 length :=
    trim_eq_self fun c => Integer.isBlank_of_mem
  have hdigits : ((numeral 10 length).isEmpty || !(numeral 10 length).all isDigitSign) = false := by
    have hall : (numeral 10 length).all isDigitSign = true := List.all_eq_true.mpr fun c hc =>
      Integer.of_mem_numeral (p := (isDigitSign · = true)) (by decide) hc
    rw [hall, List.isEmpty_eq_false_iff.mpr (numeral_ne_nil 10 length)]
    rfl
  have hfind : find? address length = some (around a length hlength) := by
    have hfits : 0 ≤ (length : Int) ∧ (length : Int).toNat ≤ a.address.family.width :=
      ⟨by omega, by omega⟩
    rw [find?, hread]
    exact dif_pos hfits
  rw [ofText, hfields]
  simp only [htrim, htrim', hdigits, Bool.false_eq_true, if_false, read_numeral_of_le hlength,
    hfind]

/-- What was read is an address and a length with a slash between them. -/
theorem exists_of_ofText {cidr : Text} {b : Block} (h : ofText cidr = .ok b) :
    ∃ (address length : Text) (a : Address.Scoped) (hle : b.prefixLength ≤ a.address.family.width),
      cidr = address ++ .char '/' :: length ∧ Address.read? (trim address) = some a ∧
        Integer.read (trim length) = .ok (b.prefixLength : Int) ∧
          b = around a b.prefixLength hle := by
  have hjoined := joined_fields (.char '/') cidr
  rw [ofText] at h
  split at h
  · next address length hfields =>
    rw [hfields] at hjoined
    dsimp only at h
    split at h
    · cases h
    split at h
    · cases h
    next n hread =>
      split at h
      · next found hfind =>
        obtain rfl := Except.ok.inj h
        obtain ⟨a, ha, hfind⟩ := Option.bind_eq_some_iff.mp hfind
        split at hfind
        · next hfits =>
          obtain rfl := Option.some.inj hfind
          refine ⟨address, length, a, hfits.2, by simpa [joined] using hjoined.symm, ha, ?_, rfl⟩
          rw [hread]
          exact congrArg _ (Int.toNat_of_nonneg hfits.1).symm
        · cases hfind
      · cases h
  · cases h

/-! ### The text of a block -/

/-- A scope that a block has was written behind an address of 128 bits, and does not end with a
blank. -/
theorem of_scope_eq_some {cidr scope : Text} {b : Block} (h : ofText cidr = .ok b)
    (hscope : b.scope = some scope) :
    b.base.family = .v6 ∧ Address.IsScope scope ∧ ∀ c ∈ scope.getLast?, isBlank c = false := by
  obtain ⟨address, length, a, hle, -, hread, -, hb⟩ := exists_of_ofText h
  have hkept : a.scope = some scope ∧ b.base = mask a.address b.prefixLength := by
    rw [hb, around] at hscope
    dsimp only at hscope
    split at hscope
    · exact ⟨hscope, congrArg base hb⟩
    · cases hscope
  obtain ⟨hfamily, hvalid, front, hfront⟩ := Address.of_read?_scope
    (show Address.read? (trim address) = some ⟨a.address, some scope⟩ by rw [hread, ← hkept.1])
  refine ⟨by rw [hkept.2]; exact hfamily, hvalid, fun c hc => ?_⟩
  refine isBlank_of_mem_getLast?_trim (t := address) ?_
  rwa [hfront, hvalid.getLast?_append]

/-- The address of the text of a block is read as its base, with its scope. -/
theorem exists_text_eq {cidr : Text} {b : Block} (h : ofText cidr = .ok b) :
    ∃ address, b.text = address ++ .char '/' :: numeral 10 b.prefixLength ∧
      trim address = address ∧ Address.read? address = some ⟨b.base, b.scope⟩ := by
  cases hscope : b.scope with
  | none =>
    refine ⟨b.base.text, ?_, trim_eq_self fun c => b.base.isBlank_of_mem_text, b.base.read?_text⟩
    simp [text, hscope, ofString]
  | some scope =>
    obtain ⟨hfamily, hvalid, hlast⟩ := of_scope_eq_some h hscope
    refine ⟨b.base.text ++ .char '%' :: scope, ?_, ?_, Address.read?_text_scope hfamily hvalid⟩
    · simp [text, hscope, ofString]
    · refine trim_eq_self_of_ends (fun c hc => ?_) ?_
      · -- The first code point is one of the address, or the percent sign where there is none.
        rw [List.head?_append, Option.mem_def, Option.or_eq_some_iff] at hc
        obtain hc | ⟨-, hc⟩ := hc
        · exact b.base.isBlank_of_mem_text (List.mem_of_mem_head? hc)
        · obtain rfl := Option.some.inj hc
          rfl
      · rwa [hvalid.getLast?_append]

/-- The text of a block that was read is read as the same block. -/
theorem ofText_text {cidr : Text} {b : Block} (h : ofText cidr = .ok b) :
    ofText b.text = .ok b := by
  obtain ⟨address, htext, htrim, hread⟩ := exists_text_eq h
  rw [htext, ofText_append_slash htrim hread b.prefixLength_le, around_base]

/-! ### Other addresses of a block -/

/-- A block without its scope. -/
def unscoped (b : Block) : Block := { b with scope := none }

/-- Around every address of a block lies the same block. -/
theorem around_of_contains {b : Block} {a : Address} (h : b.contains a = true)
    (hle : b.prefixLength ≤ a.family.width) : around ⟨a, none⟩ b.prefixLength hle = b.unscoped := by
  simp only [contains, Bool.and_eq_true, decide_eq_true_eq] at h
  have hmask : mask a b.prefixLength = b.base := Address.eq_of_value_eq h.1 h.2
  simp only [around, unscoped, hmask, ite_self]

theorem ofText_of_contains {b : Block} {a : Address} (h : b.contains a = true) :
    ofText (a.text ++ "/" ++ numeral 10 b.prefixLength) = .ok b.unscoped := by
  have hle : b.prefixLength ≤ a.family.width := family_of_contains h ▸ b.prefixLength_le
  have hread := ofText_append_slash (trim_eq_self fun c => a.isBlank_of_mem_text) a.read?_text hle
  rw [around_of_contains h] at hread
  simpa [ofString] using hread

/-- The hosts of a block do not depend on its scope. -/
theorem expand_congr_unscoped {cidr other : Text} {b : Block} (h : ofText cidr = .ok b)
    (hother : ofText other = .ok b.unscoped) (limit : Option Int) :
    expand (.text other) limit = expand (.text cidr) limit := by
  have hhosts : b.unscoped.hosts = b.hosts := by
    rw [hosts_eq, hosts_eq]
    rfl
  have hcount : b.unscoped.hostCount = b.hostCount := rfl
  simp only [expand, ofDatum, h, hother, hhosts, hcount]

/-- **Blocks are read back.** A block is read from an address and the length of a prefix: its base
has the bits of the address within the prefix, and zeros in all others. Its text is read as the same
block, with its scope if it has one. And with the text of any address that a walk through the block
meets in the place of the one that was written, the same addresses are read, and the same hosts are
listed under every limit. -/
theorem text_reads_back {cidr : Text} {b : Block} (h : ofText cidr = .ok b) :
    (∃ (address length : Text) (a : Address.Scoped),
      cidr = address ++ .char '/' :: length ∧ Address.read? (trim address) = some a ∧
      Integer.read (trim length) = .ok (b.prefixLength : Int) ∧ a.address.family = b.family ∧
      ∀ i, b.base.value.testBit i =
        if i < b.family.width - b.prefixLength then false else a.address.value.testBit i) ∧
    ofText b.text = .ok b ∧
    ∀ limit, ∀ t ∈ (b.walk limit).map Address.text,
      (∃ other, ofText (t ++ "/" ++ numeral 10 b.prefixLength) = .ok other ∧
        other.family = b.family ∧ other.prefixLength = b.prefixLength ∧
          other.base.toOctets = b.base.toOctets) ∧
      ∀ hosts, expand (.text (t ++ "/" ++ numeral 10 b.prefixLength)) hosts =
        expand (.text cidr) hosts := by
  refine ⟨?_, ofText_text h, ?_⟩
  · obtain ⟨address, length, a, hle, hcidr, hread, hlength, hb⟩ := exists_of_ofText h
    have hbase : b.base = mask a.address b.prefixLength := congrArg base hb
    refine ⟨address, length, a, hcidr, hread, hlength, ?_, fun i => ?_⟩
    · rw [family, hbase]
      rfl
    · rw [family, hbase]
      exact testBit_mask a.address b.prefixLength i
  · intro limit t ht
    rw [walk_eq] at ht
    obtain ⟨a, ha, rfl⟩ := List.mem_map.mp ht
    have hcontains := mem_addresses_iff.mp (List.mem_of_mem_take ha)
    have hother := ofText_of_contains hcontains
    exact ⟨⟨b.unscoped, hother, rfl, rfl, rfl⟩, expand_congr_unscoped h hother⟩

/-- A block of two addresses with a scope. -/
def scopedPair : Block where
  base := .ofNat .v6 (0xFE80 * Nat.pow 2 112)
  prefixLength := 127
  scope := some "e 1"
  prefixLength_le := by decide
  aligned := by decide

/-- A block that was written in capitals, with blanks around the parts and zeros before the
length. -/
theorem text_reads_back_scoped :
    ∃ b : Block, ofText " FE80::%e 1\t/ 0127 " = .ok b ∧ b.text = ofString "fe80::%e 1/127" ∧
      ofText "fe80::%e 1/127" = .ok b ∧ ofString "fe80::1" ∈ (b.walk 5).map Address.text ∧
      expand (.text "fe80::1/127") none = expand (.text " FE80::%e 1\t/ 0127 ") none := by
  have hread : ofText " FE80::%e 1\t/ 0127 " = .ok scopedPair := by rfl
  have hmem : ofString "fe80::1" ∈ (scopedPair.walk 5).map Address.text := by decide +kernel
  obtain ⟨-, htext, hwalk⟩ := text_reads_back hread
  exact ⟨scopedPair, hread, rfl, htext, hmem, (hwalk 5 _ hmem).2 none⟩

end Block

end NetSurvey
