import NetSurvey.Datum.Json
import NetSurvey.Proofs.Activity

/-!
# What is read from bytes is no bigger than the bytes

Every code point of a text takes at least one byte (`Encoding.length_of_read?`), and every code
point of a string, every item of a list and every field of a record takes at least one code point of
the text that it is read from. `Datum.weight` counts these, and reading takes at least as much off a
text as what is read weighs. The reader has fuel and calls itself in three ways, so that is said of
all three at once for an amount of fuel (`Json.TakesOff`), and each step is from one amount to the
next.
-/

namespace NetSurvey

open Text

/-! ### Encodings -/

namespace Text

/-- Taking each item of a list to another one, if that is possible for all of them, keeps their
number. -/
theorem length_of_mapM {α β : Type} {f : α → Option β} {as : List α} {bs : List β}
    (h : as.mapM f = some bs) : bs.length = as.length := by
  induction as generalizing bs with
  | nil => cases h; rfl
  | cons a as ih =>
    rw [List.mapM_cons] at h
    obtain ⟨b, -, h⟩ := Option.bind_eq_some_iff.mp h
    obtain ⟨bs', hbs, h⟩ := Option.bind_eq_some_iff.mp h
    obtain rfl := Option.some.inj h
    rw [List.length_cons, List.length_cons, ih hbs]

/-- Whatever is found in bytes, each part of it takes at least one byte. -/
theorem length_scanUtf8_le (halves : Bool) (bytes : List UInt8) :
    (scanUtf8 halves bytes).length ≤ bytes.length := by
  fun_induction scanUtf8 halves bytes <;>
    simp only [List.length_cons, List.length_nil] at * <;> omega

/-- A code point takes at most four bytes in UTF-8. -/
theorem length_encodeUtf8?_le {t : Text} {bytes : List UInt8} (h : encodeUtf8? t = some bytes) :
    bytes.length ≤ 4 * t.length := by
  obtain ⟨parts, hparts, rfl⟩ := Option.map_eq_some_iff.mp h
  clear h
  induction t generalizing parts with
  | nil => cases hparts; exact Nat.le_refl _
  | cons c t ih =>
    rw [List.mapM_cons] at hparts
    obtain ⟨part, hpart, hparts⟩ := Option.bind_eq_some_iff.mp hparts
    obtain ⟨rest, hrest, hparts⟩ := Option.bind_eq_some_iff.mp hparts
    obtain rfl := Option.some.inj hparts
    have hle := ih rest hrest
    have hfour : part.length ≤ 4 := by
      cases c with
      | half n => cases hpart
      | char c =>
        obtain rfl := Option.some.inj hpart
        rw [String.length_utf8EncodeChar]
        exact Char.utf8Size_le_four c
    simp only [List.flatten_cons, List.length_append, List.length_cons]
    omega

namespace Encoding

theorem length_units16?_le {order : ByteOrder} {bytes : List UInt8} {units : List Nat}
    (h : units16? order bytes = some units) : units.length ≤ bytes.length := by
  fun_induction units16? order bytes generalizing units with
  | case1 => cases h; exact Nat.le_refl _
  | case2 => cases h
  | case3 a b rest ih =>
    obtain ⟨units, hunits, rfl⟩ := Option.map_eq_some_iff.mp h
    have hle := ih hunits
    simp only [List.length_cons]
    omega

theorem length_units32?_le {order : ByteOrder} {bytes : List UInt8} {units : List Nat}
    (h : units32? order bytes = some units) : units.length ≤ bytes.length := by
  fun_induction units32? order bytes generalizing units with
  | case1 a b c d rest ih =>
    obtain ⟨units, hunits, rfl⟩ := Option.map_eq_some_iff.mp h
    have hle := ih hunits
    simp only [List.length_cons]
    omega
  | case2 => cases h; exact Nat.le_refl _
  | case3 => cases h

/-- A code point takes one unit of 16 bits, or two. -/
theorem length_ofUnits16_le (units : List Nat) : (ofUnits16 units).length ≤ units.length := by
  fun_induction ofUnits16 units <;> simp only [List.length_cons, List.length_nil] at * <;> omega

/-- A code point takes at least one byte in each of the encodings. -/
theorem length_decode?_le {encoding : Encoding} {bytes : List UInt8} {t : Text}
    (h : encoding.decode? bytes = some t) : t.length ≤ bytes.length := by
  cases encoding with
  | utf8 =>
    rw [decode?] at h
    rw [length_of_mapM h]
    exact length_scanUtf8_le ..
  | utf16 order =>
    obtain ⟨units, hunits, rfl⟩ := Option.map_eq_some_iff.mp h
    exact Nat.le_trans (length_ofUnits16_le units) (length_units16?_le hunits)
  | utf32 order =>
    obtain ⟨units, hunits, ht⟩ := Option.bind_eq_some_iff.mp h
    rw [ofUnits32?] at ht
    rw [length_of_mapM ht]
    exact length_units32?_le hunits

/-- The mark that tells an encoding is taken off the bytes, and nothing is added to them. -/
theorem length_detect_le (bytes : List UInt8) : (detect bytes).2.length ≤ bytes.length := by
  fun_cases detect bytes <;> simp only [List.length_cons] <;> omega

/-- A text has no more code points than bytes. -/
theorem length_of_read? {bytes : List UInt8} {t : Text} (h : read? bytes = some t) :
    t.length ≤ bytes.length :=
  Nat.le_trans (length_decode?_le h) (length_detect_le bytes)

end Encoding

end Text

/-! ### Weights -/

namespace Datum

mutual

/-- How much a datum holds: code points, items and fields. -/
def weight : Datum → Nat
  | text s => s.length + 1
  | list items => weightOfItems items + 1
  | record fields => weightOfFields fields + 1
  | _ => 1

/-- How much the items of a list hold. -/
def weightOfItems : List Datum → Nat
  | [] => 0
  | d :: ds => d.weight + weightOfItems ds

/-- How much the fields of a record hold, their names aside. -/
def weightOfFields : List (Text × Datum) → Nat
  | [] => 0
  | (_, d) :: fields => d.weight + weightOfFields fields

end

theorem weight_number (n : Number) : (number n).weight = 1 := rfl

/-- Every datum holds something, be it only itself. -/
theorem weight_pos (d : Datum) : 0 < d.weight := by
  cases d <;> simp [weight]

/-- Every item adds to what a list holds, so there are no more items than that. -/
theorem length_le_weightOfItems (ds : List Datum) : ds.length ≤ weightOfItems ds := by
  induction ds with
  | nil => exact Nat.le_refl _
  | cons d ds ih =>
    have hpos := d.weight_pos
    simp only [List.length_cons, weightOfItems]
    omega

/-- Setting a field adds no more than its value. -/
theorem weightOfFields_set_le (fields : Fields) (key : Text) (d : Datum) :
    weightOfFields (fields.set key d) ≤ weightOfFields fields + d.weight := by
  induction fields with
  | nil => simp [Fields.set, weightOfFields]
  | cons field fields ih =>
    obtain ⟨k, v⟩ := field
    rw [Fields.set]
    split <;> simp only [weightOfFields] <;> omega

/-- A field holds no more than all fields together. -/
theorem weight_le_of_get? {fields : Fields} {key : Text} {d : Datum}
    (h : fields.get? key = some d) : d.weight ≤ weightOfFields fields := by
  induction fields with
  | nil => cases h
  | cons field fields ih =>
    obtain ⟨k, v⟩ := field
    rw [Fields.get?, List.lookup_cons] at h
    rw [weightOfFields]
    split at h
    · obtain rfl := Option.some.inj h
      omega
    · have hle := ih h
      omega

end Datum

namespace Json

open Datum

theorem length_skip_le (cs : Text) : (skip cs).length ≤ cs.length :=
  (List.dropWhile_sublist _).length_le

/-- What follows a code point after blanks is shorter than the whole. -/
theorem length_of_skip {cs rest : Text} {c : CodePoint} (h : skip cs = c :: rest) :
    rest.length < cs.length := by
  have hle := length_skip_le cs
  rw [h, List.length_cons] at hle
  omega

theorem length_of_hex4? {cs rest : Text} {n : Nat} (h : hex4? cs = some (n, rest)) :
    rest.length < cs.length := by
  fun_cases hex4? cs with
  | case1 a b c d cs =>
    simp only [hex4?, Option.bind_eq_bind, Option.bind_eq_some_iff] at h
    obtain ⟨_, -, _, -, _, -, _, -, h⟩ := h
    obtain ⟨-, rfl⟩ := Prod.mk.inj (Option.some.inj h)
    simp only [List.length_cons]
    omega
  | case2 => simp_all [hex4?]

/-- The second half of a pair takes something off a text: its digits and what announces them. -/
theorem length_of_secondHalf? {cs rest : Text} {n : Nat} (h : secondHalf? cs = some (n, rest)) :
    rest.length < cs.length := by
  revert h
  fun_cases secondHalf? cs with
  | case1 cs m rest' hhex hhalf =>
    intro h
    obtain ⟨-, rfl⟩ := Prod.mk.inj (Option.some.inj h)
    have hlt := length_of_hex4? hhex
    simp only [List.length_cons]
    omega
  | case2 | case3 | case4 => nofun

/-- A code point that is written by its number, or by those of two halves, takes something off a
text. -/
theorem length_of_numbered? {cs rest : Text} {c : CodePoint} (h : numbered? cs = some (c, rest)) :
    rest.length < cs.length := by
  obtain ⟨⟨n, rest'⟩, hhex, h⟩ := Option.bind_eq_some_iff.mp h
  have hlt := length_of_hex4? hhex
  dsimp only at h
  split at h
  · next m rest'' hsecond =>
    obtain ⟨-, rfl⟩ := Prod.mk.inj (Option.some.inj h)
    split at hsecond
    · have hle := length_of_secondHalf? hsecond
      omega
    · cases hsecond
  · obtain ⟨-, rfl⟩ := Prod.mk.inj (Option.some.inj h)
    exact hlt

/-- Every code point of a string takes one off the text, and its end another one. -/
theorem length_of_stringFrom {fuel : Nat} {taken cs s rest : Text}
    (h : stringFrom fuel taken cs = .ok (s, rest)) :
    s.length + rest.length < taken.length + cs.length := by
  fun_induction stringFrom fuel taken cs with
  | case1 | case2 | case5 | case7 | case8 => cases h
  | case3 fuel taken cs =>
    obtain ⟨rfl, rfl⟩ := Prod.mk.inj (Except.ok.inj h)
    simp only [List.length_reverse, List.length_cons]
    omega
  | case4 fuel taken cs c rest' hnumbered ih =>
    have hlt := length_of_numbered? hnumbered
    have hle := ih h
    simp only [List.length_cons] at hle ⊢
    omega
  | case6 fuel taken e cs _ c hescape ih =>
    have hle := ih h
    simp only [List.length_cons] at hle ⊢
    omega
  | case9 fuel taken c cs _ _ _ hcontrol ih =>
    have hle := ih h
    simp only [List.length_cons] at hle ⊢
    omega

/-! ### Numbers and words -/

/-- The digits at the front of a text and the rest of it are the text. -/
theorem length_digits (cs : Text) : (digits cs).1.length + (digits cs).2.length = cs.length := by
  rw [digits, ← List.length_append, List.takeWhile_append_dropWhile]

theorem length_wholeDigits (cs : Text) :
    (wholeDigits cs).1.length + (wholeDigits cs).2.length = cs.length := by
  fun_cases wholeDigits cs with
  | case1 cs => simp only [List.length_cons, List.length_nil]; omega
  | case2 cs => exact length_digits cs

/-- A fraction is taken off a text, or nothing is: a point without digits is left where it is. -/
theorem length_fraction_le (cs : Text) : (fraction cs).2.length ≤ cs.length := by
  fun_cases fraction cs with
  | case1 cs rest hdigits => exact Nat.le_refl _
  | case2 cs ds rest hne hdigits =>
    have hlength := length_digits cs
    rw [hdigits] at hlength
    simp only [List.length_cons] at hlength ⊢
    omega
  | case3 => exact Nat.le_refl _

/-- An exponent is taken off a text, or nothing is: a letter without digits is left where it is. -/
theorem length_exponent_le (cs : Text) : (exponent cs).2.length ≤ cs.length := by
  fun_cases exponent cs with
  | case1 c cs h sign after hsign rest hdigits => exact Nat.le_refl _
  | case2 c cs h sign after hsign ds rest hne hdigits =>
    have hlength := length_digits after
    have hafter : after.length ≤ cs.length := by
      split at hsign <;> obtain ⟨-, rfl⟩ := Prod.mk.inj hsign <;> simp
    rw [hdigits] at hlength
    simp only [List.length_cons] at hlength ⊢
    omega
  | case3 | case4 => exact Nat.le_refl _

/-- A number takes at least one digit off a text, which is as much as it holds. -/
theorem length_of_unsigned {negative : Bool} {cs rest : Text} {d : Datum}
    (h : unsigned negative cs = .ok (d, rest)) : d.weight + rest.length ≤ cs.length := by
  have hwhole := length_wholeDigits cs
  rw [unsigned] at h
  split at h
  · cases h
  · next whole after hne hdigits =>
    rw [hdigits] at hwhole
    have hfraction := length_fraction_le after
    have hexponent := length_exponent_le (fraction after).2
    have hpos : 0 < whole.length := List.length_pos_iff.mpr hne
    dsimp only at h hwhole
    split at h
    · split at h
      · cases h
      · obtain ⟨rfl, rfl⟩ := Prod.mk.inj (Except.ok.inj h)
        rw [weight_number]
        omega
    · split at h
      · obtain ⟨rfl, rfl⟩ := Prod.mk.inj (Except.ok.inj h)
        rw [weight_number]
        omega
      · cases h

/-- A word that stands for a value takes its letters off a text, and the value holds no more. -/
theorem length_of_word? {cs rest : Text} {d : Datum} (h : word? cs = some (d, rest)) :
    d.weight + rest.length ≤ cs.length := by
  obtain ⟨⟨word, d'⟩, hmem, h⟩ := List.exists_of_findSome?_eq_some h
  obtain ⟨rest', hafter, h⟩ := Option.map_eq_some_iff.mp h
  obtain ⟨rfl, rfl⟩ := Prod.mk.inj h
  have hwords : ∀ p ∈ words, p.2.weight = 1 ∧ 0 < p.1.length := by
    simp [words, weight, Text.ofString]
  obtain ⟨hweight, hpos⟩ := hwords _ hmem
  rw [after?] at hafter
  split at hafter
  · next hprefix =>
    obtain rfl := Option.some.inj hafter
    have hle := (List.isPrefixOf_iff_prefix.mp hprefix).length_le
    dsimp only at hweight hpos
    rw [hweight, List.length_drop]
    omega
  · cases hafter

/-! ### Values -/

/-- With so much fuel, reading takes at least as much off a text as what is read holds. -/
structure TakesOff (fuel : Nat) : Prop where
  value {depth : Nat} {cs rest : Text} {d : Datum} (h : value fuel depth cs = .ok (d, rest)) :
    d.weight + rest.length ≤ cs.length
  items {depth : Nat} {cs rest : Text} {ds : List Datum}
    (h : items fuel depth cs = .ok (ds, rest)) : weightOfItems ds + rest.length < cs.length
  members {depth : Nat} {fields fields' : Fields} {cs rest : Text}
    (h : members fuel depth fields cs = .ok (fields', rest)) :
    weightOfFields fields' + rest.length < weightOfFields fields + cs.length

namespace TakesOff

variable {fuel depth : Nat} {cs rest : Text} (hfuel : TakesOff fuel)
include hfuel

/-- A string takes its code points and its quotation marks off the text, and a list or a record its
brackets besides what its items or fields take. -/
theorem value_succ {d : Datum} (h : Json.value (fuel + 1) depth cs = .ok (d, rest)) :
    d.weight + rest.length ≤ cs.length := by
  unfold Json.value at h
  split at h
  · next cs =>
    obtain ⟨⟨s, rest'⟩, hs, h⟩ := map_eq_ok_iff.mp h
    obtain ⟨rfl, rfl⟩ := Prod.mk.inj h
    have hlt := length_of_stringFrom hs
    simp only [weight, List.length_cons, List.length_nil] at hlt ⊢
    omega
  · next cs =>
    split at h
    · cases h
    split at h
    · next rest' hend =>
      obtain ⟨rfl, rfl⟩ := Prod.mk.inj (Except.ok.inj h)
      have hlt := length_of_skip hend
      simp only [weight, weightOfItems, List.length_cons]
      omega
    · obtain ⟨⟨ds, rest'⟩, hds, h⟩ := map_eq_ok_iff.mp h
      obtain ⟨rfl, rfl⟩ := Prod.mk.inj h
      have hlt := hfuel.items hds
      have hskip := length_skip_le cs
      simp only [weight, List.length_cons]
      omega
  · next cs =>
    split at h
    · cases h
    split at h
    · next rest' hend =>
      obtain ⟨rfl, rfl⟩ := Prod.mk.inj (Except.ok.inj h)
      have hlt := length_of_skip hend
      simp only [weight, weightOfFields, List.length_cons]
      omega
    · obtain ⟨⟨fields, rest'⟩, hfields, h⟩ := map_eq_ok_iff.mp h
      obtain ⟨rfl, rfl⟩ := Prod.mk.inj h
      have hlt := hfuel.members hfields
      have hskip := length_skip_le cs
      simp only [weight, weightOfFields, List.length_cons] at hlt ⊢
      omega
  · split at h
    · next read hword =>
      obtain rfl := Except.ok.inj h
      exact length_of_word? hword
    split at h
    · have hle := length_of_unsigned h
      simp only [List.length_cons]
      omega
    · exact length_of_unsigned h

/-- Each item takes as much off the text as it holds, and the comma or the bracket after it one
more. -/
theorem items_succ {ds : List Datum} (h : Json.items (fuel + 1) depth cs = .ok (ds, rest)) :
    weightOfItems ds + rest.length < cs.length := by
  unfold Json.items at h
  obtain ⟨⟨d, rest₁⟩, hd, h⟩ := bind_eq_ok_iff.mp h
  have hle := hfuel.value hd
  have hskip := length_skip_le cs
  dsimp only at h
  split at h
  · next rest₂ hrest =>
    obtain ⟨⟨ds, rest₃⟩, hds, h⟩ := bind_eq_ok_iff.mp h
    obtain ⟨rfl, rfl⟩ := Prod.mk.inj (Except.ok.inj h)
    have hlt := hfuel.items hds
    have hcomma := length_of_skip hrest
    simp only [weightOfItems]
    omega
  · next rest₂ hrest =>
    obtain ⟨rfl, rfl⟩ := Prod.mk.inj (Except.ok.inj h)
    have hend := length_of_skip hrest
    simp only [weightOfItems]
    omega
  · cases h

/-- Each field takes as much off the text as its value holds, and its name and what stands around it
more. Where the name has been there before, the new value replaces the former one. -/
theorem members_succ {fields fields' : Fields}
    (h : Json.members (fuel + 1) depth fields cs = .ok (fields', rest)) :
    weightOfFields fields' + rest.length < weightOfFields fields + cs.length := by
  unfold Json.members at h
  split at h
  · next cs₁ hcs =>
    have hquote := length_of_skip hcs
    obtain ⟨⟨key, rest₁⟩, hkey, h⟩ := bind_eq_ok_iff.mp h
    have hname := length_of_stringFrom hkey
    dsimp only at h
    split at h
    · next rest₂ hrest₁ =>
      have hcolon := length_of_skip hrest₁
      obtain ⟨⟨d, rest₃⟩, hd, h⟩ := bind_eq_ok_iff.mp h
      have hvalue := hfuel.value hd
      have hskip := length_skip_le rest₂
      have hset := weightOfFields_set_le fields key d
      dsimp only at h
      rw [List.length_nil] at hname
      split at h
      · next rest₄ hrest₃ =>
        have hcomma := length_of_skip hrest₃
        have hmore := hfuel.members h
        omega
      · next rest₄ hrest₃ =>
        have hend := length_of_skip hrest₃
        obtain ⟨rfl, rfl⟩ := Prod.mk.inj (Except.ok.inj h)
        omega
      · cases h
    · cases h
  · cases h

end TakesOff

/-- The bound holds for every amount of fuel. Without fuel nothing is read. -/
theorem takesOff (fuel : Nat) : TakesOff fuel := by
  induction fuel with
  | zero => exact ⟨nofun, nofun, nofun⟩
  | succ fuel ih => exact ⟨ih.value_succ, ih.items_succ, ih.members_succ⟩

/-- **What is read from a text holds no more than the text.** -/
theorem weight_of_read {depth : Nat} {t : Text} {d : Datum} (h : read depth t = .ok d) :
    d.weight ≤ t.length := by
  rw [read] at h
  split at h
  · next found rest hvalue =>
    have hle := (takesOff _).value hvalue
    have hskip := length_skip_le t
    split at h
    · obtain rfl := Except.ok.inj h
      omega
    · cases h
  · cases h

end Json

end NetSurvey
