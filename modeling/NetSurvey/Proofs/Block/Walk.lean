import Mathlib.Data.List.Nodup
import NetSurvey.Block.Basic
import NetSurvey.Proofs.Address.Increment
import NetSurvey.Proofs.Address.RoundTrip

/-!
# The walk through a block

A walk increments octets with carry until the address leaves the block or the octets overflow. It
keeps no count, and nothing but these two tests ends it. `Block.Walks` is a walk that is let go on
to its end, and the walks that are cut off at a limit are the beginnings of it
(`Walks.walkFrom_eq`).

`Block.walks_from` says that from octets inside the block a walk visits the numbers up to the end of
the block one after the other. It ends with the overflow where the block ends with the last address
of all, and by leaving the block everywhere else.
-/

namespace NetSurvey

namespace Address

variable {family : Family} {octets : List UInt8}

theorem octets_value_lt (hlen : octets.length = family.octets) :
    Octets.value octets < Nat.pow 2 family.width := by
  have hpow : Nat.pow 2 family.width = Nat.pow 256 family.octets := Nat.pow_mul 2 8 family.octets
  rw [hpow, ← hlen]
  exact Octets.value_lt octets

theorem value_ofOctets (hlen : octets.length = family.octets) :
    (ofOctets family octets).value = Octets.value octets :=
  Nat.mod_eq_of_lt (octets_value_lt hlen)

end Address

namespace Block

variable {b : Block} {a : Address}

/-! ### Which addresses belong to a block -/

theorem size_pos (b : Block) : 0 < b.size := Nat.two_pow_pos _

/-- A block ends within its family. -/
theorem base_add_size_le (b : Block) : b.base.value + b.size ≤ Nat.pow 2 b.family.width := by
  have hsplit : Nat.pow 2 b.family.width = b.size * Nat.pow 2 b.prefixLength := by
    have hle : b.prefixLength ≤ b.family.width := b.prefixLength_le
    rw [size]
    refine Eq.trans ?_ (Nat.pow_add 2 (b.family.width - b.prefixLength) b.prefixLength)
    rw [Nat.sub_add_cancel hle]
    rfl
  obtain ⟨q, hq⟩ : b.size ∣ b.base.value := Nat.dvd_of_mod_eq_zero b.aligned
  have hlt : b.base.value < Nat.pow 2 b.family.width := b.base.value_lt
  rw [hq, hsplit] at hlt
  have hq1 : q + 1 ≤ Nat.pow 2 b.prefixLength := Nat.lt_of_mul_lt_mul_left hlt
  calc b.base.value + b.size = b.size * (q + 1) := by rw [hq, Nat.mul_succ]
    _ ≤ b.size * Nat.pow 2 b.prefixLength := Nat.mul_le_mul_left _ hq1
    _ = Nat.pow 2 b.family.width := hsplit.symm

/-- A block contains addresses of its own family only. -/
theorem family_of_contains (h : b.contains a = true) : a.family = b.family := by
  simp only [contains, Bool.and_eq_true, decide_eq_true_eq] at h
  exact h.1

/-- The addresses of a block are the `size` addresses from its base on. -/
theorem contains_iff (hfamily : a.family = b.family) :
    b.contains a = true ↔ b.base.value ≤ a.value ∧ a.value < b.base.value + b.size := by
  have hmask : (mask a b.prefixLength).value = a.value - a.value % b.size := by
    simp only [mask, size, hfamily]
  have haligned : b.base.value % b.size = 0 := b.aligned
  have hmod : a.value % b.size < b.size := Nat.mod_lt _ b.size_pos
  have hle : a.value % b.size ≤ a.value := Nat.mod_le ..
  simp only [contains, hfamily, decide_true, Bool.true_and, decide_eq_true_eq, hmask]
  constructor
  · intro heq
    omega
  · rintro ⟨hge, hlt⟩
    have hrest : a.value % b.size = a.value - b.base.value := by
      obtain ⟨k, hk⟩ := Nat.exists_eq_add_of_le hge
      rw [hk, Nat.add_mod, haligned, Nat.zero_add, Nat.mod_mod, Nat.add_sub_cancel_left]
      exact Nat.mod_eq_of_lt (by omega)
    omega

/-- Whether octets are in a block is decided by their number. -/
theorem contains_ofOctets_iff {octets : List UInt8} (hlen : octets.length = b.family.octets) :
    b.contains (.ofOctets b.family octets) = true ↔
      b.base.value ≤ Octets.value octets ∧ Octets.value octets < b.base.value + b.size := by
  have hiff := contains_iff (b := b) (a := .ofOctets b.family octets) rfl
  rwa [Address.value_ofOctets hlen] at hiff

/-! ### The walk -/

/-- How a walk comes to its end. -/
inductive Ending where
  /-- The octets are those of an address behind the block. -/
  | left
  /-- Every octet wrapped to zero. -/
  | overflowed
deriving DecidableEq, Repr

/-- A walk that goes on to its end, from the address with the given octets on: the addresses that it
visits, and how it ends. -/
inductive Walks (b : Block) : List UInt8 → List Address → Ending → Prop
  | left {octets : List UInt8} (hout : b.contains (.ofOctets b.family octets) = false) :
    Walks b octets [] .left
  | overflow {octets next : List UInt8} (hin : b.contains (.ofOctets b.family octets) = true)
    (hnext : Octets.increment octets = (next, true)) :
    Walks b octets [.ofOctets b.family octets] .overflowed
  | step {octets next : List UInt8} {addresses : List Address} {ending : Ending}
    (hin : b.contains (.ofOctets b.family octets) = true)
    (hnext : Octets.increment octets = (next, false)) (hrest : Walks b next addresses ending) :
    Walks b octets (.ofOctets b.family octets :: addresses) ending

/-- A limit cuts a walk off, and changes nothing else. -/
theorem Walks.walkFrom_eq {octets : List UInt8} {addresses : List Address} {ending : Ending}
    (h : b.Walks octets addresses ending) (limit : Nat) :
    b.walkFrom limit octets = addresses.take limit := by
  induction h generalizing limit with
  | left hout =>
    cases limit with
    | zero => rfl
    | succ limit => simp only [walkFrom, hout, Bool.false_eq_true, if_false, List.take_nil]
  | overflow hin hnext =>
    cases limit with
    | zero => rfl
    | succ limit => simp only [walkFrom, hin, if_true, hnext, List.take_succ_cons, List.take_nil]
  | step hin hnext _ ih =>
    cases limit with
    | zero => rfl
    | succ limit => simp only [walkFrom, hin, if_true, hnext, List.take_succ_cons, ih]

/-- How the walk through a block ends. -/
def ending (b : Block) : Ending :=
  if b.base.value + b.size = Nat.pow 2 b.family.width then .overflowed else .left

/-- The walk overflows in a block that reaches to the last address of its family. -/
theorem ending_eq_overflowed_iff (b : Block) :
    b.ending = .overflowed ↔ b.base.value + b.size = Nat.pow 2 b.family.width := by
  rw [ending]
  split
  · next h => exact iff_of_true rfl h
  · next h => exact iff_of_false nofun h

/-- From octets inside the block, or right behind it, the walk goes on to the end of the block. -/
theorem walks_from (b : Block) {octets : List UInt8} (hlen : octets.length = b.family.octets)
    (hge : b.base.value ≤ Octets.value octets)
    (hle : Octets.value octets ≤ b.base.value + b.size) :
    b.Walks octets
      ((List.range' (Octets.value octets) (b.base.value + b.size - Octets.value octets)).map
        (Address.ofNat b.family)) b.ending := by
  have hpow : Nat.pow 256 b.family.octets = Nat.pow 2 b.family.width :=
    (Nat.pow_mul 2 8 b.family.octets).symm
  have hend := b.base_add_size_le
  -- The induction is on the number of addresses that are still to be visited.
  induction hcount : b.base.value + b.size - Octets.value octets generalizing octets with
  | zero =>
    have hlt : Octets.value octets < Nat.pow 2 b.family.width := Address.octets_value_lt hlen
    have hout : b.contains (.ofOctets b.family octets) = false := by
      rw [Bool.eq_false_iff, ne_eq, contains_ofOctets_iff hlen]
      omega
    rw [show b.ending = .left from if_neg (by omega)]
    exact .left hout
  | succ count ih =>
    have hin : b.contains (.ofOctets b.family octets) = true := by
      rw [contains_ofOctets_iff hlen]
      omega
    have hspec := Octets.value_increment octets
    have hwraps := Octets.increment_wraps_iff octets
    have hlength := Octets.length_increment octets
    rw [hlen] at hspec hwraps hlength
    rw [List.range'_succ, List.map_cons]
    cases hnext : Octets.increment octets with
    | mk next wraps =>
      rw [hnext] at hspec hwraps hlength
      dsimp only at hspec hwraps hlength
      cases wraps with
      | true =>
        -- The last address of all is the last one of the block.
        have hmax := hwraps.mp rfl
        obtain rfl : count = 0 := by omega
        rw [show b.ending = .overflowed from if_pos (by omega)]
        exact .overflow hin hnext
      | false =>
        have hvalue : Octets.value next = Octets.value octets + 1 := by simpa using hspec
        have hrest := ih hlength (by omega) (by omega) (by omega)
        rw [hvalue] at hrest
        exact .step hin hnext hrest

/-- The addresses of a block, in ascending order. -/
def addresses (b : Block) : List Address :=
  (List.range' b.base.value b.size).map (Address.ofNat b.family)

/-- The walk from the base is through the addresses of the block, to its end. -/
theorem walks_base (b : Block) : b.Walks b.base.toOctets b.addresses b.ending := by
  have hvalue : Octets.value b.base.toOctets = b.base.value := b.base.value_toOctets
  have hwalks := b.walks_from b.base.length_toOctets (by omega) (by omega)
  rwa [hvalue, Nat.add_sub_cancel_left] at hwalks

/-- **The walk.** A walk visits the addresses from the base on in ascending order, each once, and
ends with the block unless it is cut off before. -/
theorem walk_eq (b : Block) (limit : Nat) : b.walk limit = b.addresses.take limit :=
  b.walks_base.walkFrom_eq limit

/-! ### The addresses -/

theorem length_addresses (b : Block) : b.addresses.length = b.size := by
  rw [addresses, List.length_map, List.length_range']

theorem lt_of_lt_base_add_size {n : Nat} (h : n < b.base.value + b.size) :
    n < Nat.pow 2 b.family.width :=
  Nat.lt_of_lt_of_le h b.base_add_size_le

theorem family_of_mem_addresses (h : a ∈ b.addresses) : a.family = b.family := by
  obtain ⟨n, -, rfl⟩ := List.mem_map.mp h
  rfl

/-- The numbers of the addresses are those from the base on. -/
theorem map_value_addresses (b : Block) :
    b.addresses.map Address.value = List.range' b.base.value b.size := by
  rw [addresses, List.map_map]
  refine (List.map_congr_left fun n hn => ?_).trans (List.map_id _)
  exact Nat.mod_eq_of_lt (lt_of_lt_base_add_size (List.mem_range'_1.mp hn).2)

theorem getElem?_map_value_addresses (b : Block) {k : Nat} (hk : k < b.size) :
    (b.addresses.map Address.value)[k]? = some (b.base.value + k) := by
  rw [map_value_addresses, List.getElem?_range' hk, Nat.one_mul]

/-- The addresses of a block are those that masking takes to its base. -/
theorem mem_addresses_iff : a ∈ b.addresses ↔ b.contains a = true := by
  constructor
  · intro h
    have hvalue := List.mem_map_of_mem (f := Address.value) h
    rw [map_value_addresses, List.mem_range'_1] at hvalue
    exact (contains_iff (family_of_mem_addresses h)).mpr hvalue
  · intro h
    have hfamily := family_of_contains h
    have hvalue := (contains_iff hfamily).mp h
    exact List.mem_map.mpr ⟨a.value, List.mem_range'_1.mpr hvalue, hfamily ▸ a.ofNat_value⟩

/-- No two addresses of a block are written in the same way. -/
theorem nodup_map_text_addresses (b : Block) : (b.addresses.map Address.text).Nodup := by
  have hnodup : b.addresses.Nodup := by
    refine List.Nodup.of_map Address.value ?_
    rw [map_value_addresses]
    exact List.nodup_range'
  exact hnodup.map fun _ _ => Address.text_injective

/-- An address is written among those of a block exactly if the block contains it. -/
theorem text_mem_addresses_iff : a.text ∈ b.addresses.map Address.text ↔ b.contains a = true := by
  rw [← mem_addresses_iff, List.mem_map]
  refine ⟨?_, fun h => ⟨a, h, rfl⟩⟩
  rintro ⟨other, hother, heq⟩
  rwa [← Address.text_injective heq]

/-- **The walk is complete and in order.** The walk from the base of a block comes to its end, and a
limit only cuts it off. It visits as many addresses as the bits beyond the prefix allow, and the one
with `k` others before it has the number `base + k`. So no text is met twice, and the texts that are
met are those of the addresses of the block. The walk ends with the overflow of its octets exactly
if the last address of the block is the last one of all; a block of all addresses is such a
block. -/
theorem complete_walk (b : Block) :
    ∃ (addresses : List Address) (ending : Ending),
      b.Walks b.base.toOctets addresses ending ∧
      (∀ limit, b.walk limit = addresses.take limit) ∧
      addresses.length = Nat.pow 2 (b.family.width - b.prefixLength) ∧
      (∀ k a, addresses[k]? = some a → a.family = b.family ∧ a.value = b.base.value + k) ∧
      (addresses.map Address.text).Nodup ∧
      (∀ a : Address, a.text ∈ addresses.map Address.text ↔ b.contains a = true) ∧
      (ending = .overflowed ↔ b.base.value + addresses.length = Nat.pow 2 b.family.width) := by
  refine ⟨b.addresses, b.ending, b.walks_base, b.walk_eq, b.length_addresses, ?_,
    b.nodup_map_text_addresses, fun a => text_mem_addresses_iff, ?_⟩
  · intro k a hk
    have hlt : k < b.size := b.length_addresses ▸ (List.getElem?_eq_some_iff.mp hk).1
    have hvalue := b.getElem?_map_value_addresses hlt
    rw [List.getElem?_map, hk, Option.map_some] at hvalue
    exact ⟨family_of_mem_addresses (List.mem_of_getElem? hk), Option.some.inj hvalue⟩
  · rw [length_addresses]
    exact b.ending_eq_overflowed_iff

/-- All addresses of 128 bits. -/
def everything : Block where
  base := .ofNat .v6 0
  prefixLength := 0
  scope := none
  prefixLength_le := by decide
  aligned := by decide

/-- The walk through all addresses ends with the overflow, after the address of ones only. -/
theorem complete_walk_everything :
    ∃ (addresses : List Address) (last : Address),
      everything.Walks everything.base.toOctets addresses .overflowed ∧
      addresses.length = 340282366920938463463374607431768211456 ∧
      addresses[340282366920938463463374607431768211455]? = some last ∧
      last.text ∈ addresses.map Address.text ∧
      last.value = 340282366920938463463374607431768211455 := by
  obtain ⟨addresses, ending, hwalks, -, hlength, hvalue, -, -, hending⟩ :=
    complete_walk everything
  have hcount : addresses.length = 340282366920938463463374607431768211456 := by
    rw [hlength]
    decide
  obtain rfl : ending = .overflowed := hending.mpr (by rw [hcount]; decide)
  have hlast := List.getElem?_eq_getElem
    (show 340282366920938463463374607431768211455 < addresses.length by rw [hcount]; decide)
  have hnumber := (hvalue _ _ hlast).2
  refine ⟨addresses, _, hwalks, hcount, hlast, ?_, ?_⟩
  · exact List.mem_map_of_mem (List.getElem_mem _)
  · rw [hnumber]
    decide

end Block

end NetSurvey
