import NetSurvey.Block.Text
import NetSurvey.Proofs.Block.Walk

/-!
# The hosts of a block

Two computations meet here. The number of hosts of a block is worked out from the length of its
prefix. The hosts themselves come from the walk through the block, of which the two ends are cut
off. `Block.expand_hosts` puts this together with the limit on the number of hosts.
-/

namespace NetSurvey

namespace Block

variable {b : Block} {a : Address}

/-! ### The hosts -/

/-- The numbers of the hosts of a block: all but the first and the last, if there are more than
two. -/
def hostNumbers (b : Block) : List Nat :=
  if 2 < b.size then List.range' (b.base.value + 1) (b.size - 2)
  else List.range' b.base.value b.size

/-- There are as many hosts as are counted. -/
theorem length_hostNumbers (b : Block) : b.hostNumbers.length = b.hostCount := by
  rw [hostNumbers, hostCount]
  split <;> rw [List.length_range']

/-- Every block has a host. -/
theorem hostCount_pos (b : Block) : 0 < b.hostCount := by
  have hsize := b.size_pos
  rw [hostCount]
  split <;> omega

/-- No block has more hosts than there are numbers of 128 bits. -/
theorem hostCount_le (b : Block) : b.hostCount ≤ Nat.pow 2 128 := by
  have hwidth : b.family.width ≤ 128 := by cases b.family <;> decide
  have hsize : b.size ≤ Nat.pow 2 128 := Nat.pow_le_pow_right (by decide) (by omega)
  rw [hostCount]
  split <;> omega

/-- The hosts of a block are the addresses of their numbers, in order. -/
theorem hosts_eq (b : Block) : b.hosts = b.hostNumbers.map (Address.ofNat b.family) := by
  have hwalk : b.walk b.size = b.addresses := by
    rw [walk_eq, ← length_addresses, List.take_length]
  rw [hosts, hostNumbers, hwalk]
  simp only [addresses, List.length_map, List.length_range']
  split
  · next hsize =>
    have hpred : b.size - 1 = b.size - 2 + 1 := by omega
    rw [← List.map_drop, ← List.map_dropLast, List.drop_one, List.tail_range', hpred,
      List.range'_1_concat, List.dropLast_concat]
  · rfl

theorem length_hosts (b : Block) : b.hosts.length = b.hostCount := by
  rw [hosts_eq, List.length_map, length_hostNumbers]

theorem log2_hostCount_lt (b : Block) : b.hostCount.log2 < 129 := by
  have hpos := b.hostCount_pos
  have hle := b.hostCount_le
  exact (Nat.log2_lt (by omega)).mpr (Nat.lt_of_le_of_lt hle (by decide))

/-- What is listed are the texts of the hosts of the block that was read. -/
theorem exists_of_expand {cidr : Datum} {limit : Option Int} {hosts : List Text}
    (h : expand cidr limit = .ok hosts) :
    ∃ b, ofDatum cidr = .ok b ∧ hosts = b.hosts.map Address.text := by
  rw [expand] at h
  cases hblock : ofDatum cidr with
  | error cause =>
    rw [hblock] at h
    cases h
  | ok b =>
    rw [hblock] at h
    refine ⟨b, rfl, ?_⟩
    cases limit with
    | none => exact (Except.ok.inj h).symm
    | some limit =>
      by_cases hlimit : limit < b.hostCount
      · simp only [hlimit, if_true] at h
        cases h
      · simp only [hlimit, if_false] at h
        exact (Except.ok.inj h).symm

end Block

end NetSurvey
