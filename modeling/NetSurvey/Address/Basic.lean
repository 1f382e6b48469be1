import NetSurvey.Address.Octets

/-!
# Addresses

An address is a number of 32 or of 128 bits, according to its family.
-/

namespace NetSurvey

/-- The two families of addresses. -/
inductive Family where
  | v4
  | v6
deriving DecidableEq, Repr

namespace Family

/-- The number of the protocol version. -/
def version : Family → Nat
  | v4 => 4
  | v6 => 6

/-- The number of octets of an address. -/
def octets : Family → Nat
  | v4 => 4
  | v6 => 16

/-- The number of bits of an address. -/
def width (f : Family) : Nat :=
  8 * f.octets

end Family

/-- An address of one of the families. -/
structure Address where
  family : Family
  value : Nat
  value_lt : value < Nat.pow 2 family.width
deriving DecidableEq

namespace Address

/-- The address with a given number, taken modulo the number of addresses of the family. -/
def ofNat (family : Family) (n : Nat) : Address :=
  ⟨family, n % Nat.pow 2 family.width, Nat.mod_lt _ (Nat.two_pow_pos _)⟩

/-- The address that a sequence of octets stands for. -/
def ofOctets (family : Family) (bs : List UInt8) : Address :=
  ofNat family (Octets.value bs)

/-- The octets of an address. -/
def toOctets (a : Address) : List UInt8 :=
  Octets.ofNat a.family.octets a.value

@[simp]
theorem length_toOctets (a : Address) : a.toOctets.length = a.family.octets := by
  simp [toOctets]

theorem value_toOctets (a : Address) : Octets.value a.toOctets = a.value := by
  have h : Nat.pow 256 a.family.octets = Nat.pow 2 a.family.width :=
    (Nat.pow_mul 2 8 a.family.octets).symm
  rw [toOctets, Octets.value_ofNat, h, Nat.mod_eq_of_lt a.value_lt]

theorem ofOctets_toOctets (a : Address) : ofOctets a.family a.toOctets = a := by
  cases a with
  | mk family value value_lt =>
    simp only [ofOctets, ofNat, value_toOctets, Nat.mod_eq_of_lt value_lt]

end Address

end NetSurvey
