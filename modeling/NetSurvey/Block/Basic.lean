import NetSurvey.Address.Text

/-!
# Blocks of addresses

A block is all addresses that agree with a base address in their leading bits; the base has zeros
in the remaining bits. `walk` visits a block as it would be done on the wire: octets are incremented
one by one until the address leaves the block or the octets overflow. The hosts of a block are its
addresses without the first and the last, unless there are at most two.
-/

namespace NetSurvey

open Text

/-- A block of addresses. -/
structure Block where
  base : Address
  /-- The number of leading bits that the addresses share. -/
  prefixLength : Nat
  /-- The scope that the text of the block names. -/
  scope : Option Text
  prefixLength_le : prefixLength ≤ base.family.width
  aligned : base.value % Nat.pow 2 (base.family.width - prefixLength) = 0
deriving DecidableEq

namespace Block

/-- The family of the addresses of a block. -/
def family (b : Block) : Family := b.base.family

/-- The number of addresses of a block. -/
def size (b : Block) : Nat :=
  Nat.pow 2 (b.family.width - b.prefixLength)

/-- The number of hosts of a block. -/
def hostCount (b : Block) : Nat :=
  if 2 < b.size then b.size - 2 else b.size

/-- Clears the bits of an address beyond its first `length` ones. -/
def mask (a : Address) (length : Nat) : Address :=
  ⟨a.family, a.value - a.value % Nat.pow 2 (a.family.width - length),
    Nat.lt_of_le_of_lt (Nat.sub_le _ _) a.value_lt⟩

/-- An address belongs to a block if masking it gives the base. -/
def contains (b : Block) (a : Address) : Bool :=
  a.family = b.family && (mask a b.prefixLength).value = b.base.value

/-- The block that an address lies in. The scope is kept if the address is the base of the block. -/
def around (a : Address.Scoped) (length : Nat) (h : length ≤ a.address.family.width) : Block where
  base := mask a.address length
  prefixLength := length
  scope := if mask a.address length = a.address then a.scope else none
  prefixLength_le := h
  aligned := by
    simp only [mask]
    exact Nat.sub_mod_eq_zero_of_mod_eq (Nat.mod_mod _ _).symm

/-- The text of a block. -/
def text (b : Block) : Text :=
  b.base.text ++ (match b.scope with | some s => "%" ++ s | none => []) ++ "/" ++
    numeral 10 b.prefixLength

/-- At most `limit` addresses of a block, from the one with the given octets on. -/
def walkFrom (b : Block) : (limit : Nat) → List UInt8 → List Address
  | 0, _ => []
  | limit + 1, octets =>
    let a := Address.ofOctets b.family octets
    if b.contains a then
      match Octets.increment octets with
      | (_, true) => [a]
      | (next, false) => a :: walkFrom b limit next
    else []

/-- At most `limit` addresses of a block, from its base on. -/
def walk (b : Block) (limit : Nat) : List Address :=
  b.walkFrom limit b.base.toOctets

/-- All addresses of a block but the first and the last, or all if there are at most two. -/
def hosts (b : Block) : List Address :=
  let all := b.walk b.size
  if 2 < all.length then (all.drop 1).dropLast else all

end Block

end NetSurvey
