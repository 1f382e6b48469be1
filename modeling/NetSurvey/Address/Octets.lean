/-!
# Octets in network order

An address on the wire is a sequence of octets, the most significant first. `increment` adds one
with carry; it says whether the carry ran out at the front, in which case all octets are zero again.
-/

namespace NetSurvey.Octets

/-- The number that a sequence of octets stands for. -/
def value : List UInt8 → Nat
  | [] => 0
  | b :: bs => b.toNat * Nat.pow 256 bs.length + value bs

/-- Adds one to a sequence of octets, and says whether every octet wrapped to zero. -/
def increment : List UInt8 → List UInt8 × Bool
  | [] => ([], true)
  | b :: bs =>
    match increment bs with
    | (bs', true) => ((b + 1) :: bs', b + 1 == 0)
    | (bs', false) => (b :: bs', false)

/-- Numbers as octets, if all are in their range. -/
def ofInts? (ns : List Int) : Option (List UInt8) :=
  ns.mapM fun n => if 0 ≤ n ∧ n < 256 then some (UInt8.ofNat n.toNat) else none

/-- The last `count` octets of a number. -/
def ofNat : (count : Nat) → Nat → List UInt8
  | 0, _ => []
  | count + 1, n => ofNat count (n / 256) ++ [UInt8.ofNat n]

/-- Every sequence that `times` increments pass through, with the wrapping of each. -/
def increments : (times : Nat) → List UInt8 → List (List UInt8 × Bool)
  | 0, _ => []
  | times + 1, bs => increment bs :: increments times (increment bs).1

@[simp]
theorem length_increment (bs : List UInt8) : (increment bs).1.length = bs.length := by
  induction bs with
  | nil => rfl
  | cons b bs ih =>
    simp only [increment]
    split <;> rename_i heq <;> simp [heq] at ih <;> simp [ih]

@[simp]
theorem length_ofNat (count n : Nat) : (ofNat count n).length = count := by
  induction count generalizing n with
  | zero => rfl
  | succ count ih => simp [ofNat, ih]

theorem value_lt (bs : List UInt8) : value bs < Nat.pow 256 bs.length := by
  induction bs with
  | nil => simp [value]
  | cons b bs ih =>
    have hb : b.toNat + 1 ≤ 256 := b.toNat_lt
    have := Nat.mul_le_mul_right (256 ^ bs.length) hb
    simp only [value, List.length_cons, Nat.pow_eq, Nat.pow_succ] at ih ⊢
    rw [Nat.add_mul, Nat.one_mul] at this
    omega

theorem value_append (as bs : List UInt8) :
    value (as ++ bs) = value as * Nat.pow 256 bs.length + value bs := by
  induction as with
  | nil => simp [value]
  | cons a as ih =>
    simp only [List.cons_append, value, List.length_append, ih, Nat.pow_eq, Nat.pow_add,
      Nat.add_mul]
    rw [Nat.mul_assoc, Nat.add_assoc]

theorem value_ofNat (count n : Nat) : value (ofNat count n) = n % Nat.pow 256 count := by
  induction count generalizing n with
  | zero => simp [ofNat, value, Nat.mod_one]
  | succ count ih =>
    simp only [ofNat, value_append, ih, List.length_cons, List.length_nil, value, Nat.pow_eq]
    have h : (UInt8.ofNat n).toNat = n % 256 := by simp
    rw [h, Nat.pow_succ 256 count, Nat.mul_comm (256 ^ count) 256, Nat.mod_mul]
    omega

end NetSurvey.Octets
