import Mathlib.Logic.Function.Iterate
import NetSurvey.Address.Octets

/-!
# Counting in octets

An increment adds one to the number that octets stand for, and says whether the carry ran out at the
front. What the carry takes away is accounted for exactly (`value_increment`), and so for a run of
increments as well: the octets at the end and the number of times that they wrapped make up the
number at the start and the number of increments (`value_iterate_successor`).

Main statement: `counts_modulo`. Octets count modulo the power of 256 that is given by their number,
and every octet wraps exactly at the greatest number below it.
-/

namespace NetSurvey.Octets

/-! ### One increment -/

/-- **Increment with carry.** An increment adds one. Where every octet wraps, the number that is one
too large for the octets is lost, and nothing is lost otherwise. -/
theorem value_increment (bs : List UInt8) :
    value (increment bs).1 + (if (increment bs).2 then Nat.pow 256 bs.length else 0) =
      value bs + 1 := by
  induction bs with
  | nil => rfl
  | cons b bs ih =>
    have hlen := length_increment bs
    rw [increment]
    split <;> rename_i next heq <;> rw [heq] at ih hlen
    · -- the carry reaches this octet
      have hpow : Nat.pow 256 (b :: bs).length = 256 * Nat.pow 256 bs.length := Nat.pow_succ'
      have hb : b.toNat < 256 := b.toNat_lt
      simp only [value, if_true] at ih ⊢
      rw [show next.length = bs.length from hlen, hpow]
      by_cases hwrap : b + 1 = 0
      · have hnat : b.toNat = 255 := by
          have h := congrArg UInt8.toNat hwrap
          simp only [UInt8.toNat_add, UInt8.toNat_one, UInt8.toNat_zero] at h
          omega
        rw [hwrap, hnat]
        simp only [beq_self_eq_true, if_true, UInt8.toNat_zero]
        omega
      · have hnat : (b + 1).toNat = b.toNat + 1 := by
          have h : (b + 1).toNat ≠ 0 := fun h => hwrap (UInt8.toNat_inj.mp h)
          simp only [UInt8.toNat_add, UInt8.toNat_one] at h ⊢
          omega
        rw [hnat, Nat.succ_mul, beq_eq_false_iff_ne.mpr hwrap]
        simp only [Bool.false_eq_true, if_false]
        omega
    · simp only [value, Bool.false_eq_true, if_false] at ih ⊢
      rw [show next.length = bs.length from hlen]
      omega

/-- Every octet wraps exactly at the greatest number that the octets can hold. -/
theorem increment_wraps_iff (bs : List UInt8) :
    (increment bs).2 = true ↔ value bs + 1 = Nat.pow 256 bs.length := by
  have hspec := value_increment bs
  have hlt : value (increment bs).1 < Nat.pow 256 bs.length := by
    simpa using value_lt (increment bs).1
  have hold := value_lt bs
  constructor
  · intro hwrap
    rw [if_pos hwrap] at hspec
    omega
  · intro hmax
    by_contra hno
    rw [if_neg hno] at hspec
    omega

/-! ### One increment after the other -/

/-- The octets after an increment. -/
def successor (bs : List UInt8) : List UInt8 :=
  (increment bs).1

@[simp]
theorem length_iterate_successor (m : Nat) (bs : List UInt8) :
    (successor^[m] bs).length = bs.length := by
  induction m with
  | zero => rfl
  | succ m ih => rw [Function.iterate_succ_apply', successor, length_increment, ih]

/-- The last of some increments is that of the octets which the others lead to. -/
theorem increments_succ (m : Nat) (bs : List UInt8) :
    increments (m + 1) bs = increments m bs ++ [increment (successor^[m] bs)] := by
  induction m generalizing bs with
  | zero => rfl
  | succ m ih =>
    rw [increments, ih (increment bs).1, increments, List.cons_append, Function.iterate_succ_apply,
      successor]

/-- **A run of increments.** Each increment adds one, and each time that all octets wrap, the number
that is one too large for them is lost. -/
theorem value_iterate_successor (m : Nat) (bs : List UInt8) :
    value (successor^[m] bs) + Nat.pow 256 bs.length * (increments m bs).countP (·.2) =
      value bs + m := by
  induction m with
  | zero => rfl
  | succ m ih =>
    have hstep := value_increment (successor^[m] bs)
    rw [length_iterate_successor] at hstep
    rw [increments_succ, List.countP_append, List.countP_singleton, Function.iterate_succ_apply',
      successor, Nat.mul_add]
    split at hstep
    · next hwraps =>
      rw [if_pos hwraps, Nat.mul_one]
      omega
    · next hwraps =>
      rw [if_neg hwraps, Nat.mul_zero]
      omega

/-- How often the octets wrapped and what they hold at the end are quotient and remainder. -/
theorem div_mod_iterate_successor (m : Nat) (bs : List UInt8) :
    (value bs + m) / Nat.pow 256 bs.length = (increments m bs).countP (·.2) ∧
      (value bs + m) % Nat.pow 256 bs.length = value (successor^[m] bs) := by
  have hpos : 0 < Nat.pow 256 bs.length := Nat.pow_pos (by decide)
  have hlt : value (successor^[m] bs) < Nat.pow 256 bs.length := by
    simpa using value_lt (successor^[m] bs)
  exact (Nat.div_mod_unique hpos).mpr ⟨value_iterate_successor m bs, hlt⟩

/-- **Octets count modulo a power of 256.** An increment keeps the number of octets, adds one modulo
`256 ^ n` where `n` is their number, and says that every octet wrapped exactly if they held the
greatest number, `256 ^ n - 1`. So `m` increments add `m` modulo `256 ^ n`, and as many of them wrap
as `256 ^ n` goes into the sum. -/
theorem counts_modulo (bs : List UInt8) :
    (increment bs).1.length = bs.length ∧
    value (increment bs).1 = (value bs + 1) % Nat.pow 256 bs.length ∧
    ((increment bs).2 = true ↔ value bs = Nat.pow 256 bs.length - 1) ∧
    ∀ m, (successor^[m] bs).length = bs.length ∧
      value (successor^[m] bs) = (value bs + m) % Nat.pow 256 bs.length ∧
      (increments m bs).countP (·.2) = (value bs + m) / Nat.pow 256 bs.length := by
  refine ⟨length_increment bs, (div_mod_iterate_successor 1 bs).2.symm, ?_, fun m => ?_⟩
  · rw [increment_wraps_iff]
    have hlt := value_lt bs
    omega
  · have hrun := div_mod_iterate_successor m bs
    exact ⟨length_iterate_successor m bs, hrun.2.symm, hrun.1.symm⟩

example : increments 2 [255, 254] = [([255, 255], false), ([0, 0], true)] := by decide

end NetSurvey.Octets
