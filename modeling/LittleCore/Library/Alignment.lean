import Mathlib.Algebra.Group.Nat.Defs
import Mathlib.Data.Nat.Notation
import Mathlib.Order.Bounds.Basic
import Mathlib.Tactic.Common

/-!
# Alignment by masks

Words are aligned to a power of two by the mask `2 ^ k - 1`: `x &&& mask` is the offset in the
block, `x &&& ~~~mask` the start of the block, and `(x + mask) &&& ~~~mask` the end of the last
block that is begun, as long as the sum does not wrap.
-/

namespace Library

/-- The least multiple of `block` that is at least `n`. -/
def IsAlignedUp (block n m : ℕ) : Prop := IsLeast {m | block ∣ m ∧ n ≤ m} m

theorem isAlignedUp_iff {block n m : ℕ} (hpos : 0 < block) :
    IsAlignedUp block n m ↔ m = (n + (block - 1)) / block * block := by
  have hround : IsAlignedUp block n ((n + (block - 1)) / block * block) := by
    refine ⟨⟨Nat.dvd_mul_left _ _, ?_⟩, ?_⟩
    · have hlt := Nat.lt_mul_div_succ (n + (block - 1)) hpos
      rw [Nat.mul_succ, Nat.mul_comm] at hlt
      omega
    · rintro m ⟨⟨q, rfl⟩, hle⟩
      have hdiv : (n + (block - 1)) / block ≤ q :=
        Nat.lt_succ_iff.mp ((Nat.div_lt_iff_lt_mul hpos).mpr (by
          rw [Nat.succ_mul, Nat.mul_comm]
          omega))
      rw [Nat.mul_comm]
      exact Nat.mul_le_mul_left _ hdiv
  constructor
  · intro h
    exact h.unique hround
  · rintro rfl
    exact hround

variable {w : ℕ} {mask : BitVec w} {k : ℕ}

theorem toNat_and_mask (hmask : mask.toNat = 2 ^ k - 1) (x : BitVec w) :
    (x &&& mask).toNat = x.toNat % 2 ^ k := by
  rw [BitVec.toNat_and, hmask, Nat.and_two_pow_sub_one_eq_mod]

theorem toNat_and_not_mask (hmask : mask.toNat = 2 ^ k - 1) (x : BitVec w) :
    (x &&& ~~~mask).toNat = x.toNat / 2 ^ k * 2 ^ k := by
  refine Nat.eq_of_testBit_eq ?_
  intro i
  have hlow : mask.getLsbD i = decide (i < k) := by
    rw [← BitVec.testBit_toNat, hmask, Nat.testBit_two_pow_sub_one]
  rw [Nat.testBit_mul_two_pow, BitVec.testBit_toNat, BitVec.getLsbD_and, BitVec.getLsbD_not, hlow]
  by_cases hi : k ≤ i
  · rw [Nat.testBit_div_two_pow, Nat.sub_add_cancel hi, BitVec.testBit_toNat]
    have hlt : x.getLsbD i = true → i < w := BitVec.lt_of_getLsbD
    cases hx : x.getLsbD i with
    | false => simp
    | true => simp [hi, hlt hx]
  · simp [hi, not_le.mp hi]

/-- Rounding up, where the sum does not wrap. -/
theorem isAlignedUp_and_not_mask (hmask : mask.toNat = 2 ^ k - 1) {x : BitVec w}
    (hwrap : x.toNat + mask.toNat < 2 ^ w) :
    IsAlignedUp (2 ^ k) x.toNat ((x + mask) &&& ~~~mask).toNat := by
  rw [isAlignedUp_iff (Nat.two_pow_pos k), toNat_and_not_mask hmask, BitVec.toNat_add,
    Nat.mod_eq_of_lt hwrap, hmask]

end Library
