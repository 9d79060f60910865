import Mathlib.Algebra.Group.Nat.Defs
import Mathlib.Data.Nat.Log
import Mathlib.Tactic.Common

/-!
# Growing by doubling

A store that is too small is doubled until it is large enough. `doubled base needed` is the size
it ends with, written without a loop; `doubled_of_lt` is the round of the loop, and
`doubled_of_le` its end.
-/

namespace Library

/-- The first of `base`, `2 * base`, `4 * base` and so on that is at least `needed`. -/
def doubled (base needed : ℕ) : ℕ := base * 2 ^ Nat.clog 2 ((needed + base - 1) / base)

variable {base needed : ℕ}

theorem doubled_of_le (hpos : 0 < base) (h : needed ≤ base) : doubled base needed = base := by
  have hquot : (needed + base - 1) / base ≤ 1 :=
    Nat.lt_succ_iff.mp (Nat.div_lt_of_lt_mul (by omega))
  rw [doubled, Nat.clog_of_right_le_one hquot, Nat.pow_zero, Nat.mul_one]

theorem doubled_of_lt (hpos : 0 < base) (h : base < needed) :
    doubled base needed = doubled (base * 2) needed := by
  have htwo : 2 ≤ (needed + base - 1) / base := (Nat.le_div_iff_mul_le hpos).mpr (by omega)
  have hhalf : ((needed + base - 1) / base + 2 - 1) / 2
      = (needed + base * 2 - 1) / (base * 2) := by
    rw [show needed + base * 2 - 1 = needed + base - 1 + base by omega, ← Nat.div_div_eq_div_mul,
      Nat.add_div_right _ hpos]
    rfl
  rw [doubled, doubled, Nat.clog_of_two_le (by omega) htwo, hhalf, Nat.pow_succ', Nat.mul_assoc]

theorem le_doubled_self (base needed : ℕ) : base ≤ doubled base needed :=
  Nat.le_mul_of_pos_right _ (Nat.two_pow_pos _)

theorem le_doubled (hpos : 0 < base) : needed ≤ doubled base needed := by
  have hceil : needed ≤ base * ((needed + base - 1) / base) := by
    have := Nat.lt_mul_div_succ (needed + base - 1) hpos
    rw [Nat.mul_succ] at this
    omega
  exact hceil.trans (Nat.mul_le_mul_left _ (Nat.le_pow_clog (by omega) _))

end Library
