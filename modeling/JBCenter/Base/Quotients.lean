import Mathlib.Algebra.BigOperators.Ring.List
import Mathlib.Algebra.Order.BigOperators.Group.List
import Mathlib.Algebra.Order.Ring.Int

/-! Division of integers towards zero: what a quotient bounds, and shares of a budget that never exceed it together. -/
namespace JBCenter
variable {a b budget total : Int}

theorem tdiv_mul_le (natural : 0 ≤ a) (positive : 0 < b) : a.tdiv b * b ≤ a := by
  rw [Int.tdiv_eq_ediv_of_nonneg natural]
  exact Int.ediv_mul_le a positive.ne'

/-- A positive number below a quotient, times the divisor, is below the dividend. -/
theorem mul_le_of_le_tdiv {n : Int} (positive : 0 < b) (some : 0 < n) (below : n ≤ a.tdiv b) : n * b ≤ a := by
  have natural : 0 ≤ a := by
    by_contra negative
    have opposite := Int.tdiv_nonneg (a := -a) (b := b) (by omega) positive.le
    rw [Int.neg_tdiv] at opposite
    omega
  calc n * b ≤ a.tdiv b * b := Int.mul_le_mul_of_nonneg_right below positive.le
    _ ≤ a := tdiv_mul_le natural positive

end JBCenter
