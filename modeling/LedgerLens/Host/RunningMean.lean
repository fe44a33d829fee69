import Mathlib.Algebra.Order.BigOperators.Group.List
import Mathlib.Algebra.Order.Field.Rat
import Mathlib.Tactic.Linarith
import Mathlib.Tactic.Ring

/-!
A mean that is kept up to date with one number after the other and rounded down each time. The
errors add up, but not to more than half the count.
-/

namespace Host

/-- Such a mean of these numbers. -/
structure RoundedMean (ds : List Nat) (mean : Nat) : Prop where
  below : mean * ds.length ≤ ds.sum
  above : 2 * ds.sum ≤ 2 * (mean * ds.length) + ds.length * (ds.length - 1)

section RoundedMean

variable {ds : List Nat} {mean : Nat}

theorem RoundedMean.nil : RoundedMean [] 0 := ⟨Nat.le_refl 0, Nat.le_refl 0⟩

/-- One more number: the remainder is at most the count before it. -/
theorem RoundedMean.snoc (rounded : RoundedMean ds mean) (d : Nat) :
    RoundedMean (ds ++ [d]) ((mean * ds.length + d) / (ds.length + 1)) := by
  obtain ⟨below, above⟩ := rounded
  have whole := Nat.div_add_mod (mean * ds.length + d) (ds.length + 1)
  have small : (mean * ds.length + d) % (ds.length + 1) < ds.length + 1 :=
    Nat.mod_lt _ (Nat.succ_pos ds.length)
  have triangle : ds.length * (ds.length - 1) + 2 * ds.length = (ds.length + 1) * ds.length := by
    cases ds.length with
    | zero => rfl
    | succ n =>
      rw [Nat.add_sub_cancel]
      ring
  rw [Nat.mul_comm] at whole
  constructor
  · rw [List.length_append, List.length_singleton, List.sum_append, List.sum_singleton]
    omega
  · rw [List.length_append, List.length_singleton, List.sum_append, List.sum_singleton,
      Nat.add_sub_cancel]
    omega

/-- In terms of the exact mean. -/
theorem RoundedMean.error (rounded : RoundedMean ds mean) (nonempty : ds ≠ []) :
    0 ≤ (ds.sum : ℚ) / ds.length - mean ∧ (ds.sum : ℚ) / ds.length - mean ≤
      (ds.length - 1) / 2 := by
  have positive : 0 < ds.length := List.length_pos_iff.mpr nonempty
  have positive' : (0 : ℚ) < ds.length := by exact_mod_cast positive
  have below : (mean : ℚ) * ds.length ≤ ds.sum := by exact_mod_cast rounded.below
  have above : (2 : ℚ) * ds.sum ≤ 2 * (mean * ds.length) + ds.length * (ds.length - 1) := by
    have above := Nat.cast_le (α := ℚ).mpr rounded.above
    rwa [Nat.cast_add, Nat.cast_mul, Nat.cast_mul, Nat.cast_mul, Nat.cast_mul,
      Nat.cast_pred positive, Nat.cast_ofNat] at above
  rw [sub_nonneg, le_div_iff₀ positive', sub_le_iff_le_add, div_le_iff₀ positive']
  constructor <;> linarith

end RoundedMean

end Host
