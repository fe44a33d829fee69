import LedgerLens.Host.OrderStatistics
import Mathlib.Algebra.Order.Floor.Semifield
import Mathlib.Data.Rat.Floor
import Mathlib.Tactic.Linarith
import Mathlib.Tactic.FieldSimp
import Mathlib.Tactic.Positivity

/-!
The variance of weighted numbers, and how near to it the difference of rounded moments comes.
-/

namespace Host

section Exact

/-- The mean and the variance, exactly. -/
def exactMean (weighted : List (Nat × Nat)) : ℚ := weightedSum weighted / totalWeight weighted

def exactVariance (weighted : List (Nat × Nat)) : ℚ :=
  (weighted.map fun entry => (entry.1 : ℚ) * (entry.2 - exactMean weighted) ^ 2).sum /
    totalWeight weighted

/-- The numbers squared, with the same weights. -/
def squared (weighted : List (Nat × Nat)) : List (Nat × Nat) :=
  weighted.map fun entry => (entry.1, entry.2 * entry.2)

variable {weighted : List (Nat × Nat)} {lo hi : Nat}

theorem sum_sq_deviation (weighted : List (Nat × Nat)) (c : ℚ) :
    (weighted.map fun entry => (entry.1 : ℚ) * (entry.2 - c) ^ 2).sum =
      weightedSum (squared weighted) - 2 * c * weightedSum weighted +
        c ^ 2 * totalWeight weighted := by
  induction weighted with
  | nil => simp [weightedSum, totalWeight, squared]
  | cons first rest ih =>
    simp only [weightedSum, totalWeight, squared, List.map_cons, List.sum_cons] at ih ⊢
    rw [ih]
    push_cast
    ring

theorem exactVariance_eq (positive : 0 < totalWeight weighted) :
    exactVariance weighted =
      weightedSum (squared weighted) / totalWeight weighted - exactMean weighted ^ 2 := by
  have nonzero : (totalWeight weighted : ℚ) ≠ 0 := by exact_mod_cast positive.ne'
  unfold exactVariance
  rw [sum_sq_deviation]
  unfold exactMean
  field_simp
  ring

theorem exactVariance_nonneg (weighted : List (Nat × Nat)) : 0 ≤ exactVariance weighted := by
  refine div_nonneg (List.sum_nonneg fun term listed => ?_) (Nat.cast_nonneg _)
  obtain ⟨entry, _, rfl⟩ := List.mem_map.mp listed
  positivity

/-- Numbers in an interval vary at most by the square of half its length. -/
theorem exactVariance_le (positive : 0 < totalWeight weighted)
    (inside : ∀ entry ∈ weighted, lo ≤ entry.2 ∧ entry.2 ≤ hi) :
    exactVariance weighted ≤ (((hi : ℚ) - lo) / 2) ^ 2 := by
  have moments : (weightedSum (squared weighted) : ℚ) + lo * hi * totalWeight weighted ≤
      (lo + hi) * weightedSum weighted := by
    clear positive
    induction weighted with
    | nil => simp [weightedSum, totalWeight, squared]
    | cons first rest ih =>
      have later := ih fun entry listed => inside entry (List.mem_cons_of_mem _ listed)
      obtain ⟨above, below⟩ := inside first List.mem_cons_self
      have low : (0 : ℚ) ≤ (first.2 : ℚ) - lo := sub_nonneg.mpr (by exact_mod_cast above)
      have high : (0 : ℚ) ≤ (hi : ℚ) - first.2 := sub_nonneg.mpr (by exact_mod_cast below)
      have term := mul_nonneg (Nat.cast_nonneg (α := ℚ) first.1) (mul_nonneg low high)
      simp only [weightedSum, totalWeight, squared, List.map_cons, List.sum_cons] at later ⊢
      push_cast at later ⊢
      linarith
  have positive' : (0 : ℚ) < totalWeight weighted := by exact_mod_cast positive
  have scaled : (weightedSum (squared weighted) : ℚ) / totalWeight weighted + lo * hi ≤
      (lo + hi) * exactMean weighted := by
    unfold exactMean
    rw [div_add' _ _ _ positive'.ne', ← mul_div_assoc]
    gcongr
  rw [exactVariance_eq positive]
  linarith [sq_nonneg (exactMean weighted - (lo + hi) / 2)]

theorem le_exactMean (positive : 0 < totalWeight weighted)
    (above : ∀ entry ∈ weighted, lo ≤ entry.2) : (lo : ℚ) ≤ exactMean weighted := by
  unfold exactMean
  rw [le_div_iff₀ (by exact_mod_cast positive)]
  exact_mod_cast mul_totalWeight_le above

theorem exactMean_le (positive : 0 < totalWeight weighted)
    (below : ∀ entry ∈ weighted, entry.2 ≤ hi) : exactMean weighted ≤ hi := by
  unfold exactMean
  rw [div_le_iff₀ (by exact_mod_cast positive)]
  exact_mod_cast weightedSum_le below

end Exact

section Rounded

theorem natDiv_bounds (a b : Nat) :
    ((a / b : Nat) : ℚ) ≤ a / b ∧ (a : ℚ) / b < (a / b : Nat) + 1 := by
  rw [← Nat.floor_div_eq_div (K := ℚ)]
  exact ⟨Nat.floor_le (by positivity), Nat.lt_floor_add_one _⟩

/-- The second moment in thousandths less the square of the mean in thousandths, each rounded
down: no more than one below the variance, and above it by hardly more than twice the mean. -/
theorem rounded_variance {weighted : List (Nat × Nat)} (positive : 0 < totalWeight weighted)
    (above : 1 ≤ exactMean weighted) :
    let meanScaled := weightedSum weighted * 1000 / totalWeight weighted
    let meanSqScaled := meanScaled * meanScaled / 1000
    let esqScaled := weightedSum (squared weighted) * 1000 / totalWeight weighted
    1000 * exactVariance weighted - 1 < (esqScaled : ℚ) - meanSqScaled ∧
      (esqScaled : ℚ) - meanSqScaled < 1000 * exactVariance weighted + 2 * exactMean
        weighted + 1 := by
  intro meanScaled meanSqScaled esqScaled
  obtain ⟨meanLe, meanLt⟩ := natDiv_bounds (weightedSum weighted * 1000) (totalWeight weighted)
  obtain ⟨squareLe, squareLt⟩ := natDiv_bounds (meanScaled * meanScaled) 1000
  obtain ⟨esqLe, esqLt⟩ :=
    natDiv_bounds (weightedSum (squared weighted) * 1000) (totalWeight weighted)
  have isMean : ((weightedSum weighted * 1000 : Nat) : ℚ) / totalWeight weighted =
      1000 * exactMean weighted := by
    unfold exactMean
    push_cast
    ring
  have isMoment : ((weightedSum (squared weighted) * 1000 : Nat) : ℚ) / totalWeight weighted =
      1000 * (exactVariance weighted + exactMean weighted ^ 2) := by
    rw [exactVariance_eq positive]
    push_cast
    ring
  rw [isMean] at meanLe meanLt
  rw [isMoment] at esqLe esqLt
  rw [Nat.cast_mul] at squareLe squareLt
  change (meanScaled : ℚ) ≤ _ at meanLe
  change _ < (meanScaled : ℚ) + 1 at meanLt
  have low : (1000 * exactMean weighted - 1) ^ 2 ≤ (meanScaled : ℚ) ^ 2 :=
    pow_le_pow_left₀ (by linarith) (by linarith) 2
  have high : (meanScaled : ℚ) ^ 2 ≤ (1000 * exactMean weighted) ^ 2 :=
    pow_le_pow_left₀ (Nat.cast_nonneg _) meanLe 2
  have isMeanSq : meanSqScaled = meanScaled * meanScaled / 1000 := rfl
  have isEsq : esqScaled = weightedSum (squared weighted) * 1000 / totalWeight weighted := rfl
  rw [isMeanSq, isEsq]
  push_cast at squareLe squareLt
  constructor <;> linarith

end Rounded

end Host
