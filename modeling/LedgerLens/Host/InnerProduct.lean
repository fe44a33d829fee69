import Mathlib.Algebra.BigOperators.Group.Finset.Basic
import Mathlib.Algebra.BigOperators.Intervals
import Mathlib.Algebra.Module.BigOperators
import Mathlib.Algebra.Field.Basic
import Mathlib.Tactic

/-!
The inner-product argument. Two vectors are committed to with generators, together
with their inner product; in every round the vectors and the generators are folded
to half their length by a challenge, and two cross terms make up for the difference.
-/

namespace Host.InnerProduct

open Finset

variable {F M : Type} [Field F] [AddCommGroup M] [Module F M]

/-- Vectors of so many entries under their generators, and their inner product under another. -/
def commitment (n : ℕ) (a b : ℕ → F) (g h : ℕ → M) (q : M) : M :=
  ∑ i ∈ range n, (a i • g i + b i • h i + (a i * b i) • q)

/-- The upper half. -/
def upper {α : Type} (half : ℕ) (v : ℕ → α) : ℕ → α := fun i => v (half + i)

section

variable (half : ℕ) (a b : ℕ → F) (g h : ℕ → M) (q : M)

/-- The lower half of a vector times `s`, and the upper half times `t`. -/
def fold (s t : F) (v : ℕ → M) : ℕ → M := fun i => s • v i + t • upper half v i

/-- Cross terms: each half of the first vector under the other half of the generators. -/
def left : M :=
  commitment half a (upper half b) (upper half g) h q

def right : M :=
  commitment half (upper half a) b g (upper half h) q

theorem commitment_add :
    commitment (half + half) a b g h q =
      commitment half a b g h q +
        commitment half (upper half a) (upper half b) (upper half g) (upper half h) q :=
  sum_range_add _ half half

end

section Round

variable {u v : F}

theorem smul_fold (inverse : u * v = 1) (a b : F) (x y : M) :
    (u * a + v * b) • (v • x + u • y) = a • x + b • y + (u ^ 2 * a) • y + (v ^ 2 * b) • x := by
  calc (u * a + v * b) • (v • x + u • y)
      = (u * v * a) • x + (u * v * b) • y + (u ^ 2 * a) • y + (v ^ 2 * b) • x := by module
    _ = a • x + b • y + (u ^ 2 * a) • y + (v ^ 2 * b) • x := by rw [inverse, one_mul, one_mul]

theorem mul_fold (inverse : u * v = 1) (a a' b b' : F) :
    (u * a + v * a') * (v * b + u * b') = a * b + a' * b' + u ^ 2 * (a * b') + v ^ 2 *
      (a' * b) := by
  linear_combination (a * b + a' * b') * inverse

/-- One round: the folded vectors under the folded generators, by what the cross terms add. -/
theorem commitment_fold (inverse : u * v = 1) (half : ℕ) (a b : ℕ → F) (g h : ℕ → M) (q : M) :
    commitment half (fold half u v a) (fold half v u b) (fold half v u g) (fold half u v h) q =
      commitment (half + half) a b g h q + u ^ 2 • left half a b g h q +
        v ^ 2 • right half a b g h q := by
  have inverse' : v * u = 1 := by rw [mul_comm, inverse]
  rw [commitment_add]
  unfold left right commitment
  rw [smul_sum, smul_sum, ← sum_add_distrib, ← sum_add_distrib, ← sum_add_distrib]
  refine sum_congr rfl fun i _ => ?_
  simp only [fold, smul_eq_mul]
  rw [smul_fold inverse, smul_fold inverse', mul_fold inverse]
  module

end Round

/-! ### All rounds -/

/-- Folded down to one entry; a challenge goes to the upper half, its inverse to the lower. -/
def foldAll : List F → (ℕ → M) → M
  | [], v => v 0
  | u :: us, v => foldAll us (fold (2 ^ us.length) u⁻¹ u v)

/-- What the entry at this index is multiplied with in the end. -/
def weight : List F → ℕ → F
  | [], _ => 1
  | u :: us, i => (if 2 ^ us.length ≤ i then u else u⁻¹) * weight us (i % 2 ^ us.length)

theorem foldAll_eq_sum (us : List F) (v : ℕ → M) :
    foldAll us v = ∑ i ∈ range (2 ^ us.length), weight us i • v i := by
  induction us generalizing v with
  | nil => simp [foldAll, weight]
  | cons u us ih =>
    rw [foldAll, ih, List.length_cons, pow_succ, mul_two, sum_range_add, ← sum_add_distrib]
    refine sum_congr rfl fun i inside => ?_
    have lt := mem_range.mp inside
    have low : weight (u :: us) i = u⁻¹ * weight us i := by
      rw [weight, if_neg (by omega), Nat.mod_eq_of_lt lt]
    have high : weight (u :: us) (2 ^ us.length + i) = u * weight us i := by
      rw [weight, if_pos (by omega), Nat.add_mod_left, Nat.mod_eq_of_lt lt]
    rw [low, high]
    simp only [fold, upper]
    module

/-- The cross terms of all rounds. -/
def crossTerms : List F → (ℕ → F) → (ℕ → F) → (ℕ → M) → (ℕ → M) → M → List (M × M)
  | [], _, _, _, _, _ => []
  | u :: us, a, b, g, h, q =>
    let half := 2 ^ us.length
    (left half a b g h q, right half a b g h q) ::
      crossTerms us (fold half u u⁻¹ a) (fold half u⁻¹ u b) (fold half u⁻¹ u g)
        (fold half u u⁻¹ h) q

/-- What the cross terms add, under their challenges. -/
def correction : List F → List (M × M) → M
  | u :: us, (l, r) :: rest => u ^ 2 • l + u⁻¹ ^ 2 • r + correction us rest
  | _, _ => 0

/-- By induction on the rounds: one entry of each vector is left. -/
theorem commitment_add_correction {us : List F} (nonzero : ∀ u ∈ us, u ≠ 0) (a b : ℕ → F)
    (g h : ℕ → M) (q : M) :
    commitment (2 ^ us.length) a b g h q + correction us (crossTerms us a b g h q) =
      foldAll (us.map (·⁻¹)) a • foldAll us g + foldAll us b • foldAll (us.map (·⁻¹)) h +
        (foldAll (us.map (·⁻¹)) a * foldAll us b) • q := by
  induction us generalizing a b g h with
  | nil => simp [commitment, correction, foldAll]
  | cons u us ih =>
    have inverse : u * u⁻¹ = 1 := mul_inv_cancel₀ (nonzero u (by simp))
    have rest := ih (fun u listed => nonzero u (by simp [listed])) (fold (2 ^ us.length) u u⁻¹ a)
      (fold (2 ^ us.length) u⁻¹ u b) (fold (2 ^ us.length) u⁻¹ u g) (fold (2 ^ us.length) u u⁻¹ h)
    rw [commitment_fold inverse] at rest
    simp only [List.map_cons, foldAll, List.length_map, inv_inv, List.length_cons, pow_succ,
      mul_two]
    rw [← rest, crossTerms, correction]
    abel

/-! ### Scalars as the generators -/

theorem commitment_mul (n : ℕ) (a b g h : ℕ → F) (q : F) :
    commitment n a b g h q =
      (∑ i ∈ range n, a i * b i) * q + ∑ i ∈ range n, (a i * g i + b i * h i) := by
  unfold commitment
  simp only [smul_eq_mul]
  rw [sum_add_distrib, ← sum_mul, add_comm]

theorem fold_mul (half : ℕ) (s t : F) (v : ℕ → F) (i : ℕ) :
    fold half s t v i = v i * s + v (half + i) * t := by
  rw [mul_comm, mul_comm _ t]
  rfl

theorem foldAll_mul (us : List F) (v : ℕ → F) :
    foldAll us v = ∑ i ∈ range (2 ^ us.length), weight us i * v i := foldAll_eq_sum us v

theorem correction_mul (u : F) (us : List F) (l r : F) (rest : List (F × F)) :
    correction (u :: us) ((l, r) :: rest) = u * u * l + u⁻¹ * u⁻¹ * r + correction us rest := by
  rw [correction, smul_eq_mul, smul_eq_mul, sq, sq]

end Host.InnerProduct
