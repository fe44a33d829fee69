import Mathlib.Data.Nat.Sqrt
import Mathlib.Tactic.Linarith
import Mathlib.Tactic.Zify

/-!
Integer square roots by Newton's method. The guesses fall until they are at the root; the loop is
over numbers of bounded size, and does not leave them.
-/

namespace Host

/-- The loop from the guess `x`, of which `y` is the next. `none` is an overflow, or a division by
zero. -/
def newtonLoop (bound n x y : Nat) : Option Nat :=
  if y < x then
    if 0 < y ∧ y + n / y < bound then newtonLoop bound n y ((y + n / y) / 2) else none
  else some x
termination_by x

/-- From half the number on, rounded up. -/
def newtonRoot (bound n : Nat) : Option Nat :=
  if n = 0 then some 0 else newtonLoop bound n n ((n + 1) / 2)

section Roots

variable {bound n x : Nat}

/-- A step from a positive guess does not fall below the root. -/
theorem sqrt_le_newtonStep (n : Nat) (positive : 0 < x) : n.sqrt ≤ (x + n / x) / 2 := by
  have below := Nat.sqrt_le n
  generalize n.sqrt = s at below ⊢
  have quotient : 2 * s - x ≤ n / x := by
    rw [Nat.le_div_iff_mul_le positive]
    rcases Nat.le_total (2 * s) x with small | large
    · simp [Nat.sub_eq_zero_of_le small]
    · zify [large] at below ⊢
      nlinarith [sq_nonneg ((s : Int) - x)]
  omega

/-- A guess that the next one is not below is the root. -/
theorem eq_sqrt_of_le_newtonStep (positive : 0 < x) (above : n.sqrt ≤ x)
    (stays : x ≤ (x + n / x) / 2) : x = n.sqrt := by
  have large : x ≤ n / x := by omega
  have below : x ≤ n.sqrt := Nat.le_sqrt.mpr ((Nat.le_div_iff_mul_le positive).mp large)
  exact le_antisymm below above

/-- What is halved is no larger than the number itself, apart from the smallest numbers. -/
theorem newtonSum_le (above : n.sqrt ≤ x) (small : x ≤ (n + 1) / 2) (positive : 0 < x) :
    x + n / x ≤ max n 4 := by
  rcases Nat.lt_or_ge x 2 with one | two
  · obtain rfl : x = 1 := by omega
    have few : n < 2 * 2 := Nat.sqrt_lt.mp (by omega)
    rw [Nat.div_one]
    omega
  · have half : n / x ≤ n / 2 := Nat.div_le_div_left two (by decide)
    omega

/-- By induction on the guess; every guess but the first is at most half the number. -/
theorem newtonLoop_eq (nonzero : 0 < n) (fits : max n 4 < bound) (above : n.sqrt ≤ x)
    (guess : x = n ∨ x ≤ (n + 1) / 2) : newtonLoop bound n x ((x + n / x) / 2) = some n.sqrt := by
  induction x using Nat.strong_induction_on with
  | _ x ih =>
    have positive : 0 < x := (Nat.sqrt_pos.mpr nonzero).trans_le above
    have above' := sqrt_le_newtonStep n positive
    rw [newtonLoop]
    split
    · next falls =>
      have positive' : 0 < (x + n / x) / 2 := (Nat.sqrt_pos.mpr nonzero).trans_le above'
      have small : (x + n / x) / 2 ≤ (n + 1) / 2 := by
        rcases guess with rfl | half
        · rw [Nat.div_self nonzero]
        · exact falls.le.trans half
      have inside := (newtonSum_le above' small positive').trans_lt fits
      rw [if_pos ⟨positive', inside⟩]
      exact ih _ falls above' (.inr small)
    · next stays => rw [← eq_sqrt_of_le_newtonStep positive above (by omega)]

theorem newtonRoot_eq (fits : max n 4 < bound) : newtonRoot bound n = some n.sqrt := by
  unfold newtonRoot
  split
  · next zero => rw [zero, Nat.sqrt_zero]
  · next nonzero =>
    have positive : 0 < n := Nat.pos_of_ne_zero nonzero
    have guess : (n + 1) / 2 = (n + n / n) / 2 := by rw [Nat.div_self positive]
    rw [guess, newtonLoop_eq positive fits (Nat.sqrt_le_self n) (.inl rfl)]

end Roots

end Host
