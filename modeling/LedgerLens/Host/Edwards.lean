import Mathlib.Tactic
import Mathlib.Algebra.Field.Basic

/-!
Twisted Edwards curves `y ^ 2 - x ^ 2 = 1 + d x ^ 2 y ^ 2` over a field in which -1
is a square and `d` is none. The addition law has no exceptions there, and makes
the points a commutative group.
-/

namespace Host

/-- The constants of such a curve. -/
structure EdwardsCurve (F : Type) [Field F] where
  d : F
  i : F
  i_mul_i : i * i = -1
  nonsquare : ∀ r, r * r ≠ d
  two_ne_zero : (2 : F) ≠ 0

namespace EdwardsCurve

variable {F : Type} [Field F] (c : EdwardsCurve F)

def OnCurve (x y : F) : Prop := y ^ 2 - x ^ 2 = 1 + c.d * x ^ 2 * y ^ 2

/-! ### The addition law -/

section Law

variable {c} {x₁ y₁ x₂ y₂ x₃ y₃ : F}

/-- A denominator that vanished would make `d` the square of a quotient. -/
theorem product_sq_ne_one (on₁ : c.OnCurve x₁ y₁) (on₂ : c.OnCurve x₂ y₂) :
    (c.d * x₁ * x₂ * y₁ * y₂) ^ 2 ≠ 1 := by
  intro isOne
  unfold OnCurve at on₁ on₂
  have square : (c.i * x₁ + c.d * x₁ * x₂ * y₁ * y₂ * y₁) ^ 2 =
      c.d * (x₁ * y₁ * (c.i * x₂ + y₂)) ^ 2 := by
    linear_combination (y₁ ^ 2 - 1) * isOne + on₁ - c.d * x₁ ^ 2 * y₁ ^ 2 * on₂ +
      (x₁ ^ 2 - c.d * x₁ ^ 2 * y₁ ^ 2 * x₂ ^ 2) * c.i_mul_i
  have square' : (c.i * x₁ - c.d * x₁ * x₂ * y₁ * y₂ * y₁) ^ 2 =
      c.d * (x₁ * y₁ * (c.i * x₂ - y₂)) ^ 2 := by
    linear_combination (y₁ ^ 2 - 1) * isOne + on₁ - c.d * x₁ ^ 2 * y₁ ^ 2 * on₂ +
      (x₁ ^ 2 - c.d * x₁ ^ 2 * y₁ ^ 2 * x₂ ^ 2) * c.i_mul_i
  have notSquare {a b : F} (b_ne : b ≠ 0) : a ^ 2 ≠ c.d * b ^ 2 := by
    intro same
    refine c.nonsquare (a / b) ?_
    field_simp
    linear_combination same
  have ne_zero : c.d * x₁ * x₂ * y₁ * y₂ ≠ 0 := by
    intro zero
    rw [zero] at isOne
    norm_num at isOne
  have parts : x₁ ≠ 0 ∧ y₁ ≠ 0 ∧ y₂ ≠ 0 := by
    refine ⟨?_, ?_, ?_⟩ <;> rintro rfl <;> simp at ne_zero
  obtain ⟨x₁_ne, y₁_ne, y₂_ne⟩ := parts
  by_cases vanishes : c.i * x₂ + y₂ = 0
  · refine notSquare (mul_ne_zero (mul_ne_zero x₁_ne y₁_ne) ?_) square'
    intro vanishes'
    have : 2 * y₂ = 0 := by linear_combination vanishes - vanishes'
    exact (mul_ne_zero c.two_ne_zero y₂_ne) this
  · exact notSquare (mul_ne_zero (mul_ne_zero x₁_ne y₁_ne) vanishes) square

theorem one_add_product_ne_zero (on₁ : c.OnCurve x₁ y₁) (on₂ : c.OnCurve x₂ y₂) :
    1 + c.d * x₁ * x₂ * y₁ * y₂ ≠ 0 := by
  intro zero
  refine product_sq_ne_one on₁ on₂ ?_
  linear_combination (c.d * x₁ * x₂ * y₁ * y₂ - 1) * zero

theorem one_sub_product_ne_zero (on₁ : c.OnCurve x₁ y₁) (on₂ : c.OnCurve x₂ y₂) :
    1 - c.d * x₁ * x₂ * y₁ * y₂ ≠ 0 := by
  intro zero
  refine product_sq_ne_one on₁ on₂ ?_
  linear_combination (-c.d * x₁ * x₂ * y₁ * y₂ - 1) * zero

variable (c) in
def addX (x₁ y₁ x₂ y₂ : F) : F := (x₁ * y₂ + y₁ * x₂) / (1 + c.d * x₁ * x₂ * y₁ * y₂)

variable (c) in
def addY (x₁ y₁ x₂ y₂ : F) : F := (y₁ * y₂ + x₁ * x₂) / (1 - c.d * x₁ * x₂ * y₁ * y₂)

/-! Fractions, one for each coordinate, of which the denominators do not vanish. -/

section Fractions

variable {a b e f : F} (b_ne : b ≠ 0) (f_ne : f ≠ 0)

include b_ne f_ne

theorem onCurve_div_iff :
    c.OnCurve (a / b) (e / f) ↔
      e ^ 2 * b ^ 2 - a ^ 2 * f ^ 2 = b ^ 2 * f ^ 2 + c.d * a ^ 2 * e ^ 2 := by
  unfold OnCurve
  field_simp

theorem addX_div (defined : 1 + c.d * (a / b) * x₃ * (e / f) * y₃ ≠ 0) :
    b * f + c.d * a * e * x₃ * y₃ ≠ 0 ∧ c.addX (a / b) (e / f) x₃ y₃ =
      (a * f * y₃ + e * b * x₃) / (b * f + c.d * a * e * x₃ * y₃) := by
  have isProduct : b * f + c.d * a * e * x₃ * y₃ =
      (1 + c.d * (a / b) * x₃ * (e / f) * y₃) * (b * f) := by
    field_simp
  rw [isProduct]
  refine ⟨mul_ne_zero defined (mul_ne_zero b_ne f_ne), ?_⟩
  unfold addX
  rw [← mul_div_mul_right _ _ (mul_ne_zero b_ne f_ne)]
  congr 1
  field_simp

end Fractions

theorem onCurve_add (on₁ : c.OnCurve x₁ y₁) (on₂ : c.OnCurve x₂ y₂) :
    c.OnCurve (c.addX x₁ y₁ x₂ y₂) (c.addY x₁ y₁ x₂ y₂) := by
  unfold addX addY
  rw [onCurve_div_iff (one_add_product_ne_zero on₁ on₂) (one_sub_product_ne_zero on₁ on₂)]
  unfold OnCurve at on₁ on₂
  linear_combination
    ((1 + (c.d * x₁ * x₂ * y₁ * y₂) ^ 2) * (y₂ ^ 2 - x₂ ^ 2) -
      c.d * x₂ ^ 2 * y₂ ^ 2 * (y₁ ^ 2 - x₁ ^ 2 + 1 + c.d * x₁ ^ 2 * y₁ ^ 2)) * on₁ +
    ((1 + (c.d * x₁ * x₂ * y₁ * y₂) ^ 2) * (1 + c.d * x₁ ^ 2 * y₁ ^ 2) -
      c.d * x₁ ^ 2 * y₁ ^ 2 * (y₂ ^ 2 - x₂ ^ 2 + 1 + c.d * x₂ ^ 2 * y₂ ^ 2)) * on₂

variable (c) in
theorem addX_comm (x₁ y₁ x₂ y₂ : F) : c.addX x₁ y₁ x₂ y₂ = c.addX x₂ y₂ x₁ y₁ := by
  unfold addX
  congr 1 <;> ring

variable (c) in
theorem addY_comm (x₁ y₁ x₂ y₂ : F) : c.addY x₁ y₁ x₂ y₂ = c.addY x₂ y₂ x₁ y₁ := by
  unfold addY
  congr 1 <;> ring

/-- Cross-multiplied, the two sides differ by multiples of the curve equations. -/
theorem addX_assoc (on₁ : c.OnCurve x₁ y₁) (on₂ : c.OnCurve x₂ y₂) (on₃ : c.OnCurve x₃ y₃) :
    c.addX (c.addX x₁ y₁ x₂ y₂) (c.addY x₁ y₁ x₂ y₂) x₃ y₃ =
      c.addX x₁ y₁ (c.addX x₂ y₂ x₃ y₃) (c.addY x₂ y₂ x₃ y₃) := by
  obtain ⟨left_ne, left⟩ := addX_div (one_add_product_ne_zero on₁ on₂)
    (one_sub_product_ne_zero on₁ on₂) (one_add_product_ne_zero (onCurve_add on₁ on₂) on₃)
  obtain ⟨right_ne, right⟩ := addX_div (one_add_product_ne_zero on₂ on₃)
    (one_sub_product_ne_zero on₂ on₃) (one_add_product_ne_zero (onCurve_add on₂ on₃) on₁)
  refine left.trans (Eq.trans ?_ (right.symm.trans (addX_comm c _ _ _ _)))
  rw [div_eq_div_iff left_ne right_ne]
  unfold OnCurve at on₁ on₂ on₃
  linear_combination
    c.d * x₂ * y₂ *
      ((c.d * x₂ ^ 2 * y₂ ^ 2 * x₃ * y₃ * (y₁ * y₂ * x₃ + y₁ * x₂ * y₃ - x₁ * y₂ * y₃ -
        x₁ * x₂ * x₃)
        - y₂ ^ 3 * x₃ * y₃ * (y₁ * x₃ - x₁ * y₃) + x₂ ^ 3 * x₃ * y₃ * (y₁ * y₃ - x₁ * x₃)
        - x₂ * y₂ ^ 2 * (y₁ * x₃ * (1 + x₃ ^ 2) + x₁ * y₃ * (1 - y₃ ^ 2))
        - x₂ ^ 2 * y₂ * (y₁ * y₃ * (1 - y₃ ^ 2) + x₁ * x₃ * (1 + x₃ ^ 2))) * on₁
      + ((1 + x₁ ^ 2 - y₁ ^ 2) * x₃ * y₃ * (x₁ * y₂ * y₃ + x₁ * x₂ * x₃ - y₁ * y₂ * x₃ -
        y₁ * x₂ * y₃)
        + c.d * x₁ * y₁ * x₃ ^ 2 * y₃ ^ 2 *
          (y₁ * y₂ * x₃ - y₁ * x₂ * y₃ - x₁ * y₂ * y₃ + x₁ * x₂ * x₃)) * on₂
      + ((1 + x₁ ^ 2 - y₁ ^ 2) * x₂ * y₂ * (y₂ * (y₁ * x₃ + x₁ * y₃) + x₂ * (y₁ * y₃ + x₁ * x₃))
        + x₁ * y₁ * (y₁ * x₂ * y₃ - y₁ * y₂ * x₃ + x₁ * y₂ * y₃ - x₁ * x₂ * x₃)) * on₃)

variable (c) in
/-- Turned by the point `(i, 0)`, the coordinates of a sum change places. -/
theorem add_turned (x₁ y₁ x₂ y₂ : F) :
    c.addX (c.i * y₁) (c.i * x₁) x₂ y₂ = c.i * c.addY x₁ y₁ x₂ y₂ ∧
      c.addY (c.i * y₁) (c.i * x₁) x₂ y₂ = c.i * c.addX x₁ y₁ x₂ y₂ := by
  unfold addX addY
  rw [← mul_div_assoc, ← mul_div_assoc]
  constructor <;> congr 1
  · ring
  · linear_combination c.d * x₁ * x₂ * y₁ * y₂ * c.i_mul_i
  · ring
  · linear_combination -c.d * x₁ * x₂ * y₁ * y₂ * c.i_mul_i

theorem addY_assoc (on₁ : c.OnCurve x₁ y₁) (on₂ : c.OnCurve x₂ y₂) (on₃ : c.OnCurve x₃ y₃) :
    c.addY (c.addX x₁ y₁ x₂ y₂) (c.addY x₁ y₁ x₂ y₂) x₃ y₃ =
      c.addY x₁ y₁ (c.addX x₂ y₂ x₃ y₃) (c.addY x₂ y₂ x₃ y₃) := by
  have turned : c.OnCurve (c.i * y₁) (c.i * x₁) := by
    unfold OnCurve at on₁ ⊢
    linear_combination on₁ +
      (x₁ ^ 2 - y₁ ^ 2 - c.d * x₁ ^ 2 * y₁ ^ 2 * (c.i * c.i - 1)) * c.i_mul_i
  have assoc := addX_assoc turned on₂ on₃
  simp only [add_turned] at assoc
  refine mul_left_cancel₀ (fun zero => ?_) assoc
  simpa [zero] using c.i_mul_i

end Law

/-! ### The group -/

@[ext]
structure Point where
  x : F
  y : F
  onCurve : c.OnCurve x y

namespace Point

variable {c}

instance : Zero c.Point := ⟨0, 1, by simp [OnCurve]⟩

instance : Neg c.Point :=
  ⟨fun P => ⟨-P.x, P.y, by rw [OnCurve, neg_sq]; exact P.onCurve⟩⟩

instance : Add c.Point :=
  ⟨fun P Q => ⟨c.addX P.x P.y Q.x Q.y, c.addY P.x P.y Q.x Q.y, onCurve_add P.onCurve Q.onCurve⟩⟩

@[simp] theorem zero_x : (0 : c.Point).x = 0 := rfl

@[simp] theorem zero_y : (0 : c.Point).y = 1 := rfl

@[simp] theorem neg_x (P : c.Point) : (-P).x = -P.x := rfl

@[simp] theorem neg_y (P : c.Point) : (-P).y = P.y := rfl

theorem add_x (P Q : c.Point) : (P + Q).x = c.addX P.x P.y Q.x Q.y := rfl

theorem add_y (P Q : c.Point) : (P + Q).y = c.addY P.x P.y Q.x Q.y := rfl

theorem add_comm (P Q : c.Point) : P + Q = Q + P :=
  Point.ext (addX_comm c _ _ _ _) (addY_comm c _ _ _ _)

theorem zero_add (P : c.Point) : 0 + P = P := by
  refine Point.ext ?_ ?_
  · simp [add_x, addX]
  · simp [add_y, addY]

theorem neg_add_cancel (P : c.Point) : -P + P = 0 := by
  have on := P.onCurve
  have defined := one_sub_product_ne_zero (-P).onCurve P.onCurve
  refine Point.ext ?_ ?_
  · have vanishes : (-P).x * P.y + (-P).y * P.x = 0 := by
      rw [neg_x, neg_y]
      ring
    rw [add_x, addX, vanishes, zero_div, zero_x]
  · rw [add_y, addY, zero_y, div_eq_one_iff_eq defined, neg_x, neg_y]
    unfold OnCurve at on
    linear_combination on

instance : AddCommGroup c.Point where
  add_assoc P Q R := Point.ext (addX_assoc P.onCurve Q.onCurve R.onCurve)
    (addY_assoc P.onCurve Q.onCurve R.onCurve)
  zero_add := zero_add
  add_zero P := by rw [add_comm, zero_add]
  neg_add_cancel := neg_add_cancel
  add_comm := add_comm
  nsmul := nsmulRec
  zsmul := zsmulRec

end Point

end EdwardsCurve

end Host
