import LedgerLens.Host.InnerProduct

/-!
Range proofs by an inner-product argument: a commitment is to a number whose binary
digits are the entries of a vector. The verifier checks an identity of polynomials
in a challenge, and an inner product.
-/

namespace Host.RangeProof

open Finset Host.InnerProduct

variable {F M : Type} [Field F] [AddCommGroup M] [Module F M]

structure Generators (M : Type) where
  g : M
  h : M
  gs : ℕ → M
  hs : ℕ → M

/-- What the verifier asks. There is a challenge of `us` for every round of the inner product. -/
structure Challenges (F : Type) where
  y : F
  z : F
  x : F
  w : F
  us : List F

/-- Entries of the vectors. -/
def Challenges.size (c : Challenges F) : ℕ := 2 ^ c.us.length

structure Proof (F M : Type) where
  A : M
  S : M
  T1 : M
  T2 : M
  tx : F
  taux : F
  mu : F
  cross : List (M × M)
  a : F
  b : F

/-- What the prover knows: digits, the blinding of the commitment, and what blinds the proof. -/
structure Secrets (F : Type) where
  digits : ℕ → F
  r : F
  alpha : F
  beta : F
  sL : ℕ → F
  sR : ℕ → F
  tau1 : F
  tau2 : F

/-! ### The verifier -/

def delta (n : ℕ) (y z : F) : F :=
  (z - z * z) * ∑ i ∈ range n, y ^ i - z * z * z * ∑ i ∈ range n, 2 ^ i

section Verifier

variable (gens : Generators M) (c : Challenges F) (V : M) (proof : Proof F M)

/-- The identity of polynomials. -/
def ChecksPolynomial : Prop :=
  proof.tx • gens.g + proof.taux • gens.h =
    (c.z * c.z) • V + delta c.size c.y c.z • gens.g + c.x • proof.T1 + (c.x * c.x) • proof.T2

/-- Generators of the second vector, for the powers of `y` it is multiplied with. -/
def twisted (i : ℕ) : M := c.y⁻¹ ^ i • gens.hs i

def ChecksInnerProduct : Prop :=
  proof.A + c.x • proof.S + (-proof.mu) • gens.h +
      ∑ i ∈ range c.size, ((-c.z) • gens.gs i +
        (c.z + c.z * c.z * 2 ^ i * c.y⁻¹ ^ i) • gens.hs i) +
      proof.tx • (c.w • gens.g) + correction c.us proof.cross =
    proof.a • foldAll c.us gens.gs + proof.b • foldAll (c.us.map (·⁻¹)) (twisted gens c) +
      (proof.a * proof.b) • (c.w • gens.g)

end Verifier

/-! ### The prover -/

section Prover

variable (gens : Generators M) (c : Challenges F) (s : Secrets F)

/-- The vectors of which the inner product is proved. -/
def leftVector (i : ℕ) : F := s.digits i - c.z + s.sL i * c.x

def rightVector (i : ℕ) : F :=
  c.y ^ i * (s.digits i - 1 + c.z + s.sR i * c.x) + c.z * c.z * 2 ^ i

/-- Coefficients of their inner product. -/
def t1 : F :=
  ∑ i ∈ range c.size, ((s.digits i - c.z) * (c.y ^ i * s.sR i) +
    s.sL i * (c.y ^ i * (s.digits i - 1 + c.z) + c.z * c.z * 2 ^ i))

def t2 : F := ∑ i ∈ range c.size, s.sL i * (c.y ^ i * s.sR i)

def honest : Proof F M where
  A := s.alpha • gens.h +
    ∑ i ∈ range c.size, (s.digits i • gens.gs i + (s.digits i - 1) • gens.hs i)
  S := s.beta • gens.h + ∑ i ∈ range c.size, (s.sL i • gens.gs i + s.sR i • gens.hs i)
  T1 := t1 c s • gens.g + s.tau1 • gens.h
  T2 := t2 c s • gens.g + s.tau2 • gens.h
  tx := ∑ i ∈ range c.size, leftVector c s i * rightVector c s i
  taux := s.tau2 * (c.x * c.x) + s.tau1 * c.x + c.z * c.z * s.r
  mu := s.alpha + s.beta * c.x
  cross := crossTerms c.us (leftVector c s) (rightVector c s) gens.gs (twisted gens c)
    (c.w • gens.g)
  a := foldAll (c.us.map (·⁻¹)) (leftVector c s)
  b := foldAll c.us (rightVector c s)

/-- The number with these digits. -/
def number : F := ∑ i ∈ range c.size, s.digits i * 2 ^ i

variable {c s}

/-- The constant coefficient is `z * z` times the number, and `delta`. -/
theorem inner_eq (binary : ∀ i < c.size, s.digits i * s.digits i = s.digits i) :
    ∑ i ∈ range c.size, leftVector c s i * rightVector c s i =
      c.z * c.z * number c s + delta c.size c.y c.z + c.x * t1 c s + c.x * c.x * t2 c s := by
  unfold number delta t1 t2
  simp only [mul_sum]
  rw [← sum_sub_distrib, ← sum_add_distrib, ← sum_add_distrib, ← sum_add_distrib]
  refine sum_congr rfl fun i inside => ?_
  unfold leftVector rightVector
  linear_combination c.y ^ i * binary i (mem_range.mp inside)

theorem checksPolynomial_honest (binary : ∀ i < c.size, s.digits i * s.digits i = s.digits i) :
    ChecksPolynomial gens c (number c s • gens.g + s.r • gens.h) (honest gens c s) := by
  unfold ChecksPolynomial honest
  dsimp only
  rw [inner_eq binary]
  module

/-- What the verifier starts from commits to the vectors. -/
theorem start_eq (unit : c.y ≠ 0) :
    (honest gens c s).A + c.x • (honest gens c s).S + (-(honest gens c s).mu) • gens.h +
        ∑ i ∈ range c.size, ((-c.z) • gens.gs i +
          (c.z + c.z * c.z * 2 ^ i * c.y⁻¹ ^ i) • gens.hs i) +
        (honest gens c s).tx • (c.w • gens.g) =
      commitment c.size (leftVector c s) (rightVector c s) gens.gs (twisted gens c)
        (c.w • gens.g) := by
  have blinds (D S : M) : s.alpha • gens.h + D + c.x • (s.beta • gens.h + S) +
      (-(s.alpha + s.beta * c.x)) • gens.h = D + c.x • S := by
    module
  unfold honest commitment
  dsimp only
  rw [blinds, smul_sum, sum_smul, ← sum_add_distrib, ← sum_add_distrib, ← sum_add_distrib]
  refine sum_congr rfl fun i _ => ?_
  have power : c.y⁻¹ ^ i * c.y ^ i = 1 := by rw [← mul_pow, inv_mul_cancel₀ unit, one_pow]
  have untwisted : rightVector c s i * c.y⁻¹ ^ i =
      s.digits i - 1 + c.z + s.sR i * c.x + c.z * c.z * 2 ^ i * c.y⁻¹ ^ i := by
    unfold rightVector
    linear_combination (s.digits i - 1 + c.z + s.sR i * c.x) * power
  unfold twisted
  rw [smul_smul (rightVector c s i), untwisted]
  unfold leftVector
  module

theorem checksInnerProduct_honest (unit : c.y ≠ 0) (units : ∀ u ∈ c.us, u ≠ 0) :
    ChecksInnerProduct gens c (honest gens c s) := by
  unfold ChecksInnerProduct
  rw [start_eq gens unit]
  exact commitment_add_correction units _ _ _ _ _

end Prover

/-! ### Scalars as the generators -/

section Scalars

variable (gens : Generators F) (c : Challenges F)

theorem checksPolynomial_mul (V : F) (proof : Proof F F) :
    ChecksPolynomial gens c V proof ↔
      proof.tx * gens.g + proof.taux * gens.h =
        c.z * c.z * V + delta c.size c.y c.z * gens.g + c.x * proof.T1 +
          c.x * c.x * proof.T2 := Iff.rfl

theorem checksInnerProduct_mul (proof : Proof F F) :
    ChecksInnerProduct gens c proof ↔
      proof.A + c.x * proof.S + -proof.mu * gens.h +
          ∑ i ∈ range c.size, (-c.z * gens.gs i +
            (c.z + c.z * c.z * 2 ^ i * c.y⁻¹ ^ i) * gens.hs i) +
          proof.tx * (c.w * gens.g) + correction c.us proof.cross =
        proof.a * foldAll c.us gens.gs + proof.b * foldAll (c.us.map (·⁻¹)) (twisted gens c) +
          proof.a * proof.b * (c.w * gens.g) := Iff.rfl

theorem honest_mul (s : Secrets F) :
    honest gens c s = {
      A := s.alpha * gens.h +
        ∑ i ∈ range c.size, (s.digits i * gens.gs i + (s.digits i - 1) * gens.hs i)
      S := s.beta * gens.h + ∑ i ∈ range c.size, (s.sL i * gens.gs i + s.sR i * gens.hs i)
      T1 := t1 c s * gens.g + s.tau1 * gens.h
      T2 := t2 c s * gens.g + s.tau2 * gens.h
      tx := ∑ i ∈ range c.size, leftVector c s i * rightVector c s i
      taux := s.tau2 * (c.x * c.x) + s.tau1 * c.x + c.z * c.z * s.r
      mu := s.alpha + s.beta * c.x
      cross := crossTerms c.us (leftVector c s) (rightVector c s) gens.gs (twisted gens c)
        (c.w * gens.g)
      a := foldAll (c.us.map (·⁻¹)) (leftVector c s)
      b := foldAll c.us (rightVector c s) } := rfl

end Scalars

end Host.RangeProof
