import LedgerLens.Crypto.Point
import LedgerLens.Crypto.Scalar

/-!
The generators of the commitments. All of them are multiples of the base point, so
points are known by their exponents, modulo the order of the base point. The main results are
`Pt.add_mul_laws` and `commit_add`.
-/

namespace LedgerLens.Zk

open Host

/-! ### The order of the base point -/

/-- A point without divisions: its coordinates are `X / Z` and `Y / Z`. -/
structure Projective where
  X : Nat
  Y : Nat
  Z : Nat
  deriving DecidableEq

/-- `d` and `-d`. -/
def dNat : Nat := 37095705934669439343138083508754565189542113879843219016388785533085940283555

def dNeg : Nat := p - dNat

namespace Projective

def zero : Projective := ⟨0, 1, 1⟩

def add (P Q : Projective) : Projective :=
  let a := P.Z * Q.Z % p
  let b := a * a % p
  let c := P.X * Q.X % p
  let e := P.Y * Q.Y % p
  let f := (b + dNeg * c % p * e) % p
  let g := (b + dNat * c % p * e) % p
  ⟨a * f % p * (P.X * Q.Y + P.Y * Q.X) % p, a * g % p * (e + c) % p, f * g % p⟩

structure Is (P : Projective) (Q : curve.Point) : Prop where
  ne_zero : (P.Z : ZMod p) ≠ 0
  x : (P.X : ZMod p) = Q.x * P.Z
  y : (P.Y : ZMod p) = Q.y * P.Z

theorem dNat_eq : (dNat : ZMod p) = curve.d := by
  have unit : (121666 : ZMod p) ≠ 0 := by
    exact_mod_cast cast_ne_zero (n := 121666) (by decide) (by decide)
  have product : ((121666 * dNat + 121665 : Nat) : ZMod p) = 0 := by
    rw [ZMod.natCast_eq_zero_iff]
    decide
  push_cast at product
  have isD : curve.d = -121665 * 121666⁻¹ := rfl
  rw [isD]
  field_simp
  linear_combination product

theorem dNeg_eq : (dNeg : ZMod p) = -curve.d := by
  rw [dNeg, Nat.cast_sub (by decide), ZMod.natCast_self, zero_sub, dNat_eq]

theorem zero_is : zero.Is 0 := ⟨by simp [zero], by simp [zero], by simp [zero]⟩

variable {P P' : Projective} {Q Q' : curve.Point}

theorem Is.add (isQ : P.Is Q) (isQ' : P'.Is Q') : (P.add P').Is (Q + Q') := by
  have plus := EdwardsCurve.one_add_product_ne_zero Q.onCurve Q'.onCurve
  have minus := EdwardsCurve.one_sub_product_ne_zero Q.onCurve Q'.onCurve
  have square : ((P.Z : ZMod p) * P'.Z) ^ 2 ≠ 0 :=
    pow_ne_zero 2 (mul_ne_zero isQ.ne_zero isQ'.ne_zero)
  have isX : (Q + Q').x * (1 + curve.d * Q.x * Q'.x * Q.y * Q'.y) = Q.x * Q'.y + Q.y * Q'.x :=
    div_mul_cancel₀ _ plus
  have isY : (Q + Q').y * (1 - curve.d * Q.x * Q'.x * Q.y * Q'.y) = Q.y * Q'.y + Q.x * Q'.x :=
    div_mul_cancel₀ _ minus
  have z : ((P.add P').Z : ZMod p) =
      ((P.Z : ZMod p) * P'.Z) ^ 2 * ((P.Z : ZMod p) * P'.Z) ^ 2 *
        ((1 - curve.d * Q.x * Q'.x * Q.y * Q'.y) * (1 + curve.d * Q.x * Q'.x * Q.y * Q'.y)) := by
    simp only [Projective.add, ZMod.natCast_mod, Nat.cast_mul, Nat.cast_add, dNat_eq,
      dNeg_eq, isQ.x,
      isQ.y, isQ'.x, isQ'.y]
    ring
  refine ⟨?_, ?_, ?_⟩
  · rw [z]
    exact mul_ne_zero (mul_ne_zero square square) (mul_ne_zero minus plus)
  · rw [z]
    simp only [Projective.add, ZMod.natCast_mod, Nat.cast_mul, Nat.cast_add, dNeg_eq, isQ.x,
      isQ.y, isQ'.x, isQ'.y]
    linear_combination (-((P.Z : ZMod p) * P'.Z) ^ 4 *
      (1 - curve.d * Q.x * Q'.x * Q.y * Q'.y)) * isX
  · rw [z]
    simp only [Projective.add, ZMod.natCast_mod, Nat.cast_mul, Nat.cast_add, dNat_eq, isQ.x,
      isQ.y, isQ'.x, isQ'.y]
    linear_combination (-((P.Z : ZMod p) * P'.Z) ^ 4 *
      (1 + curve.d * Q.x * Q'.x * Q.y * Q'.y)) * isY

/-- A multiple, for multipliers of so many bits. -/
def mul (P : Projective) (k : Nat) : Projective := binaryPow add zero P (k.log2 + 1) k

theorem Is.mul (isQ : P.Is Q) (k : Nat) : (P.mul k).Is (k • Q) := by
  have step {j k : Nat} {P P' : Projective} (isJ : P.Is (j • Q)) (isK : P'.Is (k • Q)) :
      (P.add P').Is ((j + k) • Q) := by
    rw [add_nsmul]
    exact isJ.add isK
  have isZero : zero.Is (0 • Q) := by
    rw [zero_nsmul]
    exact zero_is
  have isBase : P.Is (1 • Q) := by rwa [one_nsmul]
  exact binaryPow_spec (P := fun k (P : Projective) => P.Is (k • Q)) isZero isBase step
    Nat.lt_log2_self

end Projective

theorem l_nsmul_basePoint : l • basePoint = 0 := by
  have isBase : Projective.Is ⟨g.x.value, g.y.value, 1⟩ basePoint :=
    ⟨by simp, by simp [basePoint, Fe.denoted], by simp [basePoint, Fe.denoted]⟩
  have isMul := isBase.mul l
  have evaluated : (Projective.mul ⟨g.x.value, g.y.value, 1⟩ l).X = 0 ∧
      (Projective.mul ⟨g.x.value, g.y.value, 1⟩ l).Y =
        (Projective.mul ⟨g.x.value, g.y.value, 1⟩ l).Z := by
    decide +kernel
  generalize Projective.mul ⟨g.x.value, g.y.value, 1⟩ l = P at isMul evaluated
  obtain ⟨ne_zero, x, y⟩ := isMul
  refine EdwardsCurve.Point.ext ?_ ?_
  · rw [evaluated.1, Nat.cast_zero] at x
    exact (mul_eq_zero.mp x.symm).resolve_right ne_zero
  · rw [evaluated.2] at y
    exact (mul_eq_right₀ ne_zero).mp y.symm

theorem addOrderOf_basePoint : addOrderOf basePoint = l := by
  refine addOrderOf_eq_prime l_nsmul_basePoint fun zero => ?_
  have x : (g.x.value : ZMod p) = 0 := congrArg EdwardsCurve.Point.x zero
  rw [value_gx] at x
  exact cast_ne_zero (by decide) (by decide) x

/-! ### Exponents -/

/-- The multiple of the base point with this exponent. -/
noncomputable def pointAt : ZMod l →+ curve.Point :=
  ZMod.lift l ⟨zmultiplesHom curve.Point basePoint, by
    simp only [zmultiplesHom_apply, natCast_zsmul]
    exact l_nsmul_basePoint⟩

theorem pointAt_cast (k : Nat) : pointAt k = k • basePoint := by
  have lifted : pointAt ((k : ℤ) : ZMod l) = _ := ZMod.lift_coe l _ (k : ℤ)
  rw [Int.cast_natCast] at lifted
  rw [lifted]
  simp only [zmultiplesHom_apply, natCast_zsmul]

theorem pointAt_injective : Function.Injective pointAt := by
  rw [injective_iff_map_eq_zero]
  intro e zero
  rw [← ZMod.natCast_zmod_val e, pointAt_cast] at zero
  have divides := addOrderOf_dvd_of_nsmul_eq_zero zero
  rw [addOrderOf_basePoint] at divides
  rw [← ZMod.natCast_zmod_val e, (ZMod.natCast_eq_zero_iff _ _).mpr divides]

theorem nsmul_pointAt (k : Nat) (e : ZMod l) : k • pointAt e = pointAt (k * e) := by
  rw [← map_nsmul, nsmul_eq_mul]

namespace Pt

def mul (P : Pt) (scalar : Sc) (d : Fe) : Pt := P.mulLimbs scalar.limbs d

/-- The pair stands for the multiple of the base point with this exponent. -/
def At (P : Pt) (e : ZMod l) : Prop := P.Is (pointAt e)

variable {P Q : Pt} {e f : ZMod l}

theorem At.eq_iff (atE : P.At e) (atF : Q.At f) : P = Q ↔ e = f := by
  rw [Is.eq_iff atE atF, pointAt_injective.eq_iff]

theorem At.add (atE : P.At e) (atF : Q.At f) : (P.add Q curveD).At (e + f) := by
  unfold At
  rw [map_add]
  exact Is.add atE atF

/-- Multiplied by any limbs. -/
theorem At.mul_value (atE : P.At e) (scalar : Sc) :
    (P.mul scalar curveD).At (scalar.value * e) := by
  unfold At
  rw [← nsmul_pointAt]
  exact Is.mulLimbs atE scalar.limbs

theorem At.mul {s : Sc} {x : ZMod l} (atE : P.At e) (isX : s.Is x) :
    (P.mul s curveD).At (x * e) := by
  rw [← isX.eq]
  exact atE.mul_value s

theorem identity_at : identity.At 0 := by
  unfold At
  rw [map_zero]
  exact identity_is

theorem g_at : g.At 1 := by
  have isBase := g_is
  unfold At
  have one : pointAt 1 = basePoint := by
    have := pointAt_cast 1
    rwa [Nat.cast_one, one_nsmul] at this
  rwa [one]

end Pt

/-! ### The generators -/

/-- `G`, `H` and the constant of the curve. -/
def getGenerators : Pt × Pt × Fe :=
  (g, g.mul (Sc.fromU64 8) curveD, curveD)

/-- The generators of the two vectors, by index. -/
def getVectorGenerators (d : Fe) : (Nat → Pt) × (Nat → Pt) :=
  (fun i => g.mul (Sc.fromU64 (UInt64.ofNat (16 + i))) d,
    fun i => g.mul (Sc.fromU64 (UInt64.ofNat (32 + i))) d)

/-- `v * G + r * H`. -/
def commit (v r : Sc) : Pt :=
  let (gPt, hPt, d) := getGenerators
  (gPt.mul v d).add (hPt.mul r d) d

theorem h_at : (g.mul (Sc.fromU64 8) curveD).At 8 := by
  have := Pt.g_at.mul (Sc.fromU64_is 8)
  rwa [mul_one] at this

theorem commit_at {v r : Sc} {x y : ZMod l} (isV : v.Is x) (isR : r.Is y) :
    (commit v r).At (x + y * 8) := by
  have atG := Pt.g_at.mul isV
  rw [mul_one] at atG
  exact atG.add (h_at.mul isR)

/-! ### Sums -/

/-- On the curve addition is associative, multiplication distributes over it, and it does not
matter in which order two scalars are multiplied by. -/
theorem Pt.add_mul_laws {P Q R : Pt} (s t : Sc) (onP : P.OnCurve) (onQ : Q.OnCurve)
    (onR : R.OnCurve) :
    (P.add Q curveD).add R curveD = P.add (Q.add R curveD) curveD ∧
      (P.add Q curveD).mul s curveD = (P.mul s curveD).add (Q.mul s curveD) curveD ∧
      (P.mul s curveD).mul t curveD = (P.mul t curveD).mul s curveD := by
  have mulP (s : Sc) := onP.is.mulLimbs s.limbs
  have sum := onP.is.add onQ.is
  refine ⟨?_, ?_, ?_⟩
  · exact ((sum.add onR.is).eq_iff (onP.is.add (onQ.is.add onR.is))).mpr (add_assoc ..)
  · have right := (mulP s).add (onQ.is.mulLimbs s.limbs)
    exact ((sum.mulLimbs s.limbs).eq_iff right).mpr (nsmul_add ..)
  · exact (((mulP s).mulLimbs t.limbs).eq_iff ((mulP t).mulLimbs s.limbs)).mpr (smul_comm ..)

theorem Pt.add_mul_laws_base :
    (g.add g curveD).add g curveD = g.add (g.add g curveD) curveD ∧
      (g.add g curveD).mul (Sc.fromU64 8) curveD =
        (g.mul (Sc.fromU64 8) curveD).add (g.mul (Sc.fromU64 8) curveD) curveD ∧
      (g.mul (Sc.fromU64 8) curveD).mul (Sc.fromU64 3) curveD =
        (g.mul (Sc.fromU64 3) curveD).mul (Sc.fromU64 8) curveD :=
  add_mul_laws (Sc.fromU64 8) (Sc.fromU64 3) g_is.onCurve g_is.onCurve g_is.onCurve

/-- Commitments add up, the values as well as the blindings. -/
theorem commit_add {v r v' r' : Sc} (vLt : v.value < l) (rLt : r.value < l) (vLt' : v'.value < l)
    (rLt' : r'.value < l) :
    (commit v r).add (commit v' r') curveD = commit (v.add v') (r.add r') := by
  have isV := Sc.is_self vLt
  have isV' := Sc.is_self vLt'
  have isR := Sc.is_self rLt
  have isR' := Sc.is_self rLt'
  have sum := (commit_at isV isR).add (commit_at isV' isR')
  rw [sum.eq_iff (commit_at (isV.add isV') (isR.add isR'))]
  ring

theorem commit_add_ones : (commit .one .zero).add (commit .one .one) curveD =
    commit (Sc.one.add .one) (Sc.zero.add .one) :=
  commit_add Sc.one_is.lt Sc.zero_is.lt Sc.one_is.lt Sc.one_is.lt

end LedgerLens.Zk
