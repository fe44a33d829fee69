import LedgerLens.Host.Edwards
import LedgerLens.Crypto.Field

/-!
Points of Ed25519 as pairs of field elements, with the arithmetic of the source and
its test for the curve. A pair stands for a point; addition and multiplication are
those of the group. The main result is `add_complete`.
-/

namespace LedgerLens.Zk

open Host

structure Pt where
  x : Fe
  y : Fe
  deriving DecidableEq

/-- `-121665 / 121666`, which the source computes wherever it needs it. -/
def curveD : Fe := (Fe.fromU64 121665).neg.mul (Fe.fromU64 121666).invert

namespace Pt

def identity : Pt := ⟨.zero, .one⟩

def isIdentity (P : Pt) : Bool := P.x.isZero && P.y = .one

def add (P Q : Pt) (d : Fe) : Pt :=
  if P.isIdentity then Q
  else if Q.isIdentity then P
  else
    let x1x2 := P.x.mul Q.x
    let y1y2 := P.y.mul Q.y
    let x1y2 := P.x.mul Q.y
    let y1x2 := P.y.mul Q.x
    let dx1x2y1y2 := (d.mul x1x2).mul y1y2
    let numX := x1y2.add y1x2
    let denX := Fe.one.add dx1x2y1y2
    let numY := y1y2.add x1x2
    let denY := Fe.one.sub dx1x2y1y2
    ⟨numX.mul denX.invert, numY.mul denY.invert⟩

/-- Multiplied by a number of 256 bits, whatever it is a scalar of. -/
def mulLimbs (P : Pt) (scalar : U256) (d : Fe) : Pt :=
  Limbs.powLoop (fun P Q => P.add Q d) 256 identity P scalar

end Pt

def isOnCurve (x y d : Fe) : Bool :=
  let x2 := x.mul x
  let y2 := y.mul y
  y2.sub x2 = Fe.one.add ((d.mul x2).mul y2)

/-- A square root of -1. -/
def iVal : Fe := .of 0xc4ee1b274a0ea0b0 0x2f431806ad2fe478 0x2b4d00993dfbd7a7 0x2b8324804fc1df0b

/-! ### The curve -/

theorem cast_ne_zero {n : Nat} (positive : 0 < n) (small : n < p) : (n : ZMod p) ≠ 0 := by
  rw [Ne, ZMod.natCast_eq_zero_iff]
  exact Nat.not_dvd_of_pos_of_lt positive small

theorem two_ne_zero : (2 : ZMod p) ≠ 0 := by
  exact_mod_cast cast_ne_zero (n := 2) (by decide) (by decide)

/-- Euler's criterion. -/
theorem not_square {n : Nat} (euler : powMod p n ((p - 1) / 2) = p - 1) (s : ZMod p) :
    s ^ 2 ≠ n := by
  intro square
  have power := (cast_pow_eq_iff (m := p) (by decide)).mpr euler
  rw [← square, ← pow_mul, Nat.cast_sub (by decide), ZMod.natCast_self, Nat.cast_one, zero_sub]
    at power
  rcases eq_or_ne s 0 with rfl | ne
  · rw [zero_pow (by decide)] at power
    exact one_ne_zero (neg_eq_zero.mp power.symm)
  · have one : s ^ (2 * ((p - 1) / 2)) = 1 := ZMod.pow_card_sub_one_eq_one ne
    rw [one] at power
    refine two_ne_zero ?_
    linear_combination power

/-- A root would give one of `-121665 * 121666`. -/
theorem curve_nonsquare (r : ZMod p) : r * r ≠ -121665 * 121666⁻¹ := by
  intro square
  have unit : (121666 : ZMod p) ≠ 0 := by
    exact_mod_cast cast_ne_zero (n := 121666) (by decide) (by decide)
  refine not_square (n := p - 121665 * 121666) (by decide +kernel) (121666 * r) ?_
  rw [Nat.cast_sub (by decide), ZMod.natCast_self, zero_sub, mul_pow, pow_two r, square]
  push_cast
  field_simp
  norm_num

theorem value_iVal : iVal.value =
    0x2b8324804fc1df0b2b4d00993dfbd7a72f431806ad2fe478c4ee1b274a0ea0b0 :=
  (U256.value_of ..).trans (by decide)

theorem iVal_is : iVal.Is iVal.denoted := Fe.is_denoted (value_iVal.trans_lt (by decide))

theorem iVal_mul_iVal : iVal.denoted * iVal.denoted = -1 := by
  have square : ((iVal.value * iVal.value + 1 : Nat) : ZMod p) = 0 := by
    rw [ZMod.natCast_eq_zero_iff, value_iVal]
    decide
  push_cast at square
  unfold Fe.denoted
  linear_combination square

/-- Ed25519. -/
def curve : EdwardsCurve (ZMod p) where
  d := -121665 * 121666⁻¹
  i := iVal.denoted
  i_mul_i := iVal_mul_iVal
  nonsquare := curve_nonsquare
  two_ne_zero := two_ne_zero

theorem curveD_is : curveD.Is curve.d :=
    (Fe.fromU64_is 121665).neg.mul (Fe.fromU64_is 121666).invert

/-- The pair stands for this point. -/
structure Pt.Is (P : Pt) (Q : curve.Point) : Prop where
  x : P.x.Is Q.x
  y : P.y.Is Q.y

namespace Pt

variable {P P' : Pt} {Q Q' : curve.Point}

theorem Is.eq_iff (isQ : P.Is Q) (isQ' : P'.Is Q') : P = P' ↔ Q = Q' := by
  constructor
  · rintro rfl
    exact EdwardsCurve.Point.ext (isQ.x.eq.symm.trans isQ'.x.eq) (isQ.y.eq.symm.trans isQ'.y.eq)
  · rintro rfl
    obtain ⟨x, y⟩ := P
    obtain ⟨x', y'⟩ := P'
    congr
    · exact isQ.x.unique isQ'.x
    · exact isQ.y.unique isQ'.y

theorem identity_is : identity.Is 0 := ⟨Fe.zero_is, Fe.one_is⟩

theorem eq_zero_of_isIdentity (isQ : P.Is Q) (zero : P.isIdentity = true) : Q = 0 := by
  obtain ⟨xZero, yOne⟩ := Bool.and_eq_true_iff.mp zero
  refine EdwardsCurve.Point.ext ?_ ?_
  · rw [← isQ.x.eq, Limbs.isZero_iff.mp xZero, Nat.cast_zero]
    rfl
  · rw [← isQ.y.eq, of_decide_eq_true yOne, Fe.one_is.eq]
    rfl

theorem Is.add (isQ : P.Is Q) (isQ' : P'.Is Q') : (P.add P' curveD).Is (Q + Q') := by
  unfold Pt.add
  split
  · next zero => rwa [eq_zero_of_isIdentity isQ zero, zero_add]
  · split
    · next zero => rwa [eq_zero_of_isIdentity isQ' zero, add_zero]
    · have product := (curveD_is.mul (isQ.x.mul isQ'.x)).mul (isQ.y.mul isQ'.y)
      have isProduct : curve.d * (Q.x * Q'.x) * (Q.y * Q'.y) =
          curve.d * Q.x * Q'.x * Q.y * Q'.y := by ring
      rw [isProduct] at product
      constructor
      · have isX := ((isQ.x.mul isQ'.y).add (isQ.y.mul isQ'.x)).mul (Fe.one_is.add product).invert
        rwa [← div_eq_mul_inv] at isX
      · have isY := ((isQ.y.mul isQ'.y).add (isQ.x.mul isQ'.x)).mul (Fe.one_is.sub product).invert
        rwa [← div_eq_mul_inv] at isY

theorem Is.mulLimbs (isQ : P.Is Q) (scalar : U256) :
    (P.mulLimbs scalar curveD).Is (scalar.value • Q) := by
  have step {j k : Nat} {P P' : Pt} (isJ : P.Is (j • Q)) (isK : P'.Is (k • Q)) :
      (P.add P' curveD).Is ((j + k) • Q) := by
    rw [add_nsmul]
    exact isJ.add isK
  have isZero : identity.Is (0 • Q) := by
    rw [zero_nsmul]
    exact identity_is
  have isBase : P.Is (1 • Q) := by rwa [one_nsmul]
  have isMul := Limbs.powLoop_spec (P := fun k (P : Pt) => P.Is (k • Q)) step
    (U256.value_lt scalar) isZero isBase
  rwa [Nat.zero_add, Nat.one_mul] at isMul

end Pt

theorem isOnCurve_iff {x y : Fe} :
    isOnCurve x y curveD = true ↔ curve.OnCurve x.denoted y.denoted := by
  have x2 := Fe.mul_is x x
  have y2 := Fe.mul_is y y
  have same := (y2.sub x2).eq_iff (Fe.one_is.add ((curveD_is.mul x2).mul y2))
  unfold isOnCurve EdwardsCurve.OnCurve
  rw [decide_eq_true_eq, same]
  constructor <;> intro on <;> linear_combination on

theorem Pt.Is.isOnCurve {P : Pt} {Q : curve.Point} (isQ : P.Is Q) :
    isOnCurve P.x P.y curveD = true := by
  have isX : P.x.denoted = Q.x := isQ.x.eq
  have isY : P.y.denoted = Q.y := isQ.y.eq
  rw [isOnCurve_iff, isX, isY]
  exact Q.onCurve

/-! ### The base point -/

def g : Pt where
  x := .of 0xc9562d608f25d51a 0x692cc7609525a7b2 0xc0a4e231fdd6dc5c 0x216936d3cd6e53fe
  y := .of 0x6666666666666658 0x6666666666666666 0x6666666666666666 0x6666666666666666

theorem value_gx : g.x.value = 0x216936d3cd6e53fec0a4e231fdd6dc5c692cc7609525a7b2c9562d608f25d51a :=
  (U256.value_of ..).trans (by decide)

theorem value_gy : g.y.value = 0x6666666666666666666666666666666666666666666666666666666666666658 :=
  (U256.value_of ..).trans (by decide)

theorem g_onCurve : curve.OnCurve g.x.denoted g.y.denoted := by
  have unit : (121666 : ZMod p) ≠ 0 := by
    exact_mod_cast cast_ne_zero (n := 121666) (by decide) (by decide)
  have equation : ((121666 * g.y.value ^ 2 + 121665 * g.x.value ^ 2 * g.y.value ^
    2 : Nat) : ZMod p) =
      ((121666 * (g.x.value ^ 2 + 1) : Nat) : ZMod p) := by
    rw [ZMod.natCast_eq_natCast_iff', value_gx, value_gy]
    decide
  push_cast at equation
  have isD : curve.d = -121665 * 121666⁻¹ := rfl
  unfold EdwardsCurve.OnCurve Fe.denoted
  rw [isD]
  refine mul_left_cancel₀ unit ?_
  field_simp
  linear_combination equation

/-- The point the base point stands for. -/
def basePoint : curve.Point := ⟨g.x.denoted, g.y.denoted, g_onCurve⟩

theorem g_is : g.Is basePoint :=
  ⟨Fe.is_denoted (value_gx.trans_lt (by decide)), Fe.is_denoted (value_gy.trans_lt (by decide))⟩

/-! ### Addition of pairs -/

/-- Reduced coordinates on the curve. -/
structure Pt.OnCurve (P : Pt) : Prop where
  x_lt : P.x.value < p
  y_lt : P.y.value < p
  on : isOnCurve P.x P.y curveD = true

namespace Pt

variable {P Q : Pt}

/-- The point such a pair stands for. -/
def OnCurve.point (on : P.OnCurve) : curve.Point :=
  ⟨P.x.denoted, P.y.denoted, isOnCurve_iff.mp on.on⟩

theorem OnCurve.is (on : P.OnCurve) : P.Is on.point :=
  ⟨Fe.is_denoted on.x_lt, Fe.is_denoted on.y_lt⟩

theorem Is.onCurve {R : curve.Point} (isR : P.Is R) : P.OnCurve :=
  ⟨isR.x.lt, isR.y.lt, isR.isOnCurve⟩

/-- Addition has no exceptions on the curve and does not leave it. It is commutative, and takes a
point and its negative to the identity. -/
theorem add_complete (onP : P.OnCurve) (onQ : Q.OnCurve) :
    curveD.denoted = -121665 * 121666⁻¹ ∧
      1 + curveD.denoted * P.x.denoted * Q.x.denoted * P.y.denoted * Q.y.denoted ≠ 0 ∧
      1 - curveD.denoted * P.x.denoted * Q.x.denoted * P.y.denoted * Q.y.denoted ≠ 0 ∧
      (P.add Q curveD).OnCurve ∧ P.add Q curveD = Q.add P curveD ∧
      P.add ⟨P.x.neg, P.y⟩ curveD = identity := by
  have isD : curveD.denoted = curve.d := curveD_is.eq
  have isNeg : Is ⟨P.x.neg, P.y⟩ (-onP.point) := ⟨onP.is.x.neg, onP.is.y⟩
  rw [isD]
  refine ⟨rfl, EdwardsCurve.one_add_product_ne_zero onP.point.onCurve onQ.point.onCurve,
    EdwardsCurve.one_sub_product_ne_zero onP.point.onCurve onQ.point.onCurve,
    (onP.is.add onQ.is).onCurve, ?_, ?_⟩
  · exact ((onP.is.add onQ.is).eq_iff (onQ.is.add onP.is)).mpr (add_comm _ _)
  · exact ((onP.is.add isNeg).eq_iff identity_is).mpr (add_neg_cancel _)

theorem add_complete_base : g.OnCurve ∧ (g.add g curveD).OnCurve ∧
    g.add ⟨g.x.neg, g.y⟩ curveD = identity := by
  obtain ⟨_, _, _, closed, _, cancels⟩ := add_complete g_is.onCurve g_is.onCurve
  exact ⟨g_is.onCurve, closed, cancels⟩

end Pt

end LedgerLens.Zk
