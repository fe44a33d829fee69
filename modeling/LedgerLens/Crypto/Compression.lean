import LedgerLens.Crypto.Point

/-!
Points in 32 bytes: the coordinate `y`, and above it the lowest bit of `x`. The other
coordinate is found again as a square root, up to its sign, and the bit tells the
two apart. The main result is `decompress_compress`.
-/

namespace LedgerLens.Zk

open Host

/-- The lowest bit, as a byte. -/
def Fe.lsb (a : Fe) : UInt8 := (a.limbs.lowest &&& 1).toUInt8

/-- The coordinate `y`, with the lowest bit of `x` above it. -/
def compressPt (pt : Pt) : BytesN 32 :=
  ⟨pt.y.toBytes.modify 31 fun byte => (byte &&& (0x7f : UInt8)) ||| (pt.x.lsb <<< 7), by
    rw [List.length_modify]
    exact U256.length_toBytes pt.y.limbs⟩

/-- The square root of `u / v`, up to a square root of -1, if there is one. -/
def rootCandidate (u v : Fe) : Fe :=
  let v2 := v.mul v
  let v3 := v2.mul v
  let v7 := (v3.mul v3).mul v
  let uv7 := u.mul v7
  let exp := Fe.of 0xfffffffffffffffd 0xffffffffffffffff 0xffffffffffffffff 0x0fffffffffffffff
  (u.mul v3).mul (uv7.pow exp)

/-- `x` with `v * x ^ 2 = u`. -/
def sqrtRatio (u v : Fe) : Option Fe :=
  let x := rootCandidate u v
  if v.mul (x.mul x) = u then some x
  else
    let x := x.mul iVal
    if v.mul (x.mul x) = u then some x else none

/-- The point with this `y` of which the `x` has this lowest bit. -/
def decompressY (sign : UInt8) (y : Fe) : Option Pt :=
  let y2 := y.mul y
  let u := y2.sub .one
  let v := (curveD.mul y2).add .one
  (sqrtRatio u v).map fun x => ⟨if x.lsb ≠ sign then Fe.zero.sub x else x, y⟩

def decompressPt32 (bytes : BytesN 32) : Option Pt :=
  let sign := bytes.1.getD 31 0 >>> 7
  let y : Fe := ⟨U256.ofBytes (bytes.1.modify 31 (· &&& 0x7f))⟩
  if y.ge .P then none else decompressY sign y

/-! ### Roots -/

section Roots

variable {u v a : ZMod p}

/-- With `w = a * v ^ 4` the candidate is `a * w ^ ((p - 1) / 4)`. -/
theorem candidate_sq (ratio : u = v * a ^ 2) :
    v * (u * v ^ 3 * (u * v ^ 7) ^ (2 ^ 252 - 3)) ^ 2 = u ∨
      v * (u * v ^ 3 * (u * v ^ 7) ^ (2 ^ 252 - 3)) ^ 2 = -u := by
  rcases eq_or_ne (a * v ^ 4) 0 with zero | ne
  · have isZero : u = 0 := by
      rcases mul_eq_zero.mp zero with aZero | vZero
      · rw [ratio, aZero]
        ring
      · rw [ratio, pow_eq_zero_iff (by norm_num) |>.mp vZero]
        ring
    left
    rw [isZero]
    ring
  · have isSquare : u * v ^ 7 = (a * v ^ 4) ^ 2 := by
      rw [ratio]
      ring
    have exponent : 2 * (2 ^ 252 - 3) * 2 + 2 = p / 2 := by decide
    have power : v * (u * v ^ 3 * (u * v ^ 7) ^ (2 ^ 252 - 3)) ^ 2 = u * (a * v ^ 4) ^ (p / 2) := by
      rw [isSquare, ← exponent, pow_add, pow_mul _ (2 * _) 2, pow_mul, mul_pow, ratio]
      generalize ((a * v ^ 4) ^ 2) ^ (2 ^ 252 - 3) = power
      ring
    rw [power]
    rcases ZMod.pow_div_two_eq_neg_one_or_one p ne with one | negative
    · left
      rw [one, mul_one]
    · right
      rw [negative]
      ring

end Roots

section SqrtRatio

variable {u v x : Fe} {u' v' x' : ZMod p}

theorem rootCandidate_is (isU : u.Is u') (isV : v.Is v') :
    (rootCandidate u v).Is (u' * v' ^ 3 * (u' * v' ^ 7) ^ (2 ^ 252 - 3)) := by
  have v3 := (isV.mul isV).mul isV
  have v7 := (v3.mul v3).mul isV
  have isCube : v' * v' * v' = v' ^ 3 := by ring
  have isSeventh : v' ^ 3 * v' ^ 3 * v' = v' ^ 7 := by ring
  rw [isCube] at v3 v7
  rw [isSeventh] at v7
  exact (isU.mul v3).mul ((isU.mul v7).pow _)

theorem isRoot_iff (isU : u.Is u') (isV : v.Is v') (isX : x.Is x') :
    v.mul (x.mul x) = u ↔ v' * x' ^ 2 = u' := by
  rw [(isV.mul (isX.mul isX)).eq_iff isU, pow_two]

theorem sqrtRatio_sound (isU : u.Is u') (isV : v.Is v') (found : sqrtRatio u v = some x) :
    ∃ x', x.Is x' ∧ v' * x' ^ 2 = u' := by
  have candidate := rootCandidate_is isU isV
  unfold sqrtRatio at found
  dsimp only at found
  split at found
  · next isRoot =>
    obtain rfl := Option.some.inj found
    exact ⟨_, candidate, (isRoot_iff isU isV candidate).mp isRoot⟩
  · split at found
    · next isRoot =>
      obtain rfl := Option.some.inj found
      have other := candidate.mul iVal_is
      exact ⟨_, other, (isRoot_iff isU isV other).mp isRoot⟩
    · cases found

theorem sqrtRatio_complete {a : ZMod p} (isU : u.Is u') (isV : v.Is v') (ratio : u' = v' * a ^ 2) :
    ∃ x, sqrtRatio u v = some x := by
  have candidate := rootCandidate_is isU isV
  unfold sqrtRatio
  dsimp only
  split
  · exact ⟨_, rfl⟩
  · next notRoot =>
    have negative : _ = -u' := (candidate_sq ratio).resolve_left
      fun isRoot => notRoot ((isRoot_iff isU isV candidate).mpr isRoot)
    refine ⟨_, if_pos ((isRoot_iff isU isV (candidate.mul iVal_is)).mpr ?_)⟩
    rw [mul_pow, ← mul_assoc, negative, pow_two, iVal_mul_iVal]
    ring

end SqrtRatio

/-! ### Bytes and signs -/

theorem lsb_toNat (a : Fe) : a.lsb.toNat = a.value % 2 := by
  obtain ⟨w0, w1, w2, w3, isOf⟩ := U256.exists_of a.limbs
  have value : a.value = _ := congrArg Limbs.value isOf
  have bit : w0.toNat &&& 1 = w0.toNat % 2 := Nat.and_one_is_mod _
  have lowest : a.limbs.lowest = w0 := by rw [isOf]; rfl
  rw [value, U256.value_of, Fe.lsb, lowest, UInt64.toNat_toUInt8, UInt64.toNat_and,
    UInt64.toNat_one, bit]
  omega

theorem lsb_eq_iff {a b : Fe} : a.lsb = b.lsb ↔ a.value % 2 = b.value % 2 := by
  rw [← UInt8.toNat_inj, lsb_toNat, lsb_toNat]

/-- Modulo an odd number a nonzero element and its negative differ in their lowest bit. -/
theorem lsb_ne_of_neg {a b : Fe} {x : ZMod p} (isA : a.Is x) (isB : b.Is (-x)) (ne : x ≠ 0) :
    a.lsb ≠ b.lsb := by
  rw [Ne, lsb_eq_iff]
  have aLt : a.value < p := isA.lt
  have bLt : b.value < p := isB.lt
  have aEq : (a.value : ZMod p) = x := isA.eq
  have bEq : (b.value : ZMod p) = -x := isB.eq
  have sum : ((a.value + b.value : Nat) : ZMod p) = 0 := by
    rw [Nat.cast_add, aEq, bEq, add_neg_cancel]
  rw [ZMod.natCast_eq_zero_iff] at sum
  obtain ⟨k, isMultiple⟩ := sum
  have aPos : a.value ≠ 0 := by
    intro zero
    refine ne ?_
    rw [← aEq, zero, Nat.cast_zero]
  have once : k = 1 := by
    have less : p * k < p * 2 := by omega
    have := Nat.lt_of_mul_lt_mul_left less
    rcases Nat.eq_zero_or_pos k with rfl | positive
    · omega
    · omega
  rw [once] at isMultiple
  have odd : p % 2 = 1 := by decide
  omega

theorem sign_byte (byte bit : UInt8) (isBit : bit = 0 ∨ bit = 1) :
    ((byte &&& (0x7f : UInt8)) ||| (bit <<< (7 : UInt8))) >>> (7 : UInt8) = bit ∧
      ((byte &&& (0x7f : UInt8)) ||| (bit <<< (7 : UInt8))) &&& (0x7f : UInt8) =
        byte &&& (0x7f : UInt8) := by
  have all : ∀ n : Fin 256, ∀ bit ∈ [(0 : UInt8), 1],
      ((UInt8.ofNat n &&& (0x7f : UInt8)) ||| (bit <<< (7 : UInt8))) >>> (7 : UInt8) = bit ∧
        ((UInt8.ofNat n &&& (0x7f : UInt8)) ||| (bit <<< (7 : UInt8))) &&& (0x7f : UInt8) =
          UInt8.ofNat n &&& (0x7f : UInt8) := by
    decide +kernel
  have := all ⟨byte.toNat, byte.toNat_lt⟩ bit (by simpa using isBit)
  rwa [UInt8.ofNat_toNat] at this

/-- Below `2 ^ 255` the highest bit of the last byte is clear. -/
theorem toBytes_clear {a : U256} (lt : a.value < 2 ^ 255) :
    a.toBytes.modify 31 (· &&& (0x7f : UInt8)) = a.toBytes := by
  obtain ⟨w0, w1, w2, w3, rfl⟩ := U256.exists_of a
  rw [U256.value_of] at lt
  have top : w3.toNat / 2 ^ 56 < 128 := by omega
  have clear : ∀ n : Fin 128, UInt8.ofNat n &&& (0x7f : UInt8) = UInt8.ofNat n := by decide
  have last : UInt8.ofNat (w3.toNat / 2 ^ 56 % 256) &&& (0x7f : UInt8) =
      UInt8.ofNat (w3.toNat / 2 ^ 56 % 256) := by
    rw [Nat.mod_eq_of_lt (by omega)]
    exact clear ⟨w3.toNat / 2 ^ 56, top⟩
  simp only [U256.toBytes, U256.of, List.flatMap_cons, List.flatMap_nil, toLeBytes, toBeBytes,
    List.range_succ, List.range_zero]
  simpa using last

theorem lsb_isBit (a : Fe) : a.lsb = 0 ∨ a.lsb = 1 := by
  rw [← UInt8.toNat_inj, ← UInt8.toNat_inj, lsb_toNat, UInt8.toNat_zero, UInt8.toNat_one]
  omega

/-- What the compressed form keeps of a point. -/
theorem compressPt_parts {pt : Pt} (lt : pt.y.value < p) :
    (compressPt pt).1.getD 31 0 >>> (7 : UInt8) = pt.x.lsb ∧
      U256.ofBytes ((compressPt pt).1.modify 31 (· &&& (0x7f : UInt8))) = pt.y.limbs := by
  have length : pt.y.toBytes.length = 32 := U256.length_toBytes pt.y.limbs
  constructor
  · unfold compressPt
    rw [List.getD_eq_getElem _ _ (by rw [List.length_modify]; omega), List.getElem_modify]
    exact (sign_byte _ _ (lsb_isBit pt.x)).1
  · unfold compressPt
    rw [List.modify_modify_eq]
    have cleared : ((· &&& (0x7f : UInt8)) ∘ fun byte => (byte &&& (0x7f : UInt8)) |||
      (pt.x.lsb <<< 7)) =
        (· &&& (0x7f : UInt8)) := by
      funext byte
      exact (sign_byte byte _ (lsb_isBit pt.x)).2
    rw [cleared]
    have same := toBytes_clear (a := pt.y.limbs) (lt.trans (by decide))
    unfold Fe.toBytes
    rw [same]
    have read := U256.ofBytes_toBytes pt.y.limbs []
    rwa [List.append_nil] at read

/-! ### Compression is lossless -/

section Lossless

/-- The curve equation says which ratio `x ^ 2` is. -/
theorem onCurve_iff_ratio {x y : ZMod p} :
    curve.OnCurve x y ↔ y * y - 1 = (curve.d * (y * y) + 1) * x ^ 2 := by
  unfold EdwardsCurve.OnCurve
  constructor <;> intro on <;> linear_combination on

/-- `d * y ^ 2` is not -1, for then `d` would be a square. -/
theorem ratio_ne_zero (y : ZMod p) : curve.d * (y * y) + 1 ≠ 0 := by
  intro zero
  have y_ne : y ≠ 0 := by
    rintro rfl
    simp at zero
  refine curve.nonsquare (curve.i / y) ?_
  rw [div_mul_div_comm, curve.i_mul_i, div_eq_iff (mul_ne_zero y_ne y_ne)]
  linear_combination -zero

variable {x y : Fe} {a b : ZMod p}

theorem numerator_is (isB : y.Is b) : ((y.mul y).sub .one).Is (b * b - 1) :=
  (isB.mul isB).sub Fe.one_is

theorem denominator_is (isB : y.Is b) :
    ((curveD.mul (y.mul y)).add .one).Is (curve.d * (b * b) + 1) :=
  (curveD_is.mul (isB.mul isB)).add Fe.one_is

/-- A root with the sign asked for, if need be the other one. -/
theorem sign_is (sign : UInt8) (isA : x.Is a) :
    ∃ a', (if x.lsb ≠ sign then Fe.zero.sub x else x).Is a' ∧ a' ^ 2 = a ^ 2 := by
  split
  · exact ⟨-a, isA.neg, neg_sq a⟩
  · exact ⟨a, isA, rfl⟩

theorem decompressY_sound {sign : UInt8} {pt : Pt} (isB : y.Is b)
    (found : decompressY sign y = some pt) : pt.y = y ∧ ∃ a, pt.x.Is a ∧ curve.OnCurve a b := by
  unfold decompressY at found
  obtain ⟨x, isRoot, rfl⟩ := Option.map_eq_some_iff.mp found
  obtain ⟨a, isA, ratio⟩ := sqrtRatio_sound (numerator_is isB) (denominator_is isB) isRoot
  obtain ⟨a', isA', square⟩ := sign_is sign isA
  refine ⟨rfl, a', isA', onCurve_iff_ratio.mpr ?_⟩
  rw [square, ratio]

theorem decompressY_complete (isA : x.Is a) (isB : y.Is b) (on : curve.OnCurve a b) :
    decompressY x.lsb y = some ⟨x, y⟩ := by
  have ratio := onCurve_iff_ratio.mp on
  obtain ⟨x', found⟩ := sqrtRatio_complete (numerator_is isB) (denominator_is isB) ratio
  obtain ⟨a', isA', ratio'⟩ := sqrtRatio_sound (numerator_is isB) (denominator_is isB) found
  have square : a' ^ 2 = a ^ 2 := mul_left_cancel₀ (ratio_ne_zero b) (ratio'.trans ratio)
  unfold decompressY
  refine Option.map_eq_some_iff.mpr ⟨x', found, ?_⟩
  have isX : (if x'.lsb ≠ x.lsb then Fe.zero.sub x' else x') = x := by
    rcases sq_eq_sq_iff_eq_or_eq_neg.mp square with rfl | negative
    · obtain rfl := isA.unique isA'
      exact if_neg (not_not_intro rfl)
    · rw [negative] at isA'
      split
      · have isNeg := isA'.neg
        rw [neg_neg] at isNeg
        exact isNeg.unique isA
      · next same =>
        rcases eq_or_ne a 0 with rfl | ne
        · rw [neg_zero] at isA'
          exact isA'.unique isA
        · exact absurd (not_not.mp same).symm (lsb_ne_of_neg isA isA' ne)
  rw [isX]

theorem decompressPt32_compressPt {pt : Pt} (xLt : pt.x.value < p) (yLt : pt.y.value < p)
    (on : isOnCurve pt.x pt.y curveD = true) : decompressPt32 (compressPt pt) = some pt := by
  obtain ⟨sign, isY⟩ := compressPt_parts yLt
  unfold decompressPt32
  dsimp only
  rw [sign, isY, if_neg (Fe.ge_P_iff.not.mpr (Nat.not_le.mpr yLt))]
  exact decompressY_complete (Fe.is_denoted xLt) (Fe.is_denoted yLt) (isOnCurve_iff.mp on)

/-- The bytes of a point on the curve give it back, and bytes that give a point give one on the
curve, with its coordinates below `p`. -/
theorem decompress_compress :
    (∀ pt : Pt, pt.x.value < p → pt.y.value < p → isOnCurve pt.x pt.y curveD = true →
      decompressPt32 (compressPt pt) = some pt) ∧
    ∀ bytes pt, decompressPt32 bytes = some pt →
      isOnCurve pt.x pt.y curveD = true ∧ pt.x.value < p ∧ pt.y.value < p := by
  constructor
  · intro pt xLt yLt on
    exact decompressPt32_compressPt xLt yLt on
  · intro bytes pt found
    unfold decompressPt32 at found
    dsimp only at found
    split at found
    · cases found
    · next small =>
      have yLt := Nat.not_le.mp (Fe.ge_P_iff.not.mp small)
      obtain ⟨isY, a, isA, on⟩ := decompressY_sound (Fe.is_denoted yLt) found
      rw [isOnCurve_iff, isY]
      refine ⟨?_, isA.lt, yLt⟩
      have isDenoted : pt.x.denoted = a := isA.eq
      rw [isDenoted]
      exact on

theorem decompress_compress_g :
    decompressPt32 (compressPt g) = some g ∧ isOnCurve g.x g.y curveD = true := by
  have back := decompress_compress.1 g g_is.x.lt g_is.y.lt g_is.isOnCurve
  exact ⟨back, (decompress_compress.2 _ _ back).1⟩

end Lossless

end LedgerLens.Zk
