import LedgerLens.Host.LimbBounds
import LedgerLens.Crypto.Field
import LedgerLens.Crypto.Scalar

/-!
The arithmetic of field elements and of scalars as a whole. Products are reduced whether or not
their arguments are, and so are powers and inverses, which are made of products; no integer that
the arithmetic of the field computes with overflows. The main results are `arithmetic_mod_p` and
`arithmetic_mod_l`.
-/

namespace LedgerLens.Zk

open Host

/-! ### Powers -/

section Powers

variable {α : Type} (limbs : α → U256) {op : α → α → α} {m : Nat} {one a : α}

/-- Whatever the base: the loop starts with one, and every other result is a product. -/
theorem powLoop_is
    (isMul : ∀ a b, (limbs (op a b)).Is (((limbs a).value : ZMod m) * ((limbs b).value : ZMod m)))
    (isOne : (limbs one).Is (1 : ZMod m)) (exp : U256) :
    (limbs (Limbs.powLoop op 256 one a exp)).Is (((limbs a).value : ZMod m) ^ exp.value) := by
  have step {j k : Nat} {x y : α} (isX : ((limbs x).value : ZMod m) =
    ((limbs a).value : ZMod m) ^ j)
      (isY : ((limbs y).value : ZMod m) = ((limbs a).value : ZMod m) ^ k) :
      ((limbs (op x y)).value : ZMod m) = ((limbs a).value : ZMod m) ^ (j + k) := by
    rw [pow_add, ← isX, ← isY]
    exact (isMul x y).eq
  have isZeroth : ((limbs one).value : ZMod m) = ((limbs a).value : ZMod m) ^ 0 := by
    rw [pow_zero]
    exact isOne.eq
  have isPower := Limbs.powLoop_spec
    (P := fun k x => ((limbs x).value : ZMod m) = ((limbs a).value : ZMod m) ^ k) step
    (U256.value_lt exp) isZeroth (pow_one _).symm
  rw [Nat.zero_add, Nat.one_mul] at isPower
  exact ⟨Limbs.powLoop_result (Q := fun x => (limbs x).value < m) (fun x y => (isMul x y).lt)
    isOne.lt, isPower⟩

/-- What the modulus does not divide has its inverse among its powers. -/
theorem mul_powLoop_is_one [Fact m.Prime]
    (isMul : ∀ a b, (limbs (op a b)).Is (((limbs a).value : ZMod m) * ((limbs b).value : ZMod m)))
    (isOne : (limbs one).Is (1 : ZMod m)) {exp : U256} (isExp : exp.value = m - 2) (two_lt : 2 < m)
    (nonzero : ¬ m ∣ (limbs a).value) :
    (limbs (op a (Limbs.powLoop op 256 one a exp))).Is (1 : ZMod m) := by
  have isInverse := (powLoop_is limbs (a := a) isMul isOne exp).eq
  rw [isExp, U256.pow_sub_two two_lt] at isInverse
  have ne : ((limbs a).value : ZMod m) ≠ 0 := by
    rwa [ne_eq, ZMod.natCast_eq_zero_iff]
  have isProduct := isMul a (Limbs.powLoop op 256 one a exp)
  rwa [isInverse, mul_inv_cancel₀ ne] at isProduct

end Powers

/-! ### The field -/

namespace Fe

/-! ### No overflow -/

/-- Differences wrap by design; what is added to one that borrows fits. -/
def SubFits (a b : Fe) : Prop :=
  (a.limbs.sub b.limbs).2 > 0 → Limbs.AddFits (a.limbs.sub b.limbs).1.1 P.limbs.1 0

/-- The bits above the 255th are added in 64 bits, and nineteen times in 128. -/
structure FoldFits (res : U256) (carry : Nat) : Prop where
  shifted : carry * 2 < 2 ^ 64
  high : (res.top >>> 63).toNat + carry * 2 < 2 ^ 64
  times : ((res.top >>> 63) + UInt64.ofNat (carry * 2)).toNat * 19 < 2 ^ 128
  sums : Limbs.CarryFits (res.andTop 0x7fffffffffffffff).1
    (((res.top >>> 63) + UInt64.ofNat (carry * 2)).toNat * 19)

structure AddFits (a b : Fe) : Prop where
  sums : Limbs.AddFits a.limbs.1 b.limbs.1 0
  fold : FoldFits (a.limbs.add b.limbs).1 (a.limbs.add b.limbs).2
  reduced : ∀ out : Fe, SubFits out P

structure MulFits (a b : Fe) : Prop where
  rows : Limbs.RowsFit b.limbs.1 a.limbs.1 (List.replicate 4 0)
  sums : Limbs.MulAddFits 19 (split (a.limbs.mul b.limbs).1).2.1.1
    (split (a.limbs.mul b.limbs).1).1.1 0
  fold : FoldFits
    ((split (a.limbs.mul b.limbs).1).1.addMul 19 (split (a.limbs.mul b.limbs).1).2.1).1
    ((split (a.limbs.mul b.limbs).1).2.2.toNat * 19 +
      ((split (a.limbs.mul b.limbs).1).1.addMul 19 (split (a.limbs.mul b.limbs).1).2.1).2)
  reduced : ∀ out : Fe, SubFits out P

theorem subFits (a b : Fe) : SubFits a b := fun _ => Limbs.addFits (by decide)

theorem foldFits {res : U256} {carry : Nat} (small : carry < 2 ^ 32) : FoldFits res carry := by
  have top := U256.value_top res
  have lt := U256.value_lt res
  have word := ((res.top >>> 63) + UInt64.ofNat (carry * 2)).toNat_lt
  exact ⟨by omega, by omega, by omega, Limbs.carryFits (by omega)⟩

theorem addFits (a b : Fe) : AddFits a b := by
  refine ⟨Limbs.addFits (by decide), foldFits ?_, fun out => subFits out P⟩
  have aLt := U256.value_lt a.limbs
  have bLt := U256.value_lt b.limbs
  have isSum : (a.limbs.add b.limbs).1.value + 2 ^ 256 * (a.limbs.add b.limbs).2 =
      a.limbs.value + b.limbs.value := Limbs.value_add _ _
  omega

theorem mulFits (a b : Fe) : MulFits a b := by
  have rows : Limbs.RowsFit b.limbs.1 a.limbs.1 (List.replicate 4 0) :=
    Limbs.rowsFit (List.ne_nil_of_length_eq_add_one b.limbs.2) (by simp [b.limbs.2])
  refine ⟨rows, Limbs.mulAddFits (by decide), foldFits ?_, fun out => subFits out P⟩
  have productLt : (a.limbs.mul b.limbs).value < 2 ^ (64 * (4 + (3 + 1))) := Limbs.value_lt _
  have highValue := (split_spec (a.limbs.mul b.limbs)).2
  generalize split (a.limbs.mul b.limbs).1 = parts at highValue ⊢
  have isSum : (parts.1.addMul 19 parts.2.1).1.value +
      2 ^ 256 * (parts.1.addMul 19 parts.2.1).2 = parts.1.value + 19 * parts.2.1.value :=
    Limbs.value_addMul parts.1 19 parts.2.1
  have lowLt := U256.value_lt parts.1
  have highLt := U256.value_lt parts.2.1
  omega

/-! ### Powers and inverses -/

theorem value_pow (a exp : Fe) : (a.pow exp).value = a.value ^ exp.value % p := by
  have isPow : (a.pow exp).Is (a.denoted ^ exp.value) := powLoop_is Fe.limbs mul_is one_is exp.limbs
  have same : ((a.pow exp).value : ZMod p) = ((a.value ^ exp.value : Nat) : ZMod p) := by
    rw [Nat.cast_pow]
    exact isPow.eq
  have lt : (a.pow exp).value < p := isPow.lt
  rwa [ZMod.natCast_eq_natCast_iff', Nat.mod_eq_of_lt lt] at same

theorem mul_invert {a : Fe} (nonzero : ¬ p ∣ a.value) : a.mul a.invert = one := by
  have isOne := mul_powLoop_is_one (m := p) Fe.limbs (a := a) mul_is one_is value_exponent
    (by decide) nonzero
  exact Is.unique isOne one_is

/-- Arithmetic modulo `p`. Sums, products and powers are reduced for any limbs, differences for
reduced ones; what `p` does not divide has an inverse; and nothing overflows on the way. -/
theorem arithmetic_mod_p (a b exp : Fe) :
    (a.add b).value = (a.value + b.value) % p ∧
      (a.mul b).value = a.value * b.value % p ∧
      (a.value < p → b.value < p → (a.sub b).value = (a.value + p - b.value) % p) ∧
      (a.pow exp).value = a.value ^ exp.value % p ∧
      (¬ p ∣ a.value → a.mul a.invert = one) ∧
      AddFits a b ∧ SubFits a b ∧ MulFits a b := by
  exact ⟨value_add a b, value_mul a b, value_sub, value_pow a exp, mul_invert, addFits a b,
    subFits a b, mulFits a b⟩

/-- Three less five wraps around, and three has an inverse. -/
theorem arithmetic_mod_p_three :
    ((fromU64 3).sub (fromU64 5)).value = (3 + p - 5) % p ∧
      (fromU64 3).mul (fromU64 3).invert = one := by
  obtain ⟨-, -, sub, -, inverse, -⟩ := arithmetic_mod_p (fromU64 3) (fromU64 5) one
  exact ⟨sub (by decide) (by decide), inverse (by decide)⟩

end Fe

/-! ### The scalars -/

namespace Sc

theorem value_sub {a b : Sc} (aLt : a.value < l) (bLt : b.value < l) :
    (a.sub b).value = (a.value + l - b.value) % l := by
  rw [← value_L] at aLt bLt ⊢
  exact U256.value_subMod aLt bLt

theorem mul_is (a b : Sc) : (a.mul b).Is ((a.value : ZMod l) * (b.value : ZMod l)) := by
  have isProduct := of_value (value_mul a b)
  rwa [Nat.cast_mul] at isProduct

theorem mul_invert {a : Sc} (nonzero : ¬ l ∣ a.value) : a.mul a.invert = one := by
  have isOne := mul_powLoop_is_one (m := l) Sc.limbs (a := a) mul_is one_is value_exponent
    (by decide) nonzero
  exact (Is.eq_iff isOne one_is).mpr rfl

/-- Arithmetic modulo `l`. Products are reduced for any limbs, sums and differences for reduced
ones; what `l` does not divide has an inverse. -/
theorem arithmetic_mod_l (a b : Sc) :
    (a.mul b).value = a.value * b.value % l ∧
      (a.value < l → b.value < l → (a.add b).value = (a.value + b.value) % l ∧
        (a.sub b).value = (a.value + l - b.value) % l) ∧
      (¬ l ∣ a.value → a.mul a.invert = one) :=
  ⟨value_mul a b, fun aLt bLt => ⟨value_add aLt bLt, value_sub aLt bLt⟩, mul_invert⟩

theorem arithmetic_mod_l_three :
    ((fromU64 3).add (fromU64 5)).value = (3 + 5) % l ∧
      ((fromU64 3).sub (fromU64 5)).value = (3 + l - 5) % l ∧
      (fromU64 3).mul (fromU64 3).invert = one := by
  obtain ⟨-, reduced, inverse⟩ := arithmetic_mod_l (fromU64 3) (fromU64 5)
  exact ⟨(reduced (by decide) (by decide)).1, (reduced (by decide) (by decide)).2,
    inverse (by decide)⟩

end Sc

end LedgerLens.Zk
