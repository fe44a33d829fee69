import LedgerLens.Crypto.Primes
import LedgerLens.Crypto.Words

/-!
Scalars modulo the order `l` of the base point, in limbs. Products are reduced bit by
bit and come out below `l` for any limbs; sums and differences do when both sides are
below it.
-/

namespace LedgerLens.Zk

open Host

structure Sc where
  limbs : U256
  deriving DecidableEq

namespace Sc

def of (w0 w1 w2 w3 : UInt64) : Sc := ⟨U256.of w0 w1 w2 w3⟩

def L : Sc := of 0x5812631a5cf5d3ed 0x14def9dea2f79cd6 0x0 0x1000000000000000

/-- `2 ^ 256 - L`. -/
def DIFF : Sc := of 0xa7ed9ce5a30a2c13 0xeb2106215d086329 0xffffffffffffffff 0xefffffffffffffff

def zero : Sc := of 0 0 0 0

def one : Sc := of 1 0 0 0

def fromU64 (val : UInt64) : Sc := of val 0 0 0

def ge (a b : Sc) : Bool := a.limbs.ge b.limbs

def sub (a b : Sc) : Sc := ⟨U256.subMod L.limbs a.limbs b.limbs⟩

def neg (a : Sc) : Sc := zero.sub a

def add (a b : Sc) : Sc :=
  let sum := a.limbs.add b.limbs
  let out : Sc := ⟨sum.1⟩
  if sum.2 > 0 || out.ge L then out.sub L else out

/-- One bit of the product is appended to the remainder, which is reduced. -/
def mulStep (prod : Limbs 8) (r : Sc) (i : Nat) : Sc :=
  let doubled := r.limbs.shl1
  let r : Sc := ⟨doubled.1.orLowest (prod.bit i)⟩
  if doubled.2 > 0 then r.add DIFF else if r.ge L then r.sub L else r

/-- From the highest bit of the product down. -/
def mul (a b : Sc) : Sc := (List.range 512).reverse.foldl (mulStep (a.limbs.mul b.limbs)) zero

def pow (a exp : Sc) : Sc := Limbs.powLoop mul 256 one a exp.limbs

def invert (a : Sc) : Sc := a.pow (L.sub (fromU64 2))

def toBytes (a : Sc) : Bytes := a.limbs.toBytes

/-! ### Values -/

def value (a : Sc) : Nat := a.limbs.value

theorem value_inj {a b : Sc} : a.value = b.value ↔ a = b := by
  refine ⟨fun same => ?_, fun same => by rw [same]⟩
  have := Limbs.value_inj.mp same
  cases a
  cases b
  simp_all

theorem value_L : L.value = l := (U256.value_of ..).trans (by decide)

theorem ge_L_iff {a : Sc} : a.ge L = true ↔ l ≤ a.value := by
  rw [← value_L]
  exact Limbs.ge_iff

theorem value_sub_L {a : Sc} (le : l ≤ a.value) : (a.sub L).value = a.value - l := by
  rw [← value_L] at le ⊢
  exact U256.value_subMod_of_le le

/-- One subtraction is enough below twice `l`. -/
theorem value_subOnce {a : Sc} (lt : a.value < 2 * l) :
    (if a.ge L then a.sub L else a).value = a.value % l := by
  split
  · next ge =>
    have le := ge_L_iff.mp ge
    rw [value_sub_L le, Nat.mod_eq_sub_mod le, Nat.mod_eq_of_lt (by omega)]
  · next less =>
    have := ge_L_iff.not.mp less
    exact (Nat.mod_eq_of_lt (by omega)).symm

theorem value_add {a b : Sc} (aLt : a.value < l) (bLt : b.value < l) :
    (a.add b).value = (a.value + b.value) % l := by
  have isSum : (a.limbs.add b.limbs).1.value + 2 ^ 256 * (a.limbs.add b.limbs).2 =
      a.value + b.value := Limbs.value_add _ _
  have noCarry : (a.limbs.add b.limbs).2 = 0 := by
    unfold l at aLt bLt
    omega
  have sum : (⟨(a.limbs.add b.limbs).1⟩ : Sc).value = a.value + b.value := by
    rw [noCarry] at isSum
    exact isSum
  unfold add
  dsimp only
  rw [noCarry, ← sum]
  exact value_subOnce (by omega)

theorem value_mulStep {prod : Limbs 8} {r : Sc} (lt : r.value < l) (i : Nat) :
    (mulStep prod r i).value = (2 * r.value + prod.value / 2 ^ i % 2) % l := by
  have isDouble : r.limbs.shl1.1.value + 2 ^ 256 * r.limbs.shl1.2.toNat = 2 * r.value :=
    Limbs.value_shl1 r.limbs
  have noCarry : r.limbs.shl1.2.toNat = 0 := by
    unfold l at lt
    omega
  have isBit := Limbs.toNat_bit prod i
  have next : (⟨r.limbs.shl1.1.orLowest (prod.bit i)⟩ : Sc).value =
      2 * r.value + prod.value / 2 ^ i % 2 := by
    have appended : (r.limbs.shl1.1.orLowest (prod.bit i)).value = _ :=
      Limbs.value_orLowest (by omega) (by omega)
    unfold value
    rw [appended, isBit]
    unfold value at isDouble
    omega
  have notGreater : ¬ r.limbs.shl1.2 > 0 := by
    rw [gt_iff_lt, UInt64.lt_iff_toNat_lt, noCarry]
    simp
  unfold mulStep
  dsimp only
  rw [if_neg notGreater, ← next]
  exact value_subOnce (by omega)

/-- By induction on the bits that are left; so far the bits above them are reduced. -/
theorem value_mulSteps {prod : Limbs 8} {n : Nat} {r : Sc}
    (isR : r.value = prod.value / 2 ^ n % l) :
    ((List.range n).reverse.foldl (mulStep prod) r).value = prod.value % l := by
  have positive : 0 < l := by decide
  induction n generalizing r with
  | zero => rw [List.range_zero, List.reverse_nil, List.foldl_nil, isR, Nat.pow_zero, Nat.div_one]
  | succ n ih =>
    have lt : r.value < l := isR ▸ Nat.mod_lt _ positive
    rw [List.range_succ, List.reverse_append, List.reverse_singleton, List.singleton_append,
      List.foldl_cons]
    refine ih ?_
    have halved : prod.value / 2 ^ (n + 1) = prod.value / 2 ^ n / 2 := by
      rw [Nat.pow_succ, Nat.div_div_eq_div_mul]
    have bits : 2 * (prod.value / 2 ^ n / 2) + prod.value / 2 ^ n % 2 = prod.value / 2 ^ n := by
      omega
    rw [value_mulStep lt, isR, halved, Nat.add_mod, Nat.mul_mod_mod, ← Nat.add_mod, bits]

theorem value_mul (a b : Sc) : (a.mul b).value = a.value * b.value % l := by
  have isProduct : (a.limbs.mul b.limbs).value = a.value * b.value := Limbs.value_mul _ _
  have small := Limbs.value_lt (a.limbs.mul b.limbs)
  have places : 64 * (4 + (3 + 1)) = 512 := rfl
  rw [places] at small
  rw [← isProduct]
  refine value_mulSteps ?_
  rw [Nat.div_eq_of_lt small, Nat.zero_mod]
  exact U256.value_low 0

/-! ### Residues modulo `l` -/

/-- The limbs are those of this residue. -/
def Is (a : Sc) (x : ZMod l) : Prop := a.limbs.Is x

section Is

variable {a b : Sc} {x y : ZMod l}

theorem Is.lt (isX : a.Is x) : a.value < l := U256.Is.lt isX

theorem Is.eq (isX : a.Is x) : (a.value : ZMod l) = x := U256.Is.eq isX

theorem is_self (lt : a.value < l) : a.Is (a.value : ZMod l) := ⟨lt, rfl⟩

theorem Is.eq_iff (isX : a.Is x) (isY : b.Is y) : a = b ↔ x = y := by
  rw [← U256.Is.eq_iff isX isY]
  exact ⟨fun same => by rw [same], fun same => value_inj.mp (congrArg Limbs.value same)⟩

theorem of_value {n : Nat} (isMod : a.value = n % l) : a.Is n := U256.Is.of_value (by decide) isMod

theorem Is.add (isX : a.Is x) (isY : b.Is y) : (a.add b).Is (x + y) := by
  have isAdd := of_value (value_add isX.lt isY.lt)
  rwa [Nat.cast_add, isX.eq, isY.eq] at isAdd

theorem Is.mul (isX : a.Is x) (isY : b.Is y) : (a.mul b).Is (x * y) := by
  have isMul := of_value (value_mul a b)
  rwa [Nat.cast_mul, isX.eq, isY.eq] at isMul

theorem Is.sub (isX : a.Is x) (isY : b.Is y) : (a.sub b).Is (x - y) :=
  U256.Is.subMod value_L isX isY

theorem zero_is : zero.Is 0 := by
  have : zero.Is (0 : Nat) := of_value (U256.value_low 0)
  rwa [Nat.cast_zero] at this

theorem one_is : one.Is 1 := by
  have : one.Is (1 : Nat) := of_value (U256.value_low 1)
  rwa [Nat.cast_one] at this

theorem fromU64_is (val : UInt64) : (fromU64 val).Is (val.toNat : Nat) := by
  have small : val.toNat < l := val.toNat_lt.trans (by decide)
  refine of_value ?_
  rw [Nat.mod_eq_of_lt small]
  exact U256.value_low val

theorem Is.neg (isX : a.Is x) : a.neg.Is (-x) := by
  have := zero_is.sub isX
  rwa [zero_sub] at this

theorem Is.pow (isX : a.Is x) (exp : Sc) : (a.pow exp).Is (x ^ exp.value) :=
  U256.Is.powLoop Sc.limbs Is.mul one_is isX exp.limbs

theorem value_exponent : (L.sub (fromU64 2)).value = l - 2 := by
  have two : (fromU64 2).value = 2 := U256.value_low 2
  have le : (fromU64 2).value ≤ L.value := by
    rw [two, value_L]
    decide
  have isDifference : (L.sub (fromU64 2)).value = _ := U256.value_subMod_of_le le
  rw [isDifference]
  exact congrArg₂ (· - ·) value_L two

theorem Is.invert (isX : a.Is x) : a.invert.Is x⁻¹ := by
  have isPow := isX.pow (L.sub (fromU64 2))
  rwa [value_exponent, U256.pow_sub_two (by decide)] at isPow

end Is

end Sc

end LedgerLens.Zk
