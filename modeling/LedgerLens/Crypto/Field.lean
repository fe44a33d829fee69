import LedgerLens.Crypto.Primes
import LedgerLens.Crypto.Words

/-!
Field elements modulo `p`, in limbs. Sums and products come out below `p` for any
limbs; differences do when both sides are below it. An element stands for its
value in the field.
-/

namespace LedgerLens.Zk

open Host

structure Fe where
  limbs : U256
  deriving DecidableEq

namespace Fe

def of (w0 w1 w2 w3 : UInt64) : Fe := ⟨U256.of w0 w1 w2 w3⟩

def P : Fe := of 0xffffffffffffffed 0xffffffffffffffff 0xffffffffffffffff 0x7fffffffffffffff

def zero : Fe := of 0 0 0 0

def one : Fe := of 1 0 0 0

def fromU64 (val : UInt64) : Fe := of val 0 0 0

def isZero (a : Fe) : Bool := a.limbs.isZero

def ge (a b : Fe) : Bool := a.limbs.ge b.limbs

def sub (a b : Fe) : Fe := ⟨U256.subMod P.limbs a.limbs b.limbs⟩

def neg (a : Fe) : Fe := zero.sub a

/-- The bits from the 255th on, those of the carry included, come back nineteen times. -/
def foldTop (res : U256) (carry : Nat) : U256 :=
  let h := (res.top >>> 63) + UInt64.ofNat (carry * 2)
  ((res.andTop 0x7fffffffffffffff).addNat (h.toNat * 19)).1

def add (a b : Fe) : Fe :=
  let sum := a.limbs.add b.limbs
  let out : Fe := ⟨foldTop sum.1 sum.2⟩
  if out.ge P then out.sub P else out

/-- One limb of a product shifted by 255 bits. -/
def shifted (low high : UInt64) : UInt64 := low >>> 63 ||| high <<< 1

/-- The product of eight limbs at its 255th bit: what is above, without its last bit, which comes
third. -/
def split : List UInt64 → U256 × U256 × UInt64
  | [p0, p1, p2, p3, p4, p5, p6, p7] =>
    (U256.of p0 p1 p2 (p3 &&& 0x7fffffffffffffff),
      U256.of (shifted p3 p4) (shifted p4 p5) (shifted p5 p6) (shifted p6 p7), p7 >>> 63)
  | _ => (U256.of 0 0 0 0, U256.of 0 0 0 0, 0)

/-- At most two subtractions bring any limbs below `P`. -/
def mul (a b : Fe) : Fe :=
  let (low, high, last) := split (a.limbs.mul b.limbs).1
  let res := low.addMul 19 high
  let carry := last.toNat * 19 + res.2
  ⟨U256.subWhile P.limbs 2 (foldTop res.1 carry)⟩

def pow (a exp : Fe) : Fe := Limbs.powLoop mul 256 one a exp.limbs

def invert (a : Fe) : Fe :=
  a.pow (of 0xffffffffffffffeb 0xffffffffffffffff 0xffffffffffffffff 0x7fffffffffffffff)

def toBytes (a : Fe) : Bytes := a.limbs.toBytes

/-! ### Values -/

def value (a : Fe) : Nat := a.limbs.value

theorem value_inj {a b : Fe} : a.value = b.value ↔ a = b := by
  refine ⟨fun same => ?_, fun same => by rw [same]⟩
  have := Limbs.value_inj.mp same
  cases a
  cases b
  simp_all

@[simp] theorem value_P : P.value = p := (U256.value_of ..).trans (by decide)

theorem ge_P_iff {a : Fe} : a.ge P = true ↔ p ≤ a.value := by
  rw [← value_P]
  exact Limbs.ge_iff

theorem value_sub {a b : Fe} (aLt : a.value < p) (bLt : b.value < p) :
    (a.sub b).value = (a.value + p - b.value) % p := by
  rw [← value_P] at aLt bLt ⊢
  exact U256.value_subMod aLt bLt

theorem value_sub_P {a : Fe} (le : p ≤ a.value) : (a.sub P).value = a.value - p := by
  rw [← value_P] at le ⊢
  exact U256.value_subMod_of_le le

/-- `2 ^ 255` is nineteen modulo `p`. -/
theorem fold_mod (n : Nat) : (n % 2 ^ 255 + 19 * (n / 2 ^ 255)) % p = n % p := by
  have whole := Nat.mod_add_div n (2 ^ 255)
  unfold p
  omega

theorem value_foldTop {res : U256} {carry : Nat} (small : carry < 2 ^ 32) :
    (foldTop res carry).value =
      (res.value + 2 ^ 256 * carry) % 2 ^ 255 + 19 * ((res.value + 2 ^ 256 * carry) / 2 ^ 255) := by
  have lt := U256.value_lt res
  have above : ((res.top >>> 63) + UInt64.ofNat (carry * 2)).toNat =
      (res.value + 2 ^ 256 * carry) / 2 ^ 255 := by
    rw [UInt64.toNat_add, U256.value_top, UInt64.toNat_ofNat']
    omega
  have isSum : (foldTop res carry).value + 2 ^ 256 * _ = _ := Limbs.value_addNat _ _
  rw [U256.value_andTop res (k := 63) rfl, above] at isSum
  have below : (res.value + 2 ^ 256 * carry) % 2 ^ 255 = res.value % 2 ^ 255 := by omega
  have foldLt := U256.value_lt (foldTop res carry)
  rw [below]
  omega

/-- One subtraction is enough below twice `p`. -/
theorem value_subOnce {out : Fe} (lt : out.value < 2 * p) :
    (if out.ge P then out.sub P else out).value = out.value % p := by
  split
  · next ge =>
    have le := ge_P_iff.mp ge
    rw [value_sub_P le, Nat.mod_eq_sub_mod le, Nat.mod_eq_of_lt (by omega)]
  · next less =>
    have := ge_P_iff.not.mp less
    exact (Nat.mod_eq_of_lt (by omega)).symm

theorem value_add (a b : Fe) : (a.add b).value = (a.value + b.value) % p := by
  have aLt : a.value < 2 ^ 256 := U256.value_lt a.limbs
  have bLt : b.value < 2 ^ 256 := U256.value_lt b.limbs
  have isSum : (a.limbs.add b.limbs).1.value + 2 ^ 256 * (a.limbs.add b.limbs).2 =
      a.value + b.value := Limbs.value_add _ _
  have carryLt : (a.limbs.add b.limbs).2 < 2 ^ 32 := by omega
  have folded : (foldTop (a.limbs.add b.limbs).1 (a.limbs.add b.limbs).2).value =
      (a.value + b.value) % 2 ^ 255 + 19 * ((a.value + b.value) / 2 ^ 255) := by
    rw [value_foldTop carryLt, isSum]
  unfold add
  rw [value_subOnce, value, folded, fold_mod]
  rw [value, folded, p]
  omega

theorem toNat_shifted (low high : UInt64) :
    (shifted low high).toNat = low.toNat / 2 ^ 63 + 2 * high.toNat % 2 ^ 64 := by
  have lowLt := low.toNat_lt
  have right : (low >>> 63).toNat = low.toNat / 2 ^ 63 := by simp [Nat.shiftRight_eq_div_pow]
  have left : (high <<< 1).toNat = 2 * high.toNat % 2 ^ 64 := by
    simp [Nat.shiftLeft_eq, Nat.mul_comm]
  unfold shifted
  rw [UInt64.toNat_or, right, left, Nat.lor_comm, Nat.add_comm]
  exact Limbs.or_eq_add (i := 1) (by omega) (by omega)

theorem split_spec (prod : Limbs 8) :
    (split prod.1).1.value = prod.value % 2 ^ 255 ∧
      (split prod.1).2.1.value + 2 ^ 256 * (split prod.1).2.2.toNat = prod.value / 2 ^ 255 := by
  obtain ⟨ws, length⟩ := prod
  match ws, length with
  | [p0, p1, p2, p3, p4, p5, p6, p7], _ =>
    have masked : (p3 &&& 0x7fffffffffffffff).toNat = p3.toNat % 2 ^ 63 := by
      rw [UInt64.toNat_and]
      exact Nat.and_two_pow_sub_one_eq_mod _ 63
    have last : (p7 >>> 63).toNat = p7.toNat / 2 ^ 63 := by simp [Nat.shiftRight_eq_div_pow]
    have := p0.toNat_lt
    have := p1.toNat_lt
    have := p2.toNat_lt
    have := p3.toNat_lt
    have := p4.toNat_lt
    have := p5.toNat_lt
    have := p6.toNat_lt
    have := p7.toNat_lt
    simp only [split, U256.value_of, masked, last, toNat_shifted]
    simp only [Limbs.value, Limbs.valueOf]
    constructor <;> omega

theorem value_mul (a b : Fe) : (a.mul b).value = a.value * b.value % p := by
  have isProduct : (a.limbs.mul b.limbs).value = a.value * b.value := Limbs.value_mul _ _
  have productLt : a.value * b.value < 2 ^ 256 * 2 ^ 256 :=
    Nat.mul_lt_mul'' (U256.value_lt a.limbs) (U256.value_lt b.limbs)
  obtain ⟨lowValue, highValue⟩ := split_spec (a.limbs.mul b.limbs)
  unfold mul
  generalize split (a.limbs.mul b.limbs).1 = parts at lowValue highValue ⊢
  obtain ⟨low, high, last⟩ := parts
  dsimp only at lowValue highValue ⊢
  rw [isProduct] at lowValue highValue
  have isSum : (low.addMul 19 high).1.value + 2 ^ 256 * (low.addMul 19 high).2 =
      low.value + 19 * high.value := Limbs.value_addMul low 19 high
  -- the whole of the first folding, its last bit and carry included
  have total : (low.addMul 19 high).1.value +
      2 ^ 256 * (last.toNat * 19 + (low.addMul 19 high).2) =
        a.value * b.value % 2 ^ 255 + 19 * (a.value * b.value / 2 ^ 255) := by omega
  have carryLt : last.toNat * 19 + (low.addMul 19 high).2 < 2 ^ 32 := by omega
  have folded : (foldTop (low.addMul 19 high).1 _).value = _ := value_foldTop carryLt
  rw [total] at folded
  have enough : (foldTop (low.addMul 19 high).1 (last.toNat * 19 + (low.addMul 19 high).2)).value <
      (2 + 1) * P.value := by
    rw [folded, value_P, p]
    omega
  refine (U256.value_subWhile enough).trans ?_
  have modulus : Limbs.value P.limbs = p := value_P
  rw [modulus, folded, fold_mod, fold_mod]

/-! ### Elements of the field -/

/-- The limbs are those of this element. -/
abbrev Is (a : Fe) (x : ZMod p) : Prop := a.limbs.Is x

/-- What any limbs stand for. -/
def denoted (a : Fe) : ZMod p := a.value

section Is

variable {a b : Fe} {x y : ZMod p}

theorem Is.eq_iff (isX : a.Is x) (isY : b.Is y) : a = b ↔ x = y := by
  rw [← U256.Is.eq_iff isX isY]
  exact ⟨fun same => by rw [same], fun same => value_inj.mp (congrArg Limbs.value same)⟩

theorem Is.unique (isX : a.Is x) (isX' : b.Is x) : a = b := (isX.eq_iff isX').mpr rfl

theorem is_denoted (lt : a.value < p) : a.Is a.denoted := ⟨lt, rfl⟩

theorem of_value {n : Nat} (isMod : a.value = n % p) : a.Is n := U256.Is.of_value (by decide) isMod

theorem add_is (a b : Fe) : (a.add b).Is (a.denoted + b.denoted) := by
  have := of_value (value_add a b)
  rwa [Nat.cast_add] at this

theorem mul_is (a b : Fe) : (a.mul b).Is (a.denoted * b.denoted) := by
  have := of_value (value_mul a b)
  rwa [Nat.cast_mul] at this

theorem Is.add (isX : a.Is x) (isY : b.Is y) : (a.add b).Is (x + y) := by
  rw [← isX.eq, ← isY.eq]
  exact add_is a b

theorem Is.mul (isX : a.Is x) (isY : b.Is y) : (a.mul b).Is (x * y) := by
  rw [← isX.eq, ← isY.eq]
  exact mul_is a b

theorem Is.sub (isX : a.Is x) (isY : b.Is y) : (a.sub b).Is (x - y) := isX.subMod value_P isY

theorem zero_is : zero.Is 0 := by
  have : zero.Is (0 : Nat) := of_value (U256.value_low 0)
  rwa [Nat.cast_zero] at this

theorem one_is : one.Is 1 := by
  have : one.Is (1 : Nat) := of_value (U256.value_low 1)
  rwa [Nat.cast_one] at this

theorem fromU64_is (val : UInt64) : (fromU64 val).Is (val.toNat : Nat) := by
  have small : val.toNat < p := val.toNat_lt.trans (by decide)
  refine of_value ?_
  rw [Nat.mod_eq_of_lt small]
  exact U256.value_low val

theorem Is.neg (isX : a.Is x) : a.neg.Is (-x) := by
  have := zero_is.sub isX
  rwa [zero_sub] at this

theorem Is.pow (isX : a.Is x) (exp : Fe) : (a.pow exp).Is (x ^ exp.value) :=
  U256.Is.powLoop Fe.limbs Is.mul one_is isX exp.limbs

theorem value_exponent : (of 0xffffffffffffffeb 0xffffffffffffffff 0xffffffffffffffff
    0x7fffffffffffffff).value = p - 2 := (U256.value_of ..).trans (by decide)

theorem Is.invert (isX : a.Is x) : a.invert.Is x⁻¹ := by
  have isPow := isX.pow (of 0xffffffffffffffeb 0xffffffffffffffff 0xffffffffffffffff
    0x7fffffffffffffff)
  rwa [value_exponent, U256.pow_sub_two (by decide)] at isPow

end Is

end Fe

end LedgerLens.Zk
