import LedgerLens.Encoding
import LedgerLens.Host.Limbs
import Mathlib.FieldTheory.Finite.Basic

/-!
Numbers of 256 bits as the range proofs hold them, in four limbs, and what the two
arithmetics over them share: subtraction modulo a number, the loop that reduces by
subtraction, the bits above the 255th, and bytes.
-/

namespace LedgerLens.Zk

open Host

abbrev U256 := Limbs 4

namespace U256

def of (w0 w1 w2 w3 : UInt64) : U256 := ⟨[w0, w1, w2, w3], rfl⟩

theorem exists_of (a : U256) : ∃ w0 w1 w2 w3, a = of w0 w1 w2 w3 := by
  obtain ⟨ws, length⟩ := a
  match ws, length with
  | [w0, w1, w2, w3], _ => exact ⟨w0, w1, w2, w3, rfl⟩

theorem value_of (w0 w1 w2 w3 : UInt64) :
    (of w0 w1 w2 w3).value =
      w0.toNat + 2 ^ 64 * w1.toNat + 2 ^ 128 * w2.toNat + 2 ^ 192 * w3.toNat := by
  simp only [Limbs.value, of, Limbs.valueOf]
  omega

theorem value_low (w : UInt64) : (of w 0 0 0).value = w.toNat := by
  rw [value_of]
  simp

theorem value_lt (a : U256) : a.value < 2 ^ 256 := Limbs.value_lt a

/-! ### Modulo a number -/

/-- A difference that borrows is raised by the modulus. -/
def subMod (modulus a b : U256) : U256 :=
  let diff := a.sub b
  if diff.2 > 0 then (diff.1.add modulus).1 else diff.1

section SubMod

variable {modulus a b : U256}

theorem value_subMod_of_le (le : b.value ≤ a.value) :
    (subMod modulus a b).value = a.value - b.value := by
  have isDiff : (a.sub b).1.value + b.value = a.value + 2 ^ 256 * (a.sub b).2 := Limbs.value_sub a b
  have small := Limbs.sub_borrow_le a b
  have lt := value_lt (a.sub b).1
  have none : (a.sub b).2 = 0 := by omega
  unfold subMod
  rw [if_neg (by omega)]
  omega

theorem value_subMod_of_lt (lt : a.value < b.value) (le : b.value ≤ a.value + modulus.value) :
    (subMod modulus a b).value = a.value + modulus.value - b.value := by
  have isDiff : (a.sub b).1.value + b.value = a.value + 2 ^ 256 * (a.sub b).2 := Limbs.value_sub a b
  have small := Limbs.sub_borrow_le a b
  have borrows : (a.sub b).2 = 1 := by omega
  have isSum : ((a.sub b).1.add modulus).1.value + 2 ^ 256 * ((a.sub b).1.add modulus).2 =
      (a.sub b).1.value + modulus.value := Limbs.value_add _ _
  have sumLt := value_lt ((a.sub b).1.add modulus).1
  have modulusLt := value_lt modulus
  unfold subMod
  rw [if_pos (by omega)]
  omega

theorem value_subMod (aLt : a.value < modulus.value) (bLt : b.value < modulus.value) :
    (subMod modulus a b).value = (a.value + modulus.value - b.value) % modulus.value := by
  rcases Nat.lt_or_ge a.value b.value with lt | le
  · rw [value_subMod_of_lt lt (by omega), Nat.mod_eq_of_lt (by omega)]
  · have split : a.value + modulus.value - b.value = a.value - b.value + modulus.value := by omega
    rw [value_subMod_of_le le, split, Nat.add_mod_right, Nat.mod_eq_of_lt (by omega)]

end SubMod

/-- `while a.ge(modulus)`: so many subtractions are enough for numbers below so many times the
modulus. -/
def subWhile (modulus : U256) : Nat → U256 → U256
  | 0, a => a
  | rounds + 1, a => if a.ge modulus then subWhile modulus rounds (subMod modulus a modulus) else a

theorem value_subWhile {modulus : U256} {rounds : Nat} {a : U256}
    (enough : a.value < (rounds + 1) * modulus.value) :
    (subWhile modulus rounds a).value = a.value % modulus.value := by
  induction rounds generalizing a with
  | zero => rw [subWhile, Nat.mod_eq_of_lt (by omega)]
  | succ rounds ih =>
    unfold subWhile
    rw [Nat.add_mul, Nat.one_mul] at enough
    split
    · next ge =>
      have le := Limbs.ge_iff.mp ge
      have isDiff : (subMod modulus a modulus).value = _ := value_subMod_of_le le
      rw [ih (by omega), isDiff, ← Nat.mod_eq_sub_mod le]
    · next lt =>
      have := Limbs.ge_iff.not.mp lt
      exact (Nat.mod_eq_of_lt (by omega)).symm

/-! ### Residues -/

/-- The limbs are those of this residue. -/
structure Is (a : U256) {n : Nat} (x : ZMod n) : Prop where
  lt : a.value < n
  eq : (a.value : ZMod n) = x

section Is

variable {a b : U256} {n : Nat} {x y : ZMod n}

theorem Is.of_value {k : Nat} (positive : 0 < n) (isMod : a.value = k % n) : a.Is (k : ZMod n) := by
  refine ⟨isMod ▸ Nat.mod_lt _ positive, ?_⟩
  rw [isMod, ZMod.natCast_mod]

theorem Is.eq_iff (isX : a.Is x) (isY : b.Is y) : a = b ↔ x = y := by
  rw [← isX.eq, ← isY.eq, ZMod.natCast_eq_natCast_iff', Nat.mod_eq_of_lt isX.lt,
    Nat.mod_eq_of_lt isY.lt]
  exact Limbs.value_inj.symm

theorem Is.subMod {modulus : U256} (isModulus : modulus.value = n) (isX : a.Is x) (isY : b.Is y) :
    (subMod modulus a b).Is (x - y) := by
  have xLt := isX.lt
  have yLt := isY.lt
  have isMod : (U256.subMod modulus a b).value = _ :=
    value_subMod (isModulus ▸ xLt) (isModulus ▸ yLt)
  rw [isModulus] at isMod
  have isSub := Is.of_value (by omega) isMod
  rwa [Nat.cast_sub (by omega), Nat.cast_add, ZMod.natCast_self, add_zero, isX.eq, isY.eq] at isSub

/-- A square-and-multiply loop over an operation that multiplies residues. -/
theorem Is.powLoop {α : Type} (limbs : α → U256) {op : α → α → α}
    (isMul : ∀ {a b : α} {x y : ZMod n}, (limbs a).Is x → (limbs b).Is y →
      (limbs (op a b)).Is (x * y)) {one a : α} (isOne : (limbs one).Is (1 : ZMod n))
    (isX : (limbs a).Is x) (exp : U256) :
    (limbs (Limbs.powLoop op 256 one a exp)).Is (x ^ exp.value) := by
  have step {j k : Nat} {b c : α} (isJ : (limbs b).Is (x ^ j)) (isK : (limbs c).Is (x ^ k)) :
      (limbs (op b c)).Is (x ^ (j + k)) := by
    rw [pow_add]
    exact isMul isJ isK
  have isZeroth : (limbs one).Is (x ^ 0) := by rwa [pow_zero]
  have isFirst : (limbs a).Is (x ^ 1) := by rwa [pow_one]
  have isPow := Limbs.powLoop_spec (P := fun k b => (limbs b).Is (x ^ k)) step (value_lt exp)
    isZeroth isFirst
  rwa [Nat.zero_add, Nat.one_mul] at isPow

/-- Fermat's theorem; the inverse of zero is zero. -/
theorem pow_sub_two [Fact n.Prime] (two_lt : 2 < n) (x : ZMod n) : x ^ (n - 2) = x⁻¹ := by
  rcases eq_or_ne x 0 with rfl | ne
  · rw [inv_zero, zero_pow (by omega)]
  · refine eq_inv_of_mul_eq_one_left ?_
    have next : n - 2 + 1 = n - 1 := by omega
    rw [← pow_succ, next]
    exact ZMod.pow_card_sub_one_eq_one ne

end Is

/-! ### The highest bits -/

def top (a : U256) : UInt64 := a.1.getD 3 0

/-- `a[3] &= mask`. -/
def andTop (a : U256) (mask : UInt64) : U256 :=
  ⟨a.1.modify 3 (· &&& mask), by rw [List.length_modify, a.2]⟩

theorem value_top (a : U256) : (a.top >>> 63).toNat = a.value / 2 ^ 255 := by
  obtain ⟨w0, w1, w2, w3, rfl⟩ := exists_of a
  have := w0.toNat_lt
  have := w1.toNat_lt
  have := w2.toNat_lt
  have shifted : (w3 >>> 63).toNat = w3.toNat / 2 ^ 63 := by simp [Nat.shiftRight_eq_div_pow]
  rw [value_of]
  simp only [top, of, List.getD_cons_succ, List.getD_cons_zero, shifted]
  omega

theorem value_andTop (a : U256) {mask : UInt64} {k : Nat} (isMask : mask.toNat = 2 ^ k - 1) :
    (a.andTop mask).value = a.value % 2 ^ (192 + k) := by
  obtain ⟨w0, w1, w2, w3, rfl⟩ := exists_of a
  have := w0.toNat_lt
  have := w1.toNat_lt
  have := w2.toNat_lt
  have masked : (w3 &&& mask).toNat = w3.toNat % 2 ^ k := by
    rw [UInt64.toNat_and, isMask, Nat.and_two_pow_sub_one_eq_mod]
  have isOf : (of w0 w1 w2 w3).andTop mask = of w0 w1 w2 (w3 &&& mask) := rfl
  rw [isOf, value_of, value_of, masked, Nat.pow_add, Nat.mod_mul]
  have low : (w0.toNat + 2 ^ 64 * w1.toNat + 2 ^ 128 * w2.toNat + 2 ^ 192 * w3.toNat) % 2 ^ 192 =
      w0.toNat + 2 ^ 64 * w1.toNat + 2 ^ 128 * w2.toNat := by omega
  have high : (w0.toNat + 2 ^ 64 * w1.toNat + 2 ^ 128 * w2.toNat + 2 ^ 192 * w3.toNat) / 2 ^ 192 =
      w3.toNat := by omega
  rw [low, high]

/-! ### Bytes -/

/-- The lowest byte first. -/
def toBytes (a : U256) : Bytes := a.1.flatMap fun w => toLeBytes 8 w.toNat

/-- `u64::from_le_bytes`. -/
def fromLeBytes (bytes : Bytes) : UInt64 := UInt64.ofNat (ofBeBytes bytes.reverse)

/-- So many limbs of eight bytes. -/
def readLimbs : Nat → Bytes → List UInt64
  | 0, _ => []
  | n + 1, bytes => fromLeBytes (bytes.take 8) :: readLimbs n (bytes.drop 8)

theorem length_readLimbs (n : Nat) (bytes : Bytes) : (readLimbs n bytes).length = n := by
  induction n generalizing bytes with
  | zero => rfl
  | succ n ih => rw [readLimbs, List.length_cons, ih]

/-- From the first 32 bytes. -/
def ofBytes (bytes : Bytes) : U256 := ⟨readLimbs 4 bytes, length_readLimbs 4 bytes⟩

theorem fromLeBytes_toLeBytes (w : UInt64) : fromLeBytes (toLeBytes 8 w.toNat) = w := by
  unfold fromLeBytes toLeBytes
  have fits : w.toNat % 256 ^ 8 = w.toNat := Nat.mod_eq_of_lt w.toNat_lt
  rw [List.reverse_reverse, ofBeBytes_toBeBytes]
  exact (congrArg UInt64.ofNat fits).trans UInt64.ofNat_toNat

theorem length_toBytes (a : U256) : a.toBytes.length = 32 := by
  obtain ⟨w0, w1, w2, w3, rfl⟩ := exists_of a
  simp [toBytes, of]

theorem readLimbs_flatMap (ws : List UInt64) (rest : Bytes) :
    readLimbs ws.length ((ws.flatMap fun w => toLeBytes 8 w.toNat) ++ rest) = ws := by
  induction ws with
  | nil => rfl
  | cons w ws ih =>
    have eight : (toLeBytes 8 w.toNat).length = 8 := length_toLeBytes 8 w.toNat
    rw [List.length_cons, readLimbs, List.flatMap_cons, List.append_assoc, List.take_left' eight,
      List.drop_left' eight, fromLeBytes_toLeBytes, ih]

theorem ofBytes_toBytes (a : U256) (rest : Bytes) : ofBytes (a.toBytes ++ rest) = a := by
  have read := readLimbs_flatMap a.1 rest
  rw [a.2] at read
  exact Subtype.ext read

end U256

end LedgerLens.Zk
