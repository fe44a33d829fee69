import Mathlib.Data.List.Basic
import Mathlib.Data.Nat.Bitwise
import Mathlib.Tactic

/-!
Numbers as little-endian limbs of 64 bits. The loops below are those of schoolbook
arithmetic on such numbers, with a carry in a wider integer; each has one lemma
that says what it does to the value.
-/

namespace Host

/-- So many limbs, the lowest first. -/
abbrev Limbs (n : Nat) := { ws : List UInt64 // ws.length = n }

namespace Limbs

/-! ### Loops over limbs -/

def valueOf : List UInt64 → Nat
  | [] => 0
  | w :: ws => w.toNat + 2 ^ 64 * valueOf ws

def addLoop : List UInt64 → List UInt64 → Nat → List UInt64 × Nat
  | a :: as, b :: bs, carry =>
    let sum := a.toNat + b.toNat + carry
    let rest := addLoop as bs (sum / 2 ^ 64)
    (UInt64.ofNat sum :: rest.1, rest.2)
  | _, _, carry => ([], carry)

/-- The differences wrap in integers of 128 bits; a borrow shows above the limb. -/
def subLoop : List UInt64 → List UInt64 → Nat → List UInt64 × Nat
  | a :: as, b :: bs, borrow =>
    let diff := (a.toNat + 2 ^ 128 - b.toNat - borrow) % 2 ^ 128
    let rest := subLoop as bs (if diff / 2 ^ 64 > 0 then 1 else 0)
    (UInt64.ofNat diff :: rest.1, rest.2)
  | _, _, borrow => ([], borrow)

def carryLoop : List UInt64 → Nat → List UInt64 × Nat
  | w :: ws, carry =>
    let sum := w.toNat + carry
    let rest := carryLoop ws (sum / 2 ^ 64)
    (UInt64.ofNat sum :: rest.1, rest.2)
  | [], carry => ([], carry)

/-- A multiple of the limbs added to others. -/
def mulAddLoop (factor : UInt64) : List UInt64 → List UInt64 → Nat → List UInt64 × Nat
  | w :: ws, r :: rs, carry =>
    let product := factor.toNat * w.toNat + r.toNat + carry
    let rest := mulAddLoop factor ws rs (product / 2 ^ 64)
    (UInt64.ofNat product :: rest.1, rest.2)
  | _, _, carry => ([], carry)

/-- The rows of the schoolbook product. Of the product only the limbs from the row's own on are
passed on; its carry becomes the next limb. -/
def mulRows (bs : List UInt64) : List UInt64 → List UInt64 → List UInt64
  | [], prod => prod
  | a :: as, prod =>
    match mulAddLoop a bs prod 0 with
    | (low :: high, carry) => low :: mulRows bs as (high ++ [UInt64.ofNat carry])
    | ([], _) => prod

/-- The highest limbs are compared first. -/
def compareLoop : List UInt64 → List UInt64 → Ordering
  | a :: as, b :: bs => (compareLoop as bs).then (compare a b)
  | _, _ => .eq

/-- From the highest limb down; the bit that falls out of a limb is the highest of the next. -/
def shrLoop : List UInt64 → List UInt64 × UInt64
  | [] => ([], 0)
  | w :: ws =>
    let rest := shrLoop ws
    ((w >>> 1 ||| rest.2) :: rest.1, w <<< 63)

/-- From the lowest limb up. -/
def shlLoop : List UInt64 → UInt64 → List UInt64 × UInt64
  | [], carry => ([], carry)
  | w :: ws, carry =>
    let rest := shlLoop ws (w >>> 63)
    ((w <<< 1 ||| carry) :: rest.1, rest.2)

section Loops

variable {as bs ws rs : List UInt64}

theorem valueOf_lt (ws : List UInt64) : valueOf ws < 2 ^ (64 * ws.length) := by
  induction ws with
  | nil => simp [valueOf]
  | cons w ws ih =>
    have := w.toNat_lt
    rw [List.length_cons, Nat.mul_add, Nat.mul_one, Nat.pow_add, Nat.mul_comm, valueOf]
    omega

theorem valueOf_inj (lengths : as.length = bs.length) (same : valueOf as = valueOf bs) :
    as = bs := by
  induction as generalizing bs with
  | nil => exact (List.length_eq_zero_iff.mp lengths.symm).symm
  | cons a as ih =>
    cases bs with
    | nil => simp at lengths
    | cons b bs =>
      have := a.toNat_lt
      have := b.toNat_lt
      unfold valueOf at same
      have low : a.toNat = b.toNat := by omega
      have high : valueOf as = valueOf bs := by omega
      rw [UInt64.toNat_inj.mp low, ih (by simpa using lengths) high]

theorem valueOf_append (as bs : List UInt64) :
    valueOf (as ++ bs) = valueOf as + 2 ^ (64 * as.length) * valueOf bs := by
  induction as with
  | nil => simp [valueOf]
  | cons a as ih =>
    rw [List.cons_append, valueOf, ih, valueOf, List.length_cons]
    ring

/-- One limb of a loop and its carry out, which enters the higher limbs. -/
theorem limb_add_carry (sum : Nat) : (UInt64.ofNat sum).toNat + 2 ^ 64 * (sum / 2 ^ 64) = sum := by
  rw [UInt64.toNat_ofNat']
  exact Nat.mod_add_div sum _

theorem pow_limbs_succ (n : Nat) : 2 ^ (64 * (n + 1)) = 2 ^ 64 * 2 ^ (64 * n) := by
  rw [Nat.mul_add, Nat.mul_one, Nat.add_comm, Nat.pow_add]

theorem addLoop_spec (lengths : as.length = bs.length) (carry : Nat) :
    (addLoop as bs carry).1.length = as.length ∧
      valueOf (addLoop as bs carry).1 + 2 ^ (64 * as.length) * (addLoop as bs carry).2 =
        valueOf as + valueOf bs + carry := by
  induction as generalizing bs carry with
  | nil => simp [addLoop, valueOf, List.length_eq_zero_iff.mp lengths.symm]
  | cons a as ih =>
    obtain _ | ⟨b, bs⟩ := bs
    · simp at lengths
    set sum := a.toNat + b.toNat + carry with isSum
    obtain ⟨length, rest⟩ := ih (by simpa using lengths) (sum / 2 ^ 64)
    have step := limb_add_carry sum
    simp only [addLoop, ← isSum, List.length_cons, valueOf, length, true_and, pow_limbs_succ,
      Nat.mul_assoc]
    generalize 2 ^ (64 * as.length) * (addLoop as bs (sum / 2 ^ 64)).2 = high at rest ⊢
    omega

theorem subLoop_spec (lengths : as.length = bs.length) (carry : Nat) (le_one : carry ≤ 1) :
    (subLoop as bs carry).1.length = as.length ∧ (subLoop as bs carry).2 ≤ 1 ∧
      valueOf (subLoop as bs carry).1 + valueOf bs + carry =
        valueOf as + 2 ^ (64 * as.length) * (subLoop as bs carry).2 := by
  induction as generalizing bs carry with
  | nil => simp [subLoop, valueOf, List.length_eq_zero_iff.mp lengths.symm, le_one]
  | cons a as ih =>
    obtain _ | ⟨b, bs⟩ := bs
    · simp at lengths
    have aLt := a.toNat_lt
    have bLt := b.toNat_lt
    set diff := (a.toNat + 2 ^ 128 - b.toNat - carry) % 2 ^ 128 with isDiff
    set borrow := if diff / 2 ^ 64 > 0 then 1 else 0 with isBorrow
    obtain ⟨length, small, rest⟩ := ih (by simpa using lengths) borrow
      (by split at isBorrow <;> omega)
    have step := limb_add_carry diff
    have limb : (UInt64.ofNat diff).toNat + b.toNat + carry = a.toNat + 2 ^ 64 * borrow := by
      split at isBorrow <;> omega
    simp only [subLoop, ← isDiff, ← isBorrow, List.length_cons, valueOf, length, true_and,
      pow_limbs_succ, Nat.mul_assoc]
    refine ⟨small, ?_⟩
    generalize 2 ^ (64 * as.length) * (subLoop as bs borrow).2 = high at rest ⊢
    clear_value borrow diff
    omega

theorem carryLoop_spec (ws : List UInt64) (carry : Nat) :
    (carryLoop ws carry).1.length = ws.length ∧
      valueOf (carryLoop ws carry).1 + 2 ^ (64 * ws.length) * (carryLoop ws carry).2 =
        valueOf ws + carry := by
  induction ws generalizing carry with
  | nil => simp [carryLoop, valueOf]
  | cons w ws ih =>
    set sum := w.toNat + carry with isSum
    obtain ⟨length, rest⟩ := ih (sum / 2 ^ 64)
    have step := limb_add_carry sum
    simp only [carryLoop, ← isSum, List.length_cons, valueOf, length, true_and, pow_limbs_succ,
      Nat.mul_assoc]
    generalize 2 ^ (64 * ws.length) * (carryLoop ws (sum / 2 ^ 64)).2 = high at rest ⊢
    omega

theorem mulAddLoop_spec (factor : UInt64) (lengths : ws.length = rs.length) (carry : Nat) :
    (mulAddLoop factor ws rs carry).1.length = ws.length ∧
      valueOf (mulAddLoop factor ws rs carry).1 +
          2 ^ (64 * ws.length) * (mulAddLoop factor ws rs carry).2 =
        factor.toNat * valueOf ws + valueOf rs + carry := by
  induction ws generalizing rs carry with
  | nil => simp [mulAddLoop, valueOf, List.length_eq_zero_iff.mp lengths.symm]
  | cons w ws ih =>
    obtain _ | ⟨r, rs⟩ := rs
    · simp at lengths
    set product := factor.toNat * w.toNat + r.toNat + carry with isProduct
    obtain ⟨length, rest⟩ := ih (by simpa using lengths) (product / 2 ^ 64)
    have step := limb_add_carry product
    have row : factor.toNat * (w.toNat + 2 ^ 64 * valueOf ws) =
        factor.toNat * w.toNat + 2 ^ 64 * (factor.toNat * valueOf ws) := by ring
    simp only [mulAddLoop, ← isProduct, List.length_cons, valueOf, length, true_and, row,
      pow_limbs_succ, Nat.mul_assoc]
    generalize 2 ^ (64 * ws.length) * (mulAddLoop factor ws rs (product / 2 ^ 64)).2 = high
      at rest ⊢
    omega

/-- A row's carry is one limb: the row and what it is added to are of the row's size. -/
theorem mulAddLoop_carry_lt (factor : UInt64) (lengths : ws.length = rs.length) :
    (mulAddLoop factor ws rs 0).2 < 2 ^ 64 := by
  have sum := (mulAddLoop_spec factor lengths 0).2
  have wsLt := valueOf_lt ws
  have rsLt := valueOf_lt rs
  have factorLt := factor.toNat_lt
  rw [← lengths] at rsLt
  have product : factor.toNat * valueOf ws ≤ (2 ^ 64 - 1) * valueOf ws :=
    Nat.mul_le_mul_right _ (by omega)
  by_contra large
  have : 2 ^ (64 * ws.length) * 2 ^ 64 ≤ 2 ^ (64 * ws.length) * (mulAddLoop factor ws rs 0).2 :=
    Nat.mul_le_mul_left _ (by omega)
  omega

/-- By induction on the rows that are left. -/
theorem mulRows_spec (as : List UInt64) (positive : bs ≠ []) (lengths : bs.length = rs.length) :
    (mulRows bs as rs).length = as.length + rs.length ∧
      valueOf (mulRows bs as rs) = valueOf as * valueOf bs + valueOf rs := by
  induction as generalizing rs with
  | nil => simp [mulRows, valueOf]
  | cons a as ih =>
    obtain ⟨length, sum⟩ := mulAddLoop_spec a lengths 0
    have carryLt := mulAddLoop_carry_lt a lengths
    unfold mulRows
    split
    · next low high carry row =>
      rw [row] at length sum carryLt
      simp only [List.length_cons] at length
      have lengths' : bs.length = (high ++ [UInt64.ofNat carry]).length := by
        simpa using length.symm
      obtain ⟨ihLength, ih⟩ := ih lengths'
      rw [List.length_append, List.length_singleton, length] at ihLength
      have isCarry : (UInt64.ofNat carry).toNat = carry := by
        rw [UInt64.toNat_ofNat', Nat.mod_eq_of_lt carryLt]
      rw [valueOf_append] at ih
      simp only [valueOf, isCarry, Nat.mul_zero, Nat.add_zero] at ih sum
      refine ⟨?_, ?_⟩
      · rw [List.length_cons, List.length_cons, ihLength, lengths]
        omega
      · rw [valueOf, ih, valueOf]
        rw [← length, pow_limbs_succ] at sum
        linear_combination sum
    · next row =>
      rw [row] at length
      exact absurd (List.length_eq_zero_iff.mp length.symm) positive

theorem compareLoop_spec (lengths : as.length = bs.length) :
    compareLoop as bs = compare (valueOf as) (valueOf bs) := by
  induction as generalizing bs with
  | nil =>
    rw [List.length_eq_zero_iff.mp lengths.symm]
    rfl
  | cons a as ih =>
    cases bs with
    | nil => simp at lengths
    | cons b bs =>
      have := a.toNat_lt
      have := b.toNat_lt
      rw [compareLoop, ih (by simpa using lengths), valueOf, valueOf]
      simp only [compare, compareOfLessAndEq, UInt64.lt_iff_toNat_lt, ← UInt64.toNat_inj]
      split_ifs <;> first | rfl | omega

theorem testBit_valueOf (ws : List UInt64) (i : Nat) :
    (valueOf ws).testBit i = (ws.getD (i / 64) 0).toNat.testBit (i % 64) := by
  induction ws generalizing i with
  | nil => simp [valueOf]
  | cons w ws ih =>
    rw [valueOf, Nat.add_comm, Nat.testBit_two_pow_mul_add _ w.toNat_lt]
    split
    · next low => rw [Nat.div_eq_of_lt low, Nat.mod_eq_of_lt low, List.getD_cons_zero]
    · next high =>
      have place : i / 64 = (i - 64) / 64 + 1 := by omega
      have bit : i % 64 = (i - 64) % 64 := by omega
      rw [ih, place, bit, List.getD_cons_succ]

/-- Bits that do not overlap are added. -/
theorem or_eq_add {a b i : Nat} (small : b < 2 ^ i) (aligned : 2 ^ i ∣ a) : a ||| b = a + b := by
  obtain ⟨c, rfl⟩ := aligned
  rw [Nat.two_pow_add_eq_or_of_lt small]

theorem shrLoop_spec (ws : List UInt64) :
    (shrLoop ws).1.length = ws.length ∧ valueOf (shrLoop ws).1 = valueOf ws / 2 ∧
      (shrLoop ws).2.toNat = 2 ^ 63 * (valueOf ws % 2) := by
  induction ws with
  | nil => exact ⟨rfl, rfl, rfl⟩
  | cons w ws ih =>
    obtain ⟨length, high, carry⟩ := ih
    have wLt := w.toNat_lt
    have limb : (w >>> 1 ||| (shrLoop ws).2).toNat =
        w.toNat / 2 + 2 ^ 63 * (valueOf ws % 2) := by
      have shifted : (w >>> 1).toNat = w.toNat / 2 := by simp [Nat.shiftRight_eq_div_pow]
      rw [UInt64.toNat_or, shifted, carry, Nat.lor_comm, Nat.add_comm]
      exact or_eq_add (i := 63) (by omega) ⟨_, rfl⟩
    have out : (w <<< 63).toNat = 2 ^ 63 * (w.toNat % 2) := by
      have places : (63 : UInt64).toNat % 64 = 63 := rfl
      rw [UInt64.toNat_shiftLeft, places, Nat.shiftLeft_eq]
      omega
    refine ⟨by simp [shrLoop, length], ?_, ?_⟩
    · simp only [shrLoop, valueOf, limb, high]
      omega
    · simp only [shrLoop, valueOf, out]
      omega

theorem shlLoop_spec (ws : List UInt64) (bit : UInt64) (isBit : bit.toNat ≤ 1) :
    (shlLoop ws bit).1.length = ws.length ∧ (shlLoop ws bit).2.toNat ≤ 1 ∧
      valueOf (shlLoop ws bit).1 + 2 ^ (64 * ws.length) * (shlLoop ws bit).2.toNat =
        2 * valueOf ws + bit.toNat := by
  induction ws generalizing bit with
  | nil => simp [shlLoop, valueOf, isBit]
  | cons w ws ih =>
    have wLt := w.toNat_lt
    have out : (w >>> 63).toNat = w.toNat / 2 ^ 63 := by simp [Nat.shiftRight_eq_div_pow]
    have limb : (w <<< 1 ||| bit).toNat = 2 * w.toNat % 2 ^ 64 + bit.toNat := by
      have shifted : (w <<< 1).toNat = 2 * w.toNat % 2 ^ 64 := by
        simp [Nat.shiftLeft_eq, Nat.mul_comm]
      rw [UInt64.toNat_or, shifted]
      exact or_eq_add (i := 1) (by omega) (by omega)
    obtain ⟨length, small, rest⟩ := ih (w >>> 63) (by omega)
    simp only [shlLoop, List.length_cons, length, valueOf, limb, true_and, pow_limbs_succ,
      Nat.mul_assoc]
    refine ⟨small, ?_⟩
    generalize 2 ^ (64 * ws.length) * (shlLoop ws (w >>> 63)).2.toNat = high at rest ⊢
    omega

end Loops

/-! ### Numbers of so many limbs -/

variable {n m : Nat}

def value (a : Limbs n) : Nat := valueOf a.1

theorem value_lt (a : Limbs n) : a.value < 2 ^ (64 * n) := by
  have := valueOf_lt a.1
  rwa [a.2] at this

theorem value_inj {a b : Limbs n} : a.value = b.value ↔ a = b := by
  refine ⟨fun same => ?_, fun same => by rw [same]⟩
  exact Subtype.ext (valueOf_inj (a.2.trans b.2.symm) same)

/-- The sum and its carry. -/
def add (a b : Limbs n) : Limbs n × Nat :=
  (⟨(addLoop a.1 b.1 0).1, (addLoop_spec (a.2.trans b.2.symm) 0).1.trans a.2⟩,
    (addLoop a.1 b.1 0).2)

theorem value_add (a b : Limbs n) :
    (a.add b).1.value + 2 ^ (64 * n) * (a.add b).2 = a.value + b.value := by
  have := (addLoop_spec (a.2.trans b.2.symm) 0).2
  rwa [a.2] at this

/-- The difference and its borrow. -/
def sub (a b : Limbs n) : Limbs n × Nat :=
  (⟨(subLoop a.1 b.1 0).1, (subLoop_spec (a.2.trans b.2.symm) 0 (by omega)).1.trans a.2⟩,
    (subLoop a.1 b.1 0).2)

theorem sub_borrow_le (a b : Limbs n) : (a.sub b).2 ≤ 1 :=
  (subLoop_spec (a.2.trans b.2.symm) 0 (by omega)).2.1

theorem value_sub (a b : Limbs n) :
    (a.sub b).1.value + b.value = a.value + 2 ^ (64 * n) * (a.sub b).2 := by
  have := (subLoop_spec (a.2.trans b.2.symm) 0 (by omega)).2.2
  rwa [a.2] at this

/-- A small number added, and the carry. -/
def addNat (a : Limbs n) (carry : Nat) : Limbs n × Nat :=
  (⟨(carryLoop a.1 carry).1, (carryLoop_spec a.1 carry).1.trans a.2⟩, (carryLoop a.1 carry).2)

theorem value_addNat (a : Limbs n) (carry : Nat) :
    (a.addNat carry).1.value + 2 ^ (64 * n) * (a.addNat carry).2 = a.value + carry := by
  have := (carryLoop_spec a.1 carry).2
  rwa [a.2] at this

/-- A multiple of another number added, and the carry. -/
def addMul (a : Limbs n) (factor : UInt64) (b : Limbs n) : Limbs n × Nat :=
  (⟨(mulAddLoop factor b.1 a.1 0).1,
      (mulAddLoop_spec factor (b.2.trans a.2.symm) 0).1.trans b.2⟩,
    (mulAddLoop factor b.1 a.1 0).2)

theorem value_addMul (a : Limbs n) (factor : UInt64) (b : Limbs n) :
    (a.addMul factor b).1.value + 2 ^ (64 * n) * (a.addMul factor b).2 =
      a.value + factor.toNat * b.value := by
  have := (mulAddLoop_spec factor (b.2.trans a.2.symm) 0).2
  rw [b.2] at this
  unfold value addMul
  dsimp only
  omega

/-- The whole product. -/
def mul (a : Limbs n) (b : Limbs (m + 1)) : Limbs (n + (m + 1)) :=
  ⟨mulRows b.1 a.1 (List.replicate (m + 1) 0), by
    rw [(mulRows_spec a.1 (List.ne_nil_of_length_eq_add_one b.2) (by simp [b.2])).1, a.2,
      List.length_replicate]⟩

theorem valueOf_zeros (n : Nat) : valueOf (List.replicate n 0) = 0 := by
  induction n with
  | zero => rfl
  | succ n ih => simp [List.replicate_succ, valueOf, ih]

theorem value_mul (a : Limbs n) (b : Limbs (m + 1)) : (a.mul b).value = a.value * b.value := by
  have lengths : b.1.length = (List.replicate (m + 1) (0 : UInt64)).length := by simp [b.2]
  have product := (mulRows_spec a.1 (List.ne_nil_of_length_eq_add_one b.2) lengths).2
  rw [valueOf_zeros] at product
  exact product

def ge (a b : Limbs n) : Bool := compareLoop a.1 b.1 != .lt

theorem ge_iff {a b : Limbs n} : a.ge b = true ↔ b.value ≤ a.value := by
  unfold ge
  rw [compareLoop_spec (a.2.trans b.2.symm), bne_iff_ne, ne_eq, Nat.compare_eq_lt, Nat.not_lt]
  rfl

def isZero (a : Limbs n) : Bool := a.1.all (· == 0)

theorem isZero_iff {a : Limbs n} : a.isZero = true ↔ a.value = 0 := by
  obtain ⟨ws, length⟩ := a
  unfold isZero value
  dsimp only
  clear length
  induction ws with
  | nil => simp [valueOf]
  | cons w ws ih =>
    rw [List.all_cons, Bool.and_eq_true, ih, beq_iff_eq, valueOf, ← UInt64.toNat_inj]
    simp

/-- Half of it, rounded down. -/
def shr1 (a : Limbs n) : Limbs n := ⟨(shrLoop a.1).1, (shrLoop_spec a.1).1.trans a.2⟩

theorem value_shr1 (a : Limbs n) : a.shr1.value = a.value / 2 := (shrLoop_spec a.1).2.1

/-- Twice as much, and the bit that falls out. -/
def shl1 (a : Limbs n) : Limbs n × UInt64 :=
  (⟨(shlLoop a.1 0).1, (shlLoop_spec a.1 0 (by decide)).1.trans a.2⟩, (shlLoop a.1 0).2)

theorem value_shl1 (a : Limbs n) :
    a.shl1.1.value + 2 ^ (64 * n) * a.shl1.2.toNat = 2 * a.value := by
  have := (shlLoop_spec a.1 0 (by decide)).2.2
  rwa [a.2] at this

def lowest (a : Limbs n) : UInt64 := a.1.headD 0

def isOdd (a : Limbs n) : Bool := a.lowest &&& 1 == 1

theorem isOdd_iff {a : Limbs n} : a.isOdd = true ↔ a.value % 2 = 1 := by
  obtain ⟨ws, length⟩ := a
  unfold isOdd lowest value
  rw [beq_iff_eq, ← UInt64.toNat_inj, UInt64.toNat_and]
  cases ws with
  | nil => simp [valueOf]
  | cons w ws =>
    have bit : w.toNat &&& 1 = w.toNat % 2 := Nat.and_one_is_mod _
    simp only [List.headD_cons, valueOf, UInt64.toNat_one, bit]
    omega

/-- `a[0] |= bit`. -/
def orLowest (a : Limbs n) (bit : UInt64) : Limbs n :=
  ⟨a.1.modify 0 (· ||| bit), by rw [List.length_modify, a.2]⟩

theorem value_orLowest {a : Limbs (n + 1)} {bit : UInt64} (isBit : bit.toNat ≤ 1)
    (even : a.value % 2 = 0) : (a.orLowest bit).value = a.value + bit.toNat := by
  obtain ⟨ws, length⟩ := a
  obtain _ | ⟨w, ws⟩ := ws
  · simp at length
  · simp only [value, valueOf] at even
    have sum : (w ||| bit).toNat = w.toNat + bit.toNat := by
      rw [UInt64.toNat_or]
      exact or_eq_add (i := 1) (by omega) (by omega)
    simp only [orLowest, value, List.modify_zero_cons, valueOf, sum]
    omega

/-- `(a[i / 64] >> (i % 64)) & 1`. -/
def bit (a : Limbs n) (i : Nat) : UInt64 := a.1.getD (i / 64) 0 >>> UInt64.ofNat (i % 64) &&& 1

theorem toNat_bit (a : Limbs n) (i : Nat) : (a.bit i).toNat = a.value / 2 ^ i % 2 := by
  have places : (UInt64.ofNat (i % 64)).toNat % 64 = i % 64 := by
    rw [UInt64.toNat_ofNat']
    omega
  unfold bit value
  rw [← Nat.toNat_testBit, testBit_valueOf, Nat.toNat_testBit, UInt64.toNat_and,
    UInt64.toNat_shiftRight, places, Nat.shiftRight_eq_div_pow, UInt64.toNat_one]
  exact Nat.and_one_is_mod _

/-! ### Square and multiply -/

variable {α : Type}

/-- A power, or a multiple, by the bits of the exponent: `while !e.is_zero()`, which ends after as
many rounds as the exponent has bits. -/
def powLoop (op : α → α → α) : Nat → α → α → Limbs n → α
  | 0, res, _, _ => res
  | rounds + 1, res, base, e =>
    if e.isZero then res
    else powLoop op rounds (if e.isOdd then op res base else res) (op base base) e.shr1

/-- By induction on the rounds; `P k x` says that `x` is the power with exponent `k`. -/
theorem powLoop_spec {op : α → α → α} {P : Nat → α → Prop}
    (hop : ∀ {j k x y}, P j x → P k y → P (j + k) (op x y)) {rounds j k : Nat} {res base : α}
    {e : Limbs n} (enough : e.value < 2 ^ rounds) (isRes : P j res) (isBase : P k base) :
    P (j + k * e.value) (powLoop op rounds res base e) := by
  induction rounds generalizing j k res base e with
  | zero =>
    have zero : e.value = 0 := by omega
    rwa [zero, Nat.mul_zero, Nat.add_zero]
  | succ rounds ih =>
    unfold powLoop
    split
    · next zero =>
      rwa [isZero_iff.mp zero, Nat.mul_zero, Nat.add_zero]
    · have half := value_shr1 e
      have bits : e.value = 2 * e.shr1.value + e.value % 2 := by omega
      have exponent : j + k * e.value = j + k * (e.value % 2) + (k + k) * e.shr1.value := by
        nth_rewrite 1 [bits]
        ring
      have fewer : e.shr1.value < 2 ^ rounds := by omega
      rw [exponent]
      refine ih fewer ?_ (hop isBase isBase)
      split
      · next odd =>
        rw [isOdd_iff.mp odd, Nat.mul_one]
        exact hop isRes isBase
      · next even =>
        have isEven : e.value % 2 = 0 := by
          have := isOdd_iff.not.mp even
          omega
        rwa [isEven, Nat.mul_zero, Nat.add_zero]

end Limbs

end Host
