import LedgerLens.Host.Ledger
import Mathlib.Data.Nat.Bitwise
import Mathlib.Tactic.IntervalCases

/-!
Sets of bits kept in a byte string, the low bits of each byte first.
-/

namespace Host.Bitmap

section

variable (bytes : Bytes) (bit : Nat)

def mask : UInt8 := 1 <<< UInt8.ofNat (bit % 8)

def set : Bytes := bytes.modify (bit / 8) (· ||| mask bit)

def has : Bool := bytes.getD (bit / 8) 0 &&& mask bit != 0

def setAll (bits : List Nat) : Bytes := bits.foldl set bytes

theorem toNat_mask : (mask bit).toNat = 2 ^ (bit % 8) := by
  have small : bit % 8 < 8 := Nat.mod_lt bit (by decide)
  unfold mask
  generalize bit % 8 = k at small
  interval_cases k <;> rfl

theorem has_eq_testBit : has bytes bit = (bytes.getD (bit / 8) 0).toNat.testBit (bit % 8) := by
  have nonzero (byte : UInt8) : (byte != 0) = (byte.toNat != 0) := by
    rw [Bool.eq_iff_iff, bne_iff_ne, bne_iff_ne, ne_eq, ne_eq, ← UInt8.toNat_inj]
    rfl
  rw [has, nonzero, UInt8.toNat_and, toNat_mask, Nat.and_two_pow]
  cases Nat.testBit _ _ <;> simp

theorem length_set : (set bytes bit).length = bytes.length :=
  List.length_modify ..

end

theorem length_setAll (bytes : Bytes) (bits : List Nat) :
    (setAll bytes bits).length = bytes.length := by
  induction bits generalizing bytes with
  | nil => rfl
  | cons bit bits ih => exact (ih (set bytes bit)).trans (length_set bytes bit)

theorem has_set {bytes : Bytes} {bit : Nat} (inside : bit / 8 < bytes.length) (other : Nat) :
    has (set bytes bit) other = (has bytes other || decide (bit = other)) := by
  rw [has_eq_testBit, has_eq_testBit, set, List.getD_eq_getElem?_getD, List.getD_eq_getElem?_getD,
    List.getElem?_modify]
  by_cases same : bit / 8 = other / 8
  · have isBit : bit % 8 = other % 8 ↔ bit = other := by omega
    obtain ⟨byte, found⟩ : ∃ byte, bytes[other / 8]? = some byte :=
      ⟨_, List.getElem?_eq_getElem (same ▸ inside)⟩
    simp [same, found, toNat_mask, Nat.testBit_two_pow, isBit]
  · have ne : bit ≠ other := fun eq => same (by rw [eq])
    simp [same, ne]

theorem has_setAll {bytes : Bytes} {bits : List Nat} (inside : ∀ bit ∈ bits, bit / 8 < bytes.length)
    (other : Nat) : has (setAll bytes bits) other = (has bytes other || decide (other ∈ bits)) := by
  induction bits generalizing bytes with
  | nil => simp [setAll]
  | cons bit bits ih =>
    have later : ∀ bit' ∈ bits, bit' / 8 < (set bytes bit).length := fun bit' listed => by
      rw [length_set]
      exact inside bit' (.tail _ listed)
    have first := has_set (inside bit List.mem_cons_self) other
    rw [setAll, List.foldl_cons, ← setAll, ih later, first, Bool.or_assoc]
    simp [eq_comm]

/-- Strings of one length with the same bits are equal. -/
theorem ext {a b : Bytes} (lengths : a.length = b.length) (same : ∀ bit, has a bit = has b bit) :
    a = b := by
  refine List.ext_getElem lengths fun i inA inB => ?_
  refine UInt8.toNat_inj.mp (Nat.eq_of_testBit_eq fun k => ?_)
  rcases Nat.lt_or_ge k 8 with low | high
  · have at' := same (8 * i + k)
    have byte : (8 * i + k) / 8 = i := by omega
    have bit : (8 * i + k) % 8 = k := by omega
    rw [has_eq_testBit, has_eq_testBit, byte, bit] at at'
    simpa [inA, inB] using at'
  · have beyond (byte : UInt8) : byte.toNat.testBit k = false :=
      Nat.testBit_lt_two_pow (Nat.lt_of_lt_of_le byte.toNat_lt (Nat.pow_le_pow_right
        (by decide) high))
    rw [beyond, beyond]

theorem has_replicate (n bit : Nat) : has (List.replicate n 0) bit = false := by
  rw [has_eq_testBit, List.getD_eq_getElem?_getD, List.getElem?_replicate]
  split <;> simp

end Host.Bitmap
