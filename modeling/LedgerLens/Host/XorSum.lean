import LedgerLens.Host.Accounts

/-!
Tables of byte strings and the exclusive or of all their rows. Under exclusive or
the strings of one length are a group in which each is its own inverse, so a row
is taken out of the sum by adding it once more.
-/

namespace Host

open Totals Finset

variable {n : Nat}

/-- Exclusive or, byte by byte. -/
def BytesN.xor (a b : BytesN n) : BytesN n :=
  ⟨List.zipWith (fun x y => x ^^^ y) a.1 b.1, by simp [a.2, b.2]⟩

def BytesN.zero : BytesN n := ⟨List.replicate n 0, by simp⟩

namespace BytesN

theorem ext_getElem {a b : BytesN n}
    (same : ∀ (i : Nat) (h : i < a.1.length) (h' : i < b.1.length), a.1[i] = b.1[i]) : a = b :=
  Subtype.ext (List.ext_getElem (by rw [a.2, b.2]) same)

theorem xor_assoc (a b c : BytesN n) : (a.xor b).xor c = a.xor (b.xor c) :=
  ext_getElem fun i _ _ => by simp [xor, UInt8.xor_assoc]

theorem xor_comm (a b : BytesN n) : a.xor b = b.xor a :=
  ext_getElem fun i _ _ => by simpa [xor] using UInt8.xor_comm ..

theorem xor_zero (a : BytesN n) : a.xor zero = a :=
  ext_getElem fun i _ _ => by simp [xor, zero]

theorem xor_self (a : BytesN n) : a.xor a = zero :=
  ext_getElem fun i _ _ => by simp [xor, zero]

end BytesN

instance : Add (BytesN n) := ⟨BytesN.xor⟩

instance : Zero (BytesN n) := ⟨BytesN.zero⟩

instance : Neg (BytesN n) := ⟨id⟩

instance : AddCommGroup (BytesN n) where
  add_assoc := BytesN.xor_assoc
  add_comm := BytesN.xor_comm
  zero_add a := (BytesN.xor_comm _ _).trans (BytesN.xor_zero a)
  add_zero := BytesN.xor_zero
  neg_add_cancel := BytesN.xor_self
  nsmul := nsmulRec
  zsmul := zsmulRec

theorem BytesN.add_self (a : BytesN n) : a + a = 0 := BytesN.xor_self a

/-- The exclusive or of the rows; a key without a row adds nothing. -/
noncomputable def xorSum {A : Type} [Finite A] (table : A → Option (BytesN n)) : BytesN n :=
  ∑ key, (table key).getD 0

/-- A row is replaced by adding the old one and the new one. -/
theorem xorSum_update {A : Type} [Finite A] [DecidableEq A] (table : A → Option (BytesN n))
    (key : A) (row : Option (BytesN n)) :
    xorSum (Function.update table key row) = xorSum table + (table key).getD 0 + row.getD 0 := by
  have rows : (fun other => (Function.update table key row other).getD 0) =
      Function.update (fun other => (table other).getD 0) key (row.getD 0) := by
    funext other
    exact Function.apply_update (fun _ value => value.getD 0) table key row other
  have others := add_sum_erase univ (fun other => (table other).getD 0) (mem_univ key)
  unfold xorSum
  rw [rows, sum_update_of_mem (mem_univ key), sdiff_singleton_eq_erase, ← others]
  have cancelled (a b c : BytesN n) : c + b = a + b + a + c := by
    rw [add_right_comm a b a, BytesN.add_self, zero_add, add_comm]
  exact cancelled ..

end Host
