import LedgerLens.Host.Limbs

/-!
The integers of 128 bits in which the loops over limbs form their sums and products: none of
them overflows. The sums are of natural numbers, so that a part of a sum fits when the whole does.
-/

namespace Host.Limbs

def AddFits : List UInt64 → List UInt64 → Nat → Prop
  | a :: as, b :: bs, carry =>
    a.toNat + b.toNat + carry < 2 ^ 128 ∧ AddFits as bs ((a.toNat + b.toNat + carry) / 2 ^ 64)
  | _, _, _ => True

def CarryFits : List UInt64 → Nat → Prop
  | w :: ws, carry => w.toNat + carry < 2 ^ 128 ∧ CarryFits ws ((w.toNat + carry) / 2 ^ 64)
  | [], _ => True

def MulAddFits (factor : UInt64) : List UInt64 → List UInt64 → Nat → Prop
  | w :: ws, r :: rs, carry =>
    factor.toNat * w.toNat + r.toNat + carry < 2 ^ 128 ∧
      MulAddFits factor ws rs ((factor.toNat * w.toNat + r.toNat + carry) / 2 ^ 64)
  | _, _, _ => True

/-- The carry of a row becomes a limb, into which it has to fit. -/
def RowsFit (bs : List UInt64) : List UInt64 → List UInt64 → Prop
  | [], _ => True
  | a :: as, prod =>
    MulAddFits a bs prod 0 ∧ (mulAddLoop a bs prod 0).2 < 2 ^ 64 ∧
      RowsFit bs as ((mulAddLoop a bs prod 0).1.tail ++ [UInt64.ofNat (mulAddLoop a bs prod 0).2])

section Fits

variable {as bs ws rs : List UInt64} {carry : Nat}

theorem addFits (small : carry ≤ 2 ^ 64) : AddFits as bs carry := by
  induction as generalizing bs carry with
  | nil => trivial
  | cons a as ih =>
    cases bs with
    | nil => trivial
    | cons b bs =>
      have := a.toNat_lt
      have := b.toNat_lt
      exact ⟨by omega, ih (by omega)⟩

theorem carryFits (small : carry < 2 ^ 127) : CarryFits ws carry := by
  induction ws generalizing carry with
  | nil => trivial
  | cons w ws ih =>
    have := w.toNat_lt
    exact ⟨by omega, ih (by omega)⟩

/-- The largest product leaves room for a limb and a carry. -/
theorem mulAddFits {factor : UInt64} (small : carry < 2 ^ 64) : MulAddFits factor ws rs carry := by
  induction ws generalizing rs carry with
  | nil => trivial
  | cons w ws ih =>
    cases rs with
    | nil => trivial
    | cons r rs =>
      have largest : factor.toNat * w.toNat ≤ (2 ^ 64 - 1) * (2 ^ 64 - 1) :=
        Nat.mul_le_mul (Nat.le_sub_one_of_lt factor.toNat_lt) (Nat.le_sub_one_of_lt w.toNat_lt)
      have := r.toNat_lt
      exact ⟨by omega, ih (by omega)⟩

theorem rowsFit (positive : bs ≠ []) (lengths : bs.length = rs.length) : RowsFit bs as rs := by
  induction as generalizing rs with
  | nil => trivial
  | cons a as ih =>
    refine ⟨mulAddFits (by decide), mulAddLoop_carry_lt a lengths, ih ?_⟩
    have length := (mulAddLoop_spec a lengths 0).1
    have := List.length_pos_iff.mpr positive
    rw [List.length_append, List.length_tail, length, List.length_singleton]
    omega

end Fits

/-! ### Powers of what is not reduced -/

/-- Only the operation makes results, apart from the one that is started with. -/
theorem powLoop_result {α : Type} {n rounds : Nat} {op : α → α → α} {Q : α → Prop}
    (made : ∀ x y, Q (op x y)) {res base : α} {e : Limbs n} (start : Q res) :
    Q (powLoop op rounds res base e) := by
  induction rounds generalizing res base e with
  | zero => exact start
  | succ rounds ih =>
    unfold powLoop
    split
    · exact start
    · refine ih ?_
      split
      · exact made res base
      · exact start

end Host.Limbs
