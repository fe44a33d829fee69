import LedgerLens.Host.Ledger
import Mathlib.Algebra.BigOperators.Group.Finset.Piecewise
import Mathlib.Algebra.Order.BigOperators.Group.Finset
import Mathlib.Algebra.Ring.Int.Defs
import Mathlib.Data.FinEnum
import Mathlib.Data.Set.Finite.List

/-!
Prepaid accounts. Holders pay money in and may take it out again; the operator
charges fees to their accounts and collects what was charged. The book says what
each holder has, what the operator owes in all, and what it has earned.
-/

namespace Host

open Finset

variable {A : Type}

/-- A total after one of its terms was replaced. -/
theorem sum_update [DecidableEq A] [Fintype A] (f : A → Int) (a : A) (v : Int) :
    ∑ b, Function.update f a v b = ∑ b, f b - f a + v := by
  rw [sum_update_of_mem (mem_univ a), sdiff_singleton_eq_erase, ← add_sum_erase univ f (mem_univ a)]
  omega

/-! ### Books -/

/-- What can happen to the book. -/
inductive Move (A : Type) where
  | deposit (account : A) (amount : Int)
  | withdraw (account : A) (amount : Int)
  | charge (account : A) (amount : Int)
  | collect (amount : Int)
  | rest

structure Book (A : Type) where
  holding : A → Int
  liability : Int
  revenue : Int

namespace Move

def deposited : Move A → Int
  | .deposit _ amount => amount
  | _ => 0

def withdrawn : Move A → Int
  | .withdraw _ amount => amount
  | _ => 0

def charged : Move A → Int
  | .charge _ amount => amount
  | _ => 0

def collected : Move A → Int
  | .collect amount => amount
  | _ => 0

/-- Nothing is taken that is not there. -/
def Covered (book : Book A) : Move A → Prop
  | .deposit _ amount => 0 ≤ amount
  | .withdraw account amount | .charge account amount =>
    0 ≤ amount ∧ amount ≤ book.holding account
  | .collect amount => 0 ≤ amount ∧ amount ≤ book.revenue
  | .rest => True

end Move

namespace Book

/-- The operator owes the holders what they have, and no account is overdrawn. -/
structure Sound [Fintype A] (book : Book A) : Prop where
  holding_nonneg : ∀ account, 0 ≤ book.holding account
  liability_eq : book.liability = ∑ account, book.holding account
  revenue_nonneg : 0 ≤ book.revenue

variable [DecidableEq A]

section

variable (moves : List (Move A)) (book : Book A)

/-- Move a holding. -/
def adjust (account : A) (change : Int) : Book A :=
  { book with
    holding := Function.update book.holding account (book.holding account + change)
    liability := book.liability + change }

def after : Move A → Book A
  | .deposit account amount => book.adjust account amount
  | .withdraw account amount => book.adjust account (-amount)
  | .charge account amount =>
    { book.adjust account (-amount) with revenue := book.revenue + amount }
  | .collect amount => { book with revenue := book.revenue - amount }
  | .rest => book

@[simp] theorem after_charge_zero (account : A) :
    book.after (.charge account 0) = book := by
  simp [after, adjust]

theorem liability_after (move : Move A) :
    (book.after move).liability =
      book.liability + move.deposited - move.withdrawn - move.charged := by
  cases move <;> simp [after, adjust, Move.deposited, Move.withdrawn, Move.charged] <;> omega

theorem revenue_after (move : Move A) :
    (book.after move).revenue = book.revenue + move.charged - move.collected := by
  cases move <;> simp [after, adjust, Move.charged, Move.collected]

/-- What the operator owes after a list of moves. -/
theorem liability_foldl :
    (moves.foldl after book).liability =
      book.liability + (moves.map Move.deposited).sum - (moves.map Move.withdrawn).sum
        - (moves.map Move.charged).sum := by
  induction moves generalizing book with
  | nil => simp
  | cons move rest ih =>
    rw [List.foldl_cons, ih, liability_after]
    simp only [List.map_cons, List.sum_cons]
    omega

/-- What the operator has earned after a list of moves. -/
theorem revenue_foldl :
    (moves.foldl after book).revenue =
      book.revenue + (moves.map Move.charged).sum - (moves.map Move.collected).sum := by
  induction moves generalizing book with
  | nil => simp
  | cons move rest ih =>
    rw [List.foldl_cons, ih, revenue_after]
    simp only [List.map_cons, List.sum_cons]
    omega

end

variable [Fintype A]

/-- Moving one holding moves the total by as much. -/
theorem sum_adjust (book : Book A) (account : A) (change : Int) :
    ∑ a, (book.adjust account change).holding a = ∑ a, book.holding a + change := by
  dsimp only [adjust]
  rw [sum_update]
  omega

theorem Sound.adjust {book : Book A} (sound : book.Sound) {account : A} {change : Int}
    (covered : 0 ≤ book.holding account + change) : (book.adjust account change).Sound where
  holding_nonneg other := by
    dsimp only [Book.adjust]
    rw [Function.update_apply]
    split
    · exact covered
    · exact sound.holding_nonneg other
  liability_eq := by
    rw [sum_adjust, ← sound.liability_eq]
    rfl
  revenue_nonneg := sound.revenue_nonneg

theorem Sound.after {book : Book A} (sound : book.Sound) {move : Move A}
    (covered : move.Covered book) : (book.after move).Sound := by
  cases move with
  | deposit account amount => exact sound.adjust (add_nonneg (sound.holding_nonneg account) covered)
  | withdraw account amount => exact sound.adjust (by have := covered.2; omega)
  | charge account amount =>
    have adjusted : (book.adjust account (-amount)).Sound :=
      sound.adjust (by have := covered.2; omega)
    exact ⟨adjusted.holding_nonneg, adjusted.liability_eq,
      add_nonneg sound.revenue_nonneg covered.1⟩
  | collect amount =>
    exact ⟨sound.holding_nonneg, sound.liability_eq, sub_nonneg.mpr covered.2⟩
  | rest => exact sound

omit [DecidableEq A] in
theorem Sound.liability_nonneg {book : Book A} (sound : book.Sound) : 0 ≤ book.liability := by
  rw [sound.liability_eq]
  exact sum_nonneg fun account _ => sound.holding_nonneg account

omit [DecidableEq A] in
/-- No holder has more than the operator owes. -/
theorem Sound.holding_le {book : Book A} (sound : book.Sound) (account : A) :
    book.holding account ≤ book.liability := by
  rw [sound.liability_eq]
  exact single_le_sum (fun a _ => sound.holding_nonneg a) (mem_univ account)

omit [DecidableEq A] in
/-- What leaves an account never exceeds what the operator owes. -/
theorem Sound.drawn_le {book : Book A} (sound : book.Sound) {move : Move A}
    (covered : move.Covered book) : move.withdrawn + move.charged ≤ book.liability := by
  have owed := sound.liability_nonneg
  cases move with
  | withdraw account amount =>
    simpa [Move.withdrawn, Move.charged] using covered.2.trans (sound.holding_le account)
  | charge account amount =>
    simpa [Move.withdrawn, Move.charged] using covered.2.trans (sound.holding_le account)
  | deposit => simpa [Move.withdrawn, Move.charged] using owed
  | collect => simpa [Move.withdrawn, Move.charged] using owed
  | rest => simpa [Move.withdrawn, Move.charged] using owed

end Book

/-! ### Addresses as accounts -/

instance : Finite Address :=
  have : Finite (BytesN 56) := (List.finite_length_eq UInt8 56).to_subtype
  Finite.of_injective Address.strkey fun a b same => by
    cases a
    cases b
    cases same
    rfl

namespace Totals

/-- Totals over a finite type. Scoped, since no statement that is to be evaluated
should find it. -/
noncomputable scoped instance (priority := low) ofFinite [Finite A] : Fintype A :=
  Fintype.ofFinite A

end Totals

open Totals

end Host
