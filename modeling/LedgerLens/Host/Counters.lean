import LedgerLens.Host.Accounts
import Mathlib.Data.Set.Card

/-!
Counters of a table: how often each cell was counted, the sums of the columns,
and the number of cells ever counted. And counts of the keys of a map by a class
their values fall into.
-/

namespace Host

open Totals Finset

structure Counters (A B : Type) where
  count : A × B → Nat
  columnCount : B → Nat
  total : Nat

namespace Counters

variable {A B : Type}

/-- The columns are the sums of their cells. -/
def ColumnsSummed [Finite A] (counters : Counters A B) : Prop :=
  ∀ column, counters.columnCount column = ∑ row, counters.count (row, column)

/-- The total is the number of cells that were counted. -/
def CellsCounted (counters : Counters A B) : Prop :=
  counters.total = Set.ncard {cell | 0 < counters.count cell}

variable [DecidableEq A] [DecidableEq B]

/-- Count a cell once more, for the total only when it is taken to be new. -/
def tally (counters : Counters A B) (cell : A × B) (isNew : Bool) : Counters A B where
  count := Function.update counters.count cell (counters.count cell + 1)
  columnCount := Function.update counters.columnCount cell.2 (counters.columnCount cell.2 + 1)
  total := counters.total + if isNew then 1 else 0

variable {counters : Counters A B} {cell : A × B}

theorem count_tally (isNew : Bool) (other : A × B) :
    (counters.tally cell isNew).count other =
      counters.count other + if other = cell then 1 else 0 := by
  dsimp only [tally]
  rw [Function.update_apply]
  split
  · next same => rw [same]
  · rfl

theorem ColumnsSummed.tally [Finite A] (summed : counters.ColumnsSummed) (isNew : Bool) :
    (counters.tally cell isNew).ColumnsSummed := by
  intro column
  have counted : ∑ row, (if (row, column) = cell then 1 else 0) =
      if column = cell.2 then 1 else 0 := by
    obtain ⟨row, own⟩ := cell
    by_cases same : column = own
    · simp [same]
    · simp [same]
  simp only [count_tally, sum_add_distrib, counted, ← summed column]
  dsimp only [Counters.tally]
  rw [Function.update_apply]
  split
  · next same => rw [same]
  · rfl

theorem counted_tally (isNew : Bool) :
    {other | 0 < (counters.tally cell isNew).count other} =
      insert cell {other | 0 < counters.count other} := by
  ext other
  rw [Set.mem_insert_iff]
  change 0 < (counters.tally cell isNew).count other ↔ other = cell ∨ 0 < counters.count other
  rw [count_tally]
  split
  · next same => exact ⟨fun _ => .inl same, fun _ => Nat.succ_pos _⟩
  · next different => exact ⟨.inr, fun counted => counted.resolve_left different⟩

/-- Counting keeps the total right if the cell is taken to be new exactly when it is. -/
theorem CellsCounted.tally [Finite A] [Finite B] (counted : counters.CellsCounted)
    {isNew : Bool} (right : isNew = true ↔ counters.count cell = 0) :
    (counters.tally cell isNew).CellsCounted := by
  unfold CellsCounted at counted ⊢
  rw [counted_tally]
  change counters.total + (if isNew then 1 else 0) = _
  cases isNew with
  | true =>
    have unseen : cell ∉ {other | 0 < counters.count other} := by
      intro seen
      exact absurd (right.mp rfl) (Nat.pos_iff_ne_zero.mp seen)
    rw [Set.ncard_insert_of_notMem unseen (Set.toFinite _), ← counted]
    rfl
  | false =>
    have seen : cell ∈ {other | 0 < counters.count other} :=
      Nat.pos_of_ne_zero fun zero => Bool.false_ne_true (right.mpr zero)
    rw [Set.insert_eq_of_mem seen, ← counted]
    rfl

end Counters

end Host
