import Mathlib.Algebra.BigOperators.Ring.List
import Mathlib.Algebra.Order.BigOperators.Group.List
import Mathlib.Algebra.Order.Ring.Nat
import Mathlib.Data.List.Sort
import Mathlib.Tactic.Ring

/-!
Order statistics and weighted means of a list, and what they have to do with its
smallest and largest entries. An order statistic is found without sorting: it is
the entry that few enough entries are smaller than and enough are not larger than.
-/

namespace Host

section Order

variable {α : Type} [LinearOrder α]

/-- The `k`-th smallest entry, counted from 0. -/
def orderStat (values : List α) (k : Nat) : Option α := (values.mergeSort (· ≤ ·))[k]?

/-- In a sorted list, the entries with a property that smaller entries share come first. -/
theorem getElem_iff_lt_countP {values : List α} (sorted : values.Pairwise (· ≤ ·))
    {p : α → Prop} [DecidablePred p] (down : ∀ a b, a ≤ b → p b → p a) {k : Nat}
    (inside : k < values.length) : p values[k] ↔ k < values.countP (p ·) := by
  induction values generalizing k with
  | nil => exact absurd inside (Nat.not_lt_zero k)
  | cons first rest ih =>
    obtain ⟨least, sorted⟩ := List.pairwise_cons.mp sorted
    by_cases holds : p first
    · rw [List.countP_cons_of_pos (by simpa using holds)]
      cases k with
      | zero => exact iff_of_true holds (Nat.succ_pos _)
      | succ k =>
        rw [Nat.succ_lt_succ_iff]
        exact ih sorted (Nat.lt_of_succ_lt_succ inside)
    · -- no entry after the first has the property either
      have none : rest.countP (p ·) = 0 := by
        refine List.countP_eq_zero.mpr fun entry listed => ?_
        simpa using fun other => holds (down _ _ (least entry listed) other)
      rw [List.countP_cons_of_neg (by simpa using holds), none]
      refine iff_of_false (fun other => holds ?_) (Nat.not_lt_zero k)
      refine down _ _ ?_ other
      cases k with
      | zero => exact le_rfl
      | succ k => exact least _ (List.getElem_mem _)

theorem orderStat_eq_some_iff {values : List α} {k : Nat} {x : α} :
    orderStat values k = some x ↔ values.countP (· < x) ≤ k ∧ k < values.countP (· ≤ x) := by
  have sorted : (values.mergeSort (· ≤ ·)).Pairwise (· ≤ ·) := List.pairwise_mergeSort' ..
  have counted (p : α → Bool) : values.countP p = (values.mergeSort (· ≤ ·)).countP p :=
    (List.mergeSort_perm values _).symm.countP_eq p
  rw [counted, counted, orderStat]
  generalize values.mergeSort (· ≤ ·) = ordered at sorted
  by_cases inside : k < ordered.length
  · rw [List.getElem?_eq_getElem inside, Option.some.injEq, ← Nat.not_lt,
      ← getElem_iff_lt_countP sorted (fun _ _ le lt => le.trans_lt lt) inside,
      ← getElem_iff_lt_countP sorted (fun _ _ le le' => le.trans le') inside]
    constructor
    · rintro rfl
      exact ⟨lt_irrefl _, le_rfl⟩
    · rintro ⟨notLess, le⟩
      exact le_antisymm le (not_lt.mp notLess)
  · rw [List.getElem?_eq_none (not_lt.mp inside)]
    refine iff_of_false nofun fun bounds => inside ?_
    exact bounds.2.trans_le List.countP_le_length

theorem orderStat_isSome {values : List α} {k : Nat} (inside : k < values.length) :
    ∃ x, orderStat values k = some x :=
  ⟨_, List.getElem?_eq_getElem (by rwa [List.length_mergeSort])⟩

theorem mem_of_orderStat {values : List α} {k : Nat} {x : α}
    (found : orderStat values k = some x) : x ∈ values :=
  List.mem_mergeSort.mp (List.mem_of_getElem? found)

/-- The entry that the counts single out is the order statistic. -/
theorem find?_eq_orderStat (values : List α) (k : Nat) :
    (values.find? fun x => values.countP (· < x) ≤ k && k < values.countP (· ≤ x)) =
      orderStat values k := by
  cases found : orderStat values k with
  | none =>
    refine List.find?_eq_none.mpr fun x _ => ?_
    have other : ¬ orderStat values k = some x := by
      rw [found]
      exact nofun
    simpa [orderStat_eq_some_iff] using other
  | some x =>
    have listed := mem_of_orderStat found
    have counts := orderStat_eq_some_iff.mp found
    cases first : values.find? fun x =>
        values.countP (· < x) ≤ k && k < values.countP (· ≤ x) with
    | none =>
      have := List.find?_eq_none.mp first x listed
      simp [counts] at this
    | some y =>
      have bounds := List.find?_some first
      rw [Bool.and_eq_true, decide_eq_true_eq, decide_eq_true_eq] at bounds
      rw [← found, orderStat_eq_some_iff.mpr bounds]

end Order

/-! ### Weighted means -/

section Means

/-- The sum of the weights, and of the weighted values. -/
def totalWeight (weighted : List (Nat × Nat)) : Nat := (weighted.map Prod.fst).sum

def weightedSum (weighted : List (Nat × Nat)) : Nat :=
  (weighted.map fun vote => vote.1 * vote.2).sum

variable {weighted : List (Nat × Nat)} {bound : Nat}

theorem mul_totalWeight_le (above : ∀ vote ∈ weighted, bound ≤ vote.2) :
    bound * totalWeight weighted ≤ weightedSum weighted := by
  unfold totalWeight weightedSum
  rw [← List.sum_map_mul_left]
  refine List.sum_le_sum fun vote listed => ?_
  rw [Nat.mul_comm]
  exact Nat.mul_le_mul_left _ (above vote listed)

theorem weightedSum_le (below : ∀ vote ∈ weighted, vote.2 ≤ bound) :
    weightedSum weighted ≤ bound * totalWeight weighted := by
  unfold totalWeight weightedSum
  rw [← List.sum_map_mul_left]
  refine List.sum_le_sum fun vote listed => ?_
  rw [Nat.mul_comm]
  exact Nat.mul_le_mul_right _ (below vote listed)

/-- A weighted mean lies between any bounds of the values. -/
theorem le_weightedMean (positive : 0 < totalWeight weighted)
    (above : ∀ vote ∈ weighted, bound ≤ vote.2) :
    bound ≤ weightedSum weighted / totalWeight weighted :=
  (Nat.le_div_iff_mul_le positive).mpr (mul_totalWeight_le above)

theorem weightedMean_le (below : ∀ vote ∈ weighted, vote.2 ≤ bound) :
    weightedSum weighted / totalWeight weighted ≤ bound :=
  Nat.div_le_of_le_mul (by rw [Nat.mul_comm]; exact weightedSum_le below)

/-- The weighted sum of the deviations from a value. -/
def weightedDeviation (weighted : List (Nat × Nat)) (value : Nat) : Int :=
  (weighted.map fun vote => (vote.1 : Int) * (vote.2 - value)).sum

theorem weightedDeviation_eq (weighted : List (Nat × Nat)) (value : Nat) :
    weightedDeviation weighted value =
      (weightedSum weighted : Int) - (value * totalWeight weighted : Nat) := by
  induction weighted with
  | nil => simp [weightedDeviation, weightedSum, totalWeight]
  | cons first rest ih =>
    simp only [weightedDeviation, weightedSum, totalWeight, List.map_cons, List.sum_cons] at ih ⊢
    rw [ih]
    push_cast
    ring

/-- The truncated mean is near a value exactly when the deviations from it even out. -/
theorem weightedMean_near_iff (positive : 0 < totalWeight weighted) (value distance : Nat) :
    (value ≤ weightedSum weighted / totalWeight weighted + distance ∧
        weightedSum weighted / totalWeight weighted ≤ value + distance) ↔
      -((distance * totalWeight weighted : Nat) : Int) ≤ weightedDeviation weighted value ∧
        weightedDeviation weighted value < ((distance + 1) * totalWeight weighted : Nat) := by
  have below : value ≤ weightedSum weighted / totalWeight weighted + distance ↔
      value * totalWeight weighted - distance * totalWeight weighted ≤ weightedSum weighted := by
    rw [← Nat.sub_le_iff_le_add, Nat.le_div_iff_mul_le positive, Nat.sub_mul]
  have above : weightedSum weighted / totalWeight weighted ≤ value + distance ↔
      weightedSum weighted <
        value * totalWeight weighted + (distance + 1) * totalWeight weighted := by
    rw [← Nat.lt_add_one_iff, Nat.div_lt_iff_lt_mul positive, Nat.add_assoc, Nat.add_mul]
  rw [below, above, weightedDeviation_eq]
  omega

end Means

end Host
