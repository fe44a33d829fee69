import LedgerLens.Host.Variance
import LedgerLens.System.Calls

/-!
The spread of the scores as the cooldowns are stretched by it. It is computed from the counts of a
histogram in integers, and is the exact variance of the midpoints in units of two and a half, up
to one unit. The main result is `spread_and_cooldown`.
-/

namespace LedgerLens

open Host Host.Prog Storage

/-! ### The sums -/

/-- A value for each bucket, with the count of the bucket. -/
def counted (value : Nat → Nat) (buckets : List Nat) : List (Nat × Nat) :=
  buckets.zipIdx.map fun entry => (entry.1, value entry.2)

def midpoints (buckets : List Nat) : List (Nat × Nat) := counted (fun i => i * 10 + 5) buckets

section Sums

variable {buckets : List Nat} {value : Nat → Nat} {bound : Nat}

theorem totalWeight_counted : totalWeight (counted value buckets) = buckets.sum := by
  unfold totalWeight counted
  rw [List.map_map]
  exact congrArg List.sum (List.zipIdx_map_fst 0 buckets)

theorem weightedSum_counted : weightedSum (counted value buckets) =
    (buckets.zipIdx.map fun entry => entry.1 * value entry.2).sum := by
  unfold weightedSum counted
  rw [List.map_map]
  rfl

theorem mem_counted (le : ∀ i < buckets.length, value i ≤ bound) :
    ∀ entry ∈ counted value buckets, entry.2 ≤ bound := by
  intro entry listed
  obtain ⟨found, isFound, rfl⟩ := List.mem_map.mp listed
  exact le found.2 (by simpa using List.snd_lt_of_mem_zipIdx isFound)

theorem midpoint_between (ten : buckets.length = 10) :
    ∀ entry ∈ midpoints buckets, 5 ≤ entry.2 ∧ entry.2 ≤ 95 := by
  intro entry listed
  refine ⟨?_, mem_counted (by omega) entry listed⟩
  obtain ⟨found, _, rfl⟩ := List.mem_map.mp listed
  exact Nat.le_add_left ..

theorem squared_midpoints :
    squared (midpoints buckets) = counted (fun i => (i * 10 + 5) * (i * 10 + 5)) buckets := by
  unfold squared midpoints counted
  rw [List.map_map]
  rfl

/-- Saturating sums that do not saturate. -/
theorem foldl_satAdd64 {α : Type} (f : α → Nat) (xs : List α) (start : Nat)
    (fits : start + (xs.map f).sum < u64Bound) :
    xs.foldl (fun sum x => satAdd64 sum (f x)) start = start + (xs.map f).sum := by
  induction xs generalizing start with
  | nil => rfl
  | cons x xs ih =>
    rw [List.map_cons, List.sum_cons] at fits ⊢
    have added : satAdd64 start (f x) = start + f x := Nat.min_eq_left (by omega)
    rw [List.foldl_cons, added, ih _ (by omega), Nat.add_assoc]

theorem foldl_satAdd64_total (small : buckets.sum < 2 ^ 50) :
    buckets.foldl satAdd64 0 = buckets.sum := by
  have added := foldl_satAdd64 id buckets 0 (by rw [List.map_id]; unfold u64Bound; omega)
  rwa [List.map_id, Nat.zero_add] at added

/-- A sum of the counts, each times something small, does not saturate. -/
theorem foldl_counted (value : Nat → Nat) (bound : Nat)
    (le : ∀ i < buckets.length, value i ≤ bound) (fits : bound * buckets.sum < u64Bound) :
    buckets.zipIdx.foldl (fun sum entry => satAdd64 sum (satMul64 (value entry.2) entry.1)) 0 =
      weightedSum (counted value buckets) := by
  have sumLe := weightedSum_le (mem_counted le)
  rw [totalWeight_counted, weightedSum_counted] at sumLe
  have terms : (buckets.zipIdx.map fun entry => satMul64 (value entry.2) entry.1) =
      buckets.zipIdx.map fun entry => entry.1 * value entry.2 := by
    refine List.map_congr_left fun entry found => ?_
    have inSum := List.single_le_sum (fun _ _ => Nat.zero_le _) _
      (List.mem_map_of_mem (f := fun entry : Nat × Nat => entry.1 * value entry.2) found)
    rw [satMul64, Nat.mul_comm]
    exact Nat.min_eq_left (by omega)
  rw [foldl_satAdd64, terms, Nat.zero_add, weightedSum_counted]
  rw [terms]
  omega

end Sums

/-! ### The spread -/

/-- A number of thousandths this near to a variance, in units of 2500. -/
theorem units_near {e q : Nat} {variance : ℚ} (nonneg : 0 ≤ variance) (bounded : variance ≤ 2025)
    (below : 1000 * variance - 1 < (e : ℚ) - q) (above : (e : ℚ) - q < 1000 * variance + 191) :
    min ((e - q) / 2500) 1000 ≤ 810 ∧ ⌊variance / (5 / 2)⌋₊ ≤ min ((e - q) / 2500) 1000 ∧
      min ((e - q) / 2500) 1000 ≤ ⌊variance / (5 / 2)⌋₊ + 1 := by
  have floorLe := Nat.floor_le (a := variance / (5 / 2)) (by positivity)
  have ltFloor := Nat.lt_floor_add_one (variance / (5 / 2))
  generalize ⌊variance / (5 / 2)⌋₊ = f at floorLe ltFloor ⊢
  have lower : 2500 * f + q < e + 1 := by
    have : ((2500 * f + q : Nat) : ℚ) < (e + 1 : Nat) := by
      push_cast
      linarith
    exact_mod_cast this
  have upper : e < 2500 * f + 2691 + q := by
    have : (e : ℚ) < (2500 * f + 2691 + q : Nat) := by
      push_cast
      linarith
    exact_mod_cast this
  have most : e < 2025191 + q := by
    have : (e : ℚ) < (2025191 + q : Nat) := by
      push_cast
      linarith
    exact_mod_cast this
  omega

section Spread

variable {buckets : List Nat} (ten : buckets.length = 10) (small : buckets.sum < 2 ^ 50)

include ten small

/-- The exact moments, in thousandths and rounded down. -/
theorem globalVariance_eq (positive : 0 < buckets.sum) :
    globalVariance buckets =
      min ((weightedSum (squared (midpoints buckets)) * 1000 / totalWeight (midpoints buckets) -
        weightedSum (midpoints buckets) * 1000 / totalWeight (midpoints buckets) *
          (weightedSum (midpoints buckets) * 1000 / totalWeight (midpoints buckets)) / 1000) /
            2500) 1000 := by
  have total := foldl_satAdd64_total small
  have sum : buckets.zipIdx.foldl
      (fun sum entry => satAdd64 sum (satMul64 (entry.2 * 10 + 5) entry.1)) 0 =
        weightedSum (midpoints buckets) :=
    foldl_counted (fun i => i * 10 + 5) 95 (by omega) (by unfold u64Bound; omega)
  have moment : buckets.zipIdx.foldl (fun sum entry => satAdd64 sum
      (satMul64 (satMul64 (entry.2 * 10 + 5) (entry.2 * 10 + 5)) entry.1)) 0 =
        weightedSum (squared (midpoints buckets)) := by
    have squares : counted (fun i => satMul64 (i * 10 + 5) (i * 10 + 5)) buckets =
        squared (midpoints buckets) := by
      rw [squared_midpoints]
      refine List.map_congr_left fun entry found => ?_
      have := List.snd_lt_of_mem_zipIdx found
      have square := Nat.mul_self_le_mul_self (m := entry.2 * 10 + 5) (n := 95) (by omega)
      exact congrArg (Prod.mk entry.1) (Nat.min_eq_left (by unfold u64Bound; omega))
    rw [← squares]
    refine foldl_counted (fun i => satMul64 (i * 10 + 5) (i * 10 + 5)) (95 * 95)
      (fun i inside => ?_) (by unfold u64Bound; omega)
    exact (Nat.min_le_left ..).trans (Nat.mul_self_le_mul_self (by omega))
  have isTotal : totalWeight (midpoints buckets) = buckets.sum := totalWeight_counted
  unfold globalVariance
  rw [total, sum, moment, isTotal]
  exact if_neg positive.ne'

theorem globalVariance_near :
    globalVariance buckets ≤ 810 ∧
      ⌊exactVariance (midpoints buckets) / (5 / 2)⌋₊ ≤ globalVariance buckets ∧
      globalVariance buckets ≤ ⌊exactVariance (midpoints buckets) / (5 / 2)⌋₊ + 1 := by
  have nonneg := exactVariance_nonneg (midpoints buckets)
  have isTotal : totalWeight (midpoints buckets) = buckets.sum := totalWeight_counted
  rcases Nat.eq_zero_or_pos buckets.sum with zero | positive
  · have none : globalVariance buckets = 0 := by
      have total : buckets.foldl satAdd64 0 = 0 := by rw [foldl_satAdd64_total small, zero]
      unfold globalVariance
      rw [total]
      exact if_pos rfl
    have flat : exactVariance (midpoints buckets) = 0 := by
      unfold exactVariance
      rw [isTotal, zero, Nat.cast_zero, div_zero]
    rw [none, flat, zero_div, Nat.floor_zero]
    exact ⟨Nat.zero_le _, le_rfl, Nat.zero_le _⟩
  · rw [← isTotal] at positive
    have between := midpoint_between ten
    have low := le_exactMean positive fun entry listed => (between entry listed).1
    have high := exactMean_le positive fun entry listed => (between entry listed).2
    have bounded := exactVariance_le positive between
    obtain ⟨below, above⟩ := rounded_variance positive (by push_cast at low; linarith)
    rw [isTotal] at positive
    rw [globalVariance_eq ten small positive]
    refine units_near nonneg (bounded.trans (by norm_num)) below (above.trans_le ?_)
    push_cast at high
    linarith

omit ten small in
theorem stretchCooldown_between {k v base : Nat} (most : v ≤ 810) (inside : base < u64Bound) :
    base ≤ stretchCooldown k v base ∧ stretchCooldown k v base ≤ base *
      (1000 + 810 * k) / 1000 := by
  unfold stretchCooldown satMul128
  constructor
  · refine le_min ((Nat.le_div_iff_mul_le (by decide)).mpr (le_min ?_ ?_)) (by omega)
    · exact Nat.mul_le_mul_left base (Nat.le_add_right ..)
    · unfold u64Bound at inside
      omega
  · refine (Nat.min_le_left ..).trans (Nat.div_le_div_right ((Nat.min_le_left ..).trans ?_))
    refine Nat.mul_le_mul_left base (Nat.add_le_add_left ?_ 1000)
    rw [Nat.mul_comm k]
    exact Nat.mul_le_mul_right k most

/-- What is computed for a histogram in a state, and what it makes of a cooldown there. -/
theorem spread_and_cooldown (env : ContractEnv) (w : State)
    (isHistogram : (w.ledger.entry .inst .scoreHistogram).getD (List.replicate 10 0) = buckets) :
    (∃ v, computeGlobalVariance env w = .ok v w ∧ v ≤ 810 ∧
        ⌊exactVariance (midpoints buckets) / (5 / 2)⌋₊ ≤ v ∧
        v ≤ ⌊exactVariance (midpoints buckets) / (5 / 2)⌋₊ + 1) ∧
      ∀ base < u64Bound, ∃ c, computeEffectiveCooldown base env w = .ok c w ∧ base ≤ c ∧
        c ≤ base * (1000 + 810 *
          ((w.ledger.entry .inst .adaptiveRateLimit).getD ⟨false, 0⟩).varianceScale) / 1000 := by
  obtain ⟨most, least, next⟩ := globalVariance_near ten small
  have computed : computeGlobalVariance env w = .ok (globalVariance buckets) w := by
    rw [← isHistogram]
    rfl
  refine ⟨⟨_, computed, most, least, next⟩, fun base inside => ?_⟩
  generalize isConfig : (w.ledger.entry .inst .adaptiveRateLimit).getD ⟨false, 0⟩ = config
  have read : getAdaptiveRateLimit env w = .ok config w := by
    rw [← isConfig]
    rfl
  rw [computeEffectiveCooldown, run_bind_of_ok read]
  split
  · refine ⟨base, rfl, le_rfl, ?_⟩
    rw [Nat.le_div_iff_mul_le (by decide)]
    exact Nat.mul_le_mul_left base (Nat.le_add_right ..)
  · rw [run_bind_of_ok computed]
    exact ⟨_, rfl, stretchCooldown_between most inside⟩

end Spread

/-- Three scores at either end, and cooldowns stretched twice as much as the spread. -/
def apart : State :=
  { blank with
    ledger := (Ledger.empty.put .inst .adaptiveRateLimit (some ⟨true, 2⟩)).put .inst .scoreHistogram
      (some [3, 0, 0, 0, 0, 0, 0, 0, 0, 3]) }

theorem spread_and_cooldown_apart :
    (∃ v, computeGlobalVariance (sampleEnv []) apart = .ok v apart ∧ v ≤ 810) ∧
      ∃ c, computeEffectiveCooldown 100 (sampleEnv []) apart = .ok c apart ∧ 100 ≤ c ∧ c ≤ 262 := by
  obtain ⟨⟨v, computed, most, _⟩, stretched⟩ := spread_and_cooldown
    rfl (by decide) (sampleEnv []) apart rfl
  exact ⟨⟨v, computed, most⟩, stretched 100 (by decide)⟩

end LedgerLens
