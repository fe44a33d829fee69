import LedgerLens.Entry.Views
import LedgerLens.System.Gate
import Mathlib.Tactic.IntervalCases
import Mathlib.Tactic.LinearCombination
import Mathlib.Tactic.Ring

/-!
The decay of a score with its age. The factor is a polynomial of degree four, each of whose
terms is rounded down by itself: it falls as it should only for small arguments, and from 2.8
on it is back at one. The main result is `decay_falls_iff_flatAgesFall`.
-/

namespace LedgerLens

open Host Host.Prog Storage

abbrev decayRate (w : State) : Nat × Nat := (w.ledger.entry .inst .decayRate).getD (0, 1)

/-- Transactions outside whose footprints an entry lies leave it alone. -/
theorem run_entry_of_untouched {w : State} {txs : List (Tx External Call)} (d : Durability)
    {k : DataKey} (untouched : ∀ tx ∈ txs, placeTag (.entry k) ∉ footprint tx.call) :
    (run exec w txs).ledger.entry d k = w.ledger.entry d k := by
  induction txs generalizing w with
  | nil => rfl
  | cons tx rest ih =>
    rw [run_cons, ih fun other listed => untouched other (.tail _ listed)]
    exact invoke_entry (exec_keeps tx.call) tx.env w d (untouched tx List.mem_cons_self)

/-! ### The series -/

/-- The even and the odd terms of the series after the first two. -/
def evenTerms (x : Nat) : Nat :=
  x ^ 2 / (2 * decayFixedPointScale) + x ^ 4 / (24 * decayFixedPointScale ^ 3)

def oddTerm (x : Nat) : Nat := x ^ 3 / (6 * decayFixedPointScale ^ 2)

/-- The factor at an argument below five. -/
def decayFactor (x : Nat) : Nat := min (decayFixedPointScale + evenTerms x - (x + oddTerm x))
  decayFixedPointScale

/-- The argument of the series at an age. -/
def argument (num den age : Nat) : Nat := num * age * decayFixedPointScale / den

/-- At this age the product does not overflow and the argument is below five. -/
abbrev Alive (num den age : Nat) : Prop :=
  ¬ (u64Bound ≤ num * age * decayFixedPointScale ∨
    5 * decayFixedPointScale ≤ argument num den age)

/-- The factor is that of the argument, as long as there is one. -/
theorem decayFixed_eq {num den : Nat} (age : Nat) (decays : num ≠ 0) (positive : 1 ≤ den) :
    decayFixed age num den =
      if Alive num den age then decayFactor (argument num den age) else 0 := by
  have divides : den ≠ 0 := by omega
  unfold Alive
  rw [ite_not]
  unfold decayFixed argument
  rw [if_neg decays]
  simp only [divides, false_or]
  by_cases overflows : u64Bound ≤ num * age * decayFixedPointScale
  · rw [if_pos overflows, if_pos (.inl overflows)]
  · rw [if_neg overflows]
    by_cases late : 5 * decayFixedPointScale ≤ num * age * decayFixedPointScale / den
    · rw [if_pos late, if_pos (.inr late)]
    · rw [if_neg late, if_neg (not_or.mpr ⟨overflows, late⟩)]
      generalize num * age * decayFixedPointScale / den = x
      have square : (x : Int) * x / (2 * decayFixedPointScale) =
          ((x ^ 2 / (2 * decayFixedPointScale) : Nat) : Int) := by
        push_cast
        rw [sq]
      have cube : (x : Int) * x * x / (6 * decayFixedPointScale * decayFixedPointScale) =
          ((oddTerm x : Nat) : Int) := by
        unfold oddTerm
        push_cast
        ring_nf
      have fourth : (x : Int) * x * x * x /
          (24 * decayFixedPointScale * decayFixedPointScale * decayFixedPointScale) =
            ((x ^ 4 / (24 * decayFixedPointScale ^ 3) : Nat) : Int) := by
        push_cast
        ring_nf
      rw [square, cube, fourth]
      unfold decayFactor evenTerms
      split <;> [skip; split] <;> omega

/-! #### Where it falls -/

/-- Below this argument no rounding lifts the factor. -/
abbrev firstRise : Nat := 98985

theorem div_pow_eq {x c d n q : Nat} (above : q * d ≤ c ^ n) (le : c ≤ x)
    (below : x ^ n < (q + 1) * d) : x ^ n / d = q :=
  Nat.div_eq_of_lt_le (above.trans (Nat.pow_le_pow_left le n)) below

/-- The fourth power gains a unit at three arguments before the first rise. -/
theorem fourth_step {x : Nat} (small : x + 1 < firstRise) :
    (x + 1) ^ 4 / (24 * decayFixedPointScale ^ 3) = x ^ 4 / (24 * decayFixedPointScale ^ 3) ∨
      x = 69992 ∨ x = 83235 ∨ x = 92115 := by
  have power (c : Nat) (le : x + 1 ≤ c) : (x + 1) ^ 4 ≤ c ^ 4 := Nat.pow_le_pow_left le 4
  have grows : x ^ 4 ≤ (x + 1) ^ 4 := Nat.pow_le_pow_left (Nat.le_succ x) 4
  -- between two of the arguments both quotients are the same number
  have settled (q low high : Nat) (least : q * (24 * decayFixedPointScale ^ 3) ≤ low ^ 4)
      (most : high ^ 4 < (q + 1) * (24 * decayFixedPointScale ^ 3)) (above : low ≤ x)
      (below : x + 1 ≤ high) :
      (x + 1) ^ 4 / (24 * decayFixedPointScale ^ 3) = x ^ 4 / (24 * decayFixedPointScale ^ 3) := by
    have under := (power high below).trans_lt most
    rw [div_pow_eq least (above.trans (Nat.le_succ x)) under,
      div_pow_eq least above (grows.trans_lt under)]
  unfold firstRise at small
  rcases Nat.lt_or_ge x 69992 with lower | upper
  · exact .inl (settled 0 0 69992 (by decide) (by decide) (Nat.zero_le x) lower)
  · rcases Nat.lt_or_ge x 83235 with lower | upper
    · rcases eq_or_lt_of_le upper with same | above
      · exact .inr (.inl same.symm)
      · exact .inl (settled 1 69993 83235 (by decide) (by decide) above lower)
    · rcases Nat.lt_or_ge x 92115 with lower | upper
      · rcases eq_or_lt_of_le upper with same | above
        · exact .inr (.inr (.inl same.symm))
        · exact .inl (settled 2 83236 92115 (by decide) (by decide) above lower)
      · rcases eq_or_lt_of_le upper with same | above
        · exact .inr (.inr (.inr same.symm))
        · exact .inl (settled 3 92116 98984 (by decide) (by decide) above (by omega))

theorem square_step {x : Nat} (small : x < decayFixedPointScale) :
    (x + 1) ^ 2 / (2 * decayFixedPointScale) ≤ x ^ 2 / (2 * decayFixedPointScale) + 1 := by
  have gained : (x + 1) ^ 2 ≤ x ^ 2 + 1 * (2 * decayFixedPointScale) := by
    unfold decayFixedPointScale at small ⊢
    nlinarith
  calc (x + 1) ^ 2 / (2 * decayFixedPointScale)
      ≤ (x ^ 2 + 1 * (2 * decayFixedPointScale)) / (2 * decayFixedPointScale) :=
        Nat.div_le_div_right gained
    _ = x ^ 2 / (2 * decayFixedPointScale) + 1 := Nat.add_mul_div_right _ _ (by decide)

theorem oddTerm_mono {x y : Nat} (le : x ≤ y) : oddTerm x ≤ oddTerm y :=
  Nat.div_le_div_right (Nat.pow_le_pow_left le 3)

theorem decayFactor_step {x : Nat} (small : x + 1 < firstRise) :
    decayFactor (x + 1) ≤ decayFactor x := by
  rcases fourth_step small with same | rfl | rfl | rfl
  · have square := square_step (show x < decayFixedPointScale by
      unfold firstRise at small
      unfold decayFixedPointScale
      omega)
    have odd : oddTerm x ≤ oddTerm (x + 1) := oddTerm_mono (Nat.le_succ x)
    refine min_le_min_right _ ?_
    unfold evenTerms
    rw [same]
    omega
  · decide
  · decide
  · decide

theorem decayFactor_antitone {x y : Nat} (le : x ≤ y) (small : y < firstRise) :
    decayFactor y ≤ decayFactor x := by
  induction y, le using Nat.le_induction with
  | base => exact le_rfl
  | succ y _ ih => exact (decayFactor_step small).trans (ih ((Nat.lt_succ_self y).trans small))

/-- Six times the slope of the series at an argument, downwards. -/
def slope (x : Nat) : Int :=
  6 * decayFixedPointScale ^ 3 - 6 * decayFixedPointScale ^ 2 * x + 3 * decayFixedPointScale * x ^ 2
    - x ^ 3

/-- Between the arguments the series falls by less than two units along its slope, so that
rounding may lift it. -/
def Flat (x y : Nat) : Prop := ((y : Int) - x) * slope y < 12 * decayFixedPointScale ^ 3

instance (x y : Nat) : Decidable (Flat x y) := inferInstanceAs (Decidable (_ < _))

theorem slope_antitone {x y : Nat} (le : x ≤ y) : slope y ≤ slope x := by
  have ordered : (0 : Int) ≤ y - x := by omega
  have curved : (0 : Int) ≤ 6 * decayFixedPointScale ^ 2 - 3 * decayFixedPointScale * (x + y) +
      (x ^ 2 + x * y + y ^ 2) := by
    nlinarith [sq_nonneg ((x : Int) - y), sq_nonneg ((x : Int) + y - 2 * decayFixedPointScale)]
  unfold slope
  nlinarith [mul_nonneg ordered curved]

/-- The series is convex: it lies above its tangents, so that where it is steep it falls by more
than the three roundings that lift it can make up for. -/
theorem decayFactor_le_of_steep {x y : Nat} (steep : ¬ Flat x y) :
    decayFactor y ≤ decayFactor x := by
  unfold Flat slope at steep
  have falls : evenTerms y + (x + oddTerm x) ≤ evenTerms x + (y + oddTerm y) := by
    have tangent : 0 ≤ ((x : Int) - y) ^ 2 * ((x + y - 2 * decayFixedPointScale) ^ 2 +
        2 * (y - decayFixedPointScale) ^ 2 + 6 * decayFixedPointScale ^ 2) := by positivity
    unfold evenTerms oddTerm
    unfold decayFixedPointScale at *
    have squareY := Nat.div_mul_le_self (y ^ 2) (2 * 1000000)
    have squareX := Nat.lt_div_mul_add (a := x ^ 2) (b := 2 * 1000000) (by decide)
    have cubeX := Nat.div_mul_le_self (x ^ 3) (6 * 1000000 ^ 2)
    have cubeY := Nat.lt_div_mul_add (a := y ^ 3) (b := 6 * 1000000 ^ 2) (by decide)
    have fourthY := Nat.div_mul_le_self (y ^ 4) (24 * 1000000 ^ 3)
    have fourthX := Nat.lt_div_mul_add (a := x ^ 4) (b := 24 * 1000000 ^ 3) (by decide)
    zify at *
    nlinarith
  unfold decayFactor
  exact min_le_min_right _ (by omega)

/-! #### Where it is below one, and where it is one again -/

theorem decayFactor_lt {x : Nat} (positive : 1 ≤ x) (le : x ≤ 2500000) :
    decayFactor x < decayFixedPointScale := by
  have falls : evenTerms x < x + oddTerm x := by
    unfold evenTerms oddTerm decayFixedPointScale
    rcases Nat.lt_or_ge x 8 with tiny | large
    · interval_cases x <;> decide
    · have square := Nat.div_mul_le_self (x ^ 2) (2 * 1000000)
      have cube := Nat.lt_div_mul_add (a := x ^ 3) (b := 6 * 1000000 ^ 2) (by decide)
      have fourth := Nat.div_mul_le_self (x ^ 4) (24 * 1000000 ^ 3)
      -- the series is a multiple of the argument by a factor of at least a seventh
      have poly : (x : Int) ^ 4 + 12 * 10 ^ 12 * x ^ 2 + 24 * 10 ^ 18 ≤
          24 * 10 ^ 18 * x + 4 * 10 ^ 6 * x ^ 3 := by
        have top : (0 : Int) ≤ 2500000 - x := by omega
        have bottom : (0 : Int) ≤ x - 8 := by omega
        have quadratic : (0 : Int) ≤ (2500000 - x - 1750000) ^ 2 + 7687500000000 := by positivity
        have slope : (3375 * 10 ^ 15 : Int) ≤
            24 * 10 ^ 18 - 12 * 10 ^ 12 * x + 4 * 10 ^ 6 * x ^ 2 - x ^ 3 := by
          nlinarith [mul_nonneg top quadratic]
        nlinarith [mul_nonneg bottom (sub_nonneg.mpr slope)]
      zify at square cube fourth ⊢
      nlinarith
  have scale : 0 < decayFixedPointScale := by decide
  unfold decayFactor
  exact (min_le_left _ _).trans_lt (by omega)

theorem decayFactor_eq {x : Nat} (le : 2800000 ≤ x) : decayFactor x = decayFixedPointScale := by
  have rises : x + oddTerm x ≤ evenTerms x := by
    unfold evenTerms oddTerm decayFixedPointScale
    have square := Nat.lt_div_mul_add (a := x ^ 2) (b := 2 * 1000000) (by decide)
    have cube := Nat.div_mul_le_self (x ^ 3) (6 * 1000000 ^ 2)
    have fourth := Nat.lt_div_mul_add (a := x ^ 4) (b := 24 * 1000000 ^ 3) (by decide)
    have poly : 24 * 10 ^ 18 * (x : Int) + 4 * 10 ^ 6 * x ^ 3 + 48 * 10 ^ 18 ≤
        x ^ 4 + 12 * 10 ^ 12 * x ^ 2 := by
      have bottom : (0 : Int) ≤ x - 2800000 := by omega
      have slope : (192 * 10 ^ 15 : Int) ≤
          x ^ 3 - 4 * 10 ^ 6 * x ^ 2 + 12 * 10 ^ 12 * x - 24 * 10 ^ 18 := by
        nlinarith [mul_nonneg bottom (sq_nonneg (x : Int)), mul_nonneg bottom bottom,
          mul_nonneg bottom (mul_nonneg bottom bottom)]
      nlinarith [mul_nonneg bottom (sub_nonneg.mpr slope)]
    zify at square cube fourth ⊢
    nlinarith
  unfold decayFactor
  exact min_eq_right (by omega)

/-! ### The rates -/

/-- The last argument before the product overflows. -/
def lastArgument (num den : Nat) : Nat :=
  num * ((u64Bound - 1) / (num * decayFixedPointScale)) * decayFixedPointScale / den

/-- A rate with which scores only fall: none, one that leaves a single age with a factor between
nothing and all, one whose arguments stay below the first rise, or one whose last argument is
where the series is still steep for steps as long as its own. -/
def SteadyRate (num den : Nat) : Prop :=
  num = 0 ∨ u64Bound ≤ num * 2 * decayFixedPointScale ∨ 5 * den ≤ 2 * num ∨
    lastArgument num den < firstRise ∨
    12 * decayFixedPointScale ^ 3 ≤
      ((num * decayFixedPointScale / den : Nat) : Int) * slope (lastArgument num den)

instance (num den : Nat) : Decidable (SteadyRate num den) := by
  unfold SteadyRate
  infer_instance

/-- The factor does not rise with the age, over the ages of a 64-bit clock. -/
def FallsWithAge (num den : Nat) : Prop :=
  ∀ a b, a ≤ b → b < u64Bound → decayFixed b num den ≤ decayFixed a num den

/-- Where rounding may lift it, past the first rise and between flat arguments, the factor does
not rise from one second to the next. -/
def FlatAgesFall (num den : Nat) : Prop :=
  ∀ age, Alive num den (age + 1) → firstRise ≤ argument num den (age + 1) →
    Flat (argument num den age) (argument num den (age + 1)) →
      decayFactor (argument num den (age + 1)) ≤ decayFactor (argument num den age)

section Rates

variable {num den : Nat}

theorem product_mono {a b : Nat} (le : a ≤ b) :
    num * a * decayFixedPointScale ≤ num * b * decayFixedPointScale :=
  Nat.mul_le_mul_right _ (Nat.mul_le_mul_left _ le)

theorem argument_mono {a b : Nat} (le : a ≤ b) : argument num den a ≤ argument num den b :=
  Nat.div_le_div_right (product_mono le)

theorem Alive.of_le {a b : Nat} (alive : Alive num den b) (le : a ≤ b) : Alive num den a := by
  rintro (overflows | late)
  · exact alive (.inl (overflows.trans (product_mono le)))
  · exact alive (.inr (late.trans (argument_mono le)))

theorem argument_le_last {age : Nat} (decays : num ≠ 0) (alive : Alive num den age) :
    argument num den age ≤ lastArgument num den := by
  have scale : 0 < num * decayFixedPointScale := Nat.mul_pos (by omega) (by decide)
  refine argument_mono ((Nat.le_div_iff_mul_le scale).mpr ?_)
  have same : age * (num * decayFixedPointScale) = num * age * decayFixedPointScale := by ring
  have fits := (not_or.mp alive).1
  rw [same]
  omega

/-- From one second to the next the argument grows by the whole part of the rate at least. -/
theorem argument_succ (age : Nat) :
    argument num den age + num * decayFixedPointScale / den ≤ argument num den (age + 1) := by
  have split : num * (age + 1) * decayFixedPointScale =
      num * age * decayFixedPointScale + num * decayFixedPointScale := by ring
  unfold argument
  rw [split]
  exact Nat.div_add_div_le_add_div ..

/-- The factor falls with the age exactly if it does so between the flat arguments. -/
theorem fallsWithAge_iff_flatAgesFall (positive : 1 ≤ den) :
    FallsWithAge num den ↔ FlatAgesFall num den := by
  by_cases none : num = 0
  · subst none
    have flat (age : Nat) : decayFixed age 0 den = decayFixedPointScale := if_pos rfl
    have zero (age : Nat) : argument 0 den age = 0 := by simp [argument]
    refine ⟨fun _ age _ late => ?_, fun _ a b _ _ => by rw [flat, flat]⟩
    rw [zero] at late
    exact absurd late (by decide)
  · constructor
    · intro falls age alive _ _
      have fits : age + 1 < u64Bound := by
        refine lt_of_le_of_lt ?_ (not_le.mp (not_or.mp alive).1)
        calc age + 1 ≤ num * (age + 1) := Nat.le_mul_of_pos_left _ (by omega)
          _ ≤ num * (age + 1) * decayFixedPointScale := Nat.le_mul_of_pos_right _ (by decide)
      have fell := falls age (age + 1) (Nat.le_succ age) fits
      rwa [decayFixed_eq _ none positive, decayFixed_eq _ none positive, if_pos alive,
        if_pos (alive.of_le (Nat.le_succ age))] at fell
    · intro fall
      have next (age : Nat) : decayFixed (age + 1) num den ≤ decayFixed age num den := by
        rw [decayFixed_eq _ none positive, decayFixed_eq _ none positive]
        by_cases alive : Alive num den (age + 1)
        · rw [if_pos alive, if_pos (alive.of_le (Nat.le_succ age))]
          by_cases early : argument num den (age + 1) < firstRise
          · exact decayFactor_antitone (argument_mono (Nat.le_succ age)) early
          · by_cases flat : Flat (argument num den age) (argument num den (age + 1))
            · exact fall age alive (not_lt.mp early) flat
            · exact decayFactor_le_of_steep flat
        · rw [if_neg alive]
          exact Nat.zero_le _
      intro a b le _
      exact antitone_nat_of_succ_le (f := fun age => decayFixed age num den) next le

theorem SteadyRate.flatAgesFall (positive : 1 ≤ den) (steady : SteadyRate num den) :
    FlatAgesFall num den := by
  intro age alive late flat
  have decays : num ≠ 0 := by
    rintro rfl
    simp [argument] at late
  -- with a single age alive, the factor falls from one
  have single (short : ¬ Alive num den 2) :
      decayFactor (argument num den (age + 1)) ≤ decayFactor (argument num den age) := by
    have first : age = 0 := by
      by_contra older
      exact short (alive.of_le (by omega))
    subst first
    have all : decayFactor (argument num den 0) = decayFixedPointScale := by
      simp [argument, decayFactor, evenTerms, oddTerm]
    rw [all]
    exact min_le_right ..
  rcases steady with zero | overflows | fast | within | steep
  · exact absurd zero decays
  · exact single fun alive => alive (.inl overflows)
  · refine single fun alive => alive (.inr ((Nat.le_div_iff_mul_le positive).mpr ?_))
    calc 5 * decayFixedPointScale * den = 5 * den * decayFixedPointScale := by ring
      _ ≤ 2 * num * decayFixedPointScale := Nat.mul_le_mul_right _ fast
      _ = num * 2 * decayFixedPointScale := by ring
  · exact absurd (late.trans (argument_le_last decays alive)) (not_le.mpr within)
  · -- the step before the last argument is no longer than the others, and less steep
    have steps := @argument_succ num den age
    have steeper := slope_antitone (argument_le_last decays alive)
    have step : ((num * decayFixedPointScale / den : Nat) : Int) ≤
        (argument num den (age + 1) : Int) - argument num den age := by omega
    have down : 0 ≤ slope (lastArgument num den) := by
      by_contra up
      have := mul_nonpos_of_nonneg_of_nonpos
        (Int.natCast_nonneg (num * decayFixedPointScale / den)) (not_le.mp up).le
      exact absurd (steep.trans this) (by decide)
    refine absurd flat (not_lt.mpr (steep.trans ?_))
    exact mul_le_mul step steeper down ((Int.natCast_nonneg _).trans step)

/-! #### Ages at given arguments -/

/-- Some multiple of a step lies in any window as long as the step. -/
theorem exists_multiple (low : Nat) {step : Nat} (positive : 0 < step) :
    ∃ n, low ≤ step * n ∧ step * n < low + step := by
  refine ⟨(low + step - 1) / step, ?_, ?_⟩
  · have above := Nat.lt_div_mul_add (a := low + step - 1) positive
    rw [mul_comm]
    omega
  · have below := Nat.div_mul_le_self (low + step - 1) step
    rw [mul_comm]
    omega

/-- An age whose argument lies in a window of at least a step. -/
theorem exists_age {low high : Nat} (decays : num ≠ 0) (positive : 1 ≤ den)
    (wide : low * den + num * decayFixedPointScale ≤ high * den) :
    ∃ age, low ≤ argument num den age ∧
      num * age * decayFixedPointScale < high * den := by
  have scale : 0 < num * decayFixedPointScale := Nat.mul_pos (by omega) (by decide)
  obtain ⟨age, above, below⟩ := exists_multiple (low * den) scale
  have same : num * decayFixedPointScale * age = num * age * decayFixedPointScale := by ring
  rw [same] at above below
  exact ⟨age, (Nat.le_div_iff_mul_le positive).mpr above, below.trans_le wide⟩

/-- A rate below 2.5 brings the factor below one at some age, and to one again at a later one. -/
theorem exists_rise (decays : num ≠ 0) (slow : 2 * num < 5 * den)
    (roomy : 5 * decayFixedPointScale * den ≤ u64Bound) :
    ∃ a b, a ≤ b ∧ b < u64Bound ∧ decayFixed a num den < decayFixedPointScale ∧
      decayFixed b num den = decayFixedPointScale := by
  have positive : 1 ≤ den := by omega
  have step : num * decayFixedPointScale < 2500000 * den := by
    unfold decayFixedPointScale
    omega
  obtain ⟨a, low, below⟩ : ∃ age, 1 ≤ argument num den age ∧
      num * age * decayFixedPointScale < 2500001 * den :=
    exists_age decays positive (by omega)
  obtain ⟨b, high, within⟩ : ∃ age, 2800000 ≤ argument num den age ∧
      num * age * decayFixedPointScale < 5000000 * den := by
    rcases Nat.lt_or_ge (2200000 * den) (num * decayFixedPointScale) with large | small
    -- the second multiple of a step that long lies in the window
    · have double : num * 2 * decayFixedPointScale = 2 * (num * decayFixedPointScale) := by ring
      refine ⟨2, (Nat.le_div_iff_mul_le positive).mpr ?_, ?_⟩
      · rw [double]
        linarith
      · rw [double]
        linarith
    · exact exists_age decays positive (by omega)
  have argumentA : argument num den a < 2500001 :=
    (Nat.div_lt_iff_lt_mul positive).mpr below
  have argumentB : argument num den b < 5 * decayFixedPointScale :=
    (Nat.div_lt_iff_lt_mul positive).mpr within
  have le : a ≤ b := by
    by_contra later
    have : argument num den b ≤ argument num den a :=
      argument_mono (Nat.le_of_not_le later)
    omega
  have fitsB : num * b * decayFixedPointScale < u64Bound := within.trans_le roomy
  have alive : Alive num den b := not_or.mpr ⟨not_le.mpr fitsB, not_le.mpr argumentB⟩
  refine ⟨a, b, le, ?_, ?_, ?_⟩
  · refine lt_of_le_of_lt ?_ fitsB
    calc b ≤ num * b := Nat.le_mul_of_pos_left b (by omega)
      _ ≤ num * b * decayFixedPointScale := Nat.le_mul_of_pos_right _ (by decide)
  · rw [decayFixed_eq a decays positive, if_pos (alive.of_le le)]
    exact decayFactor_lt low (by omega)
  · rw [decayFixed_eq b decays positive, if_pos alive]
    exact decayFactor_eq high

theorem fallsWithAge_iff (positive : 1 ≤ den)
    (roomy : 5 * decayFixedPointScale * den ≤ u64Bound) :
    FallsWithAge num den ↔ SteadyRate num den := by
  refine ⟨fun falls => ?_, fun steady =>
    (fallsWithAge_iff_flatAgesFall positive).mpr (steady.flatAgesFall positive)⟩
  by_contra unsteady
  have decays : num ≠ 0 := fun none => unsteady (.inl none)
  have slow : 2 * num < 5 * den := not_le.mp fun fast => unsteady (.inr (.inr (.inl fast)))
  obtain ⟨a, b, le, fits, less, all⟩ := exists_rise decays slow roomy
  have := falls a b le fits
  omega

end Rates

/-! ### Effective scores -/

section Effective

variable {env env' : ContractEnv} {w w' w₁ : State} {wallet : Address} {pair : Symbol}

theorem finalityDepth_outside (call : Call) : Tag.finalityDepth ∉ footprint call := by
  have of_free (free : (footprint call).contains .finalityDepth = false) :
      Tag.finalityDepth ∉ footprint call := by simpa using free
  rcases call with call | ⟨signers, call⟩ | call
  · exact of_free (by cases call <;> rfl)
  · exact of_free (by cases call <;> rfl)
  · exact of_free (by cases call <;> rfl)

/-- No call sets a finality depth. -/
theorem finalityDepth_run (balances : Balances) (txs : List (Tx External Call)) :
    ((run exec (genesis balances) txs).ledger.entry .inst .finalityDepth).getD 0 = 0 := by
  have kept : (run exec (genesis balances) txs).ledger.entry .inst .finalityDepth =
      (genesis balances).ledger.entry .inst .finalityDepth :=
    run_entry_of_untouched .inst fun tx _ => finalityDepth_outside tx.call
  rw [kept]
  rfl

/-- An effective score that is returned is the near score after decay. -/
theorem getEffectiveScore_ok (final : (w.ledger.entry .inst .finalityDepth).getD 0 = 0)
    {effective : EffectiveRiskScore}
    (ran : getEffectiveScore wallet pair env w = .ok effective w₁) :
    ∃ score, nearScore w wallet pair = some score ∧
      effective.effectiveScore = decayedScore env w score := by
  unfold getEffectiveScore at ran
  rw [readNear_run] at ran
  split at ran
  · cases ran
  · cases near : nearScore w wallet pair with
    | none =>
      rw [near] at ran
      cases ran
    | some score =>
      refine ⟨score, rfl, ?_⟩
      rw [near, Option.elim_some] at ran
      have confirmed : confirmedScore wallet pair score env w = .ok score w := by
        simp [confirmedScore, ok_iff_wp, final]
      rw [run_bind_of_ok confirmed] at ran
      have told : (now : M Nat) env w = .ok env.timestamp w := rfl
      have read : getDecayRate env w = .ok (decayRate w) w := rfl
      rw [run_bind_of_ok told, run_bind_of_ok read] at ran
      unfold decayedScore
      dsimp only
      split at ran
      · next decays =>
        obtain ⟨scaled, w₂, checked, ran⟩ := bind_ok.mp ran
        obtain ⟨_, w₃, same, ran⟩ := bind_ok.mp ran
        obtain ⟨rfl, rfl⟩ := pure_ok.mp same
        obtain ⟨floor, w₄, _, ran⟩ := bind_ok.mp ran
        obtain ⟨rfl, rfl⟩ := pure_ok.mp ran
        unfold checkedOr at checked
        split at checked
        · obtain ⟨rfl, rfl⟩ := pure_ok.mp checked
          rw [if_pos decays]
        · cases checked
      · next still =>
        obtain ⟨_, w₂, same, ran⟩ := bind_ok.mp ran
        obtain ⟨rfl, rfl⟩ := pure_ok.mp same
        obtain ⟨floor, w₃, _, ran⟩ := bind_ok.mp ran
        obtain ⟨rfl, rfl⟩ := pure_ok.mp ran
        rw [if_neg still]

theorem decayedScore_eq {score : RiskScore} (fits : score.score < u32Bound) :
    decayedScore env w score = score.score * decayFixed (env.timestamp - score.timestamp)
      (decayRate w).1 (decayRate w).2 / decayFixedPointScale := by
  have factor := decayFixed_le (env.timestamp - score.timestamp) (decayRate w).1 (decayRate w).2
  have small : score.score * decayFixed (env.timestamp - score.timestamp) (decayRate w).1
      (decayRate w).2 / decayFixedPointScale ≤ score.score :=
    Nat.div_le_of_le_mul (by
      rw [mul_comm decayFixedPointScale]
      exact Nat.mul_le_mul_left _ factor)
  unfold decayedScore
  dsimp only
  split
  · exact Nat.mod_eq_of_lt (small.trans_lt fits)
  · next still =>
    have none : (decayRate w).1 = 0 := not_not.mp still
    have flat : decayFixed (env.timestamp - score.timestamp) (decayRate w).1 (decayRate w).2 =
        decayFixedPointScale := if_pos none
    rw [flat, Nat.mul_div_cancel _ (by decide)]

/-- With a rate under which the factor falls, so does the score. -/
theorem decayedScore_le {score : RiskScore} (fits : score.score < u32Bound)
    (falls : FallsWithAge (decayRate w).1 (decayRate w).2) (rate : decayRate w' = decayRate w)
    (later : env.timestamp ≤ env'.timestamp) :
    decayedScore env' w' score ≤ decayedScore env w score := by
  have factor := falls (env.timestamp - score.timestamp) (env'.timestamp - score.timestamp)
    (Nat.sub_le_sub_right later _) ((Nat.sub_le _ _).trans_lt env'.timestamp_lt)
  rw [decayedScore_eq fits, decayedScore_eq fits, rate]
  exact Nat.div_le_div_right (Nat.mul_le_mul_left _ factor)

/-- Where the factor comes back to one, so does every score. -/
theorem decayedScore_lt {score : RiskScore} (fits : score.score < u32Bound)
    (positive : 1 ≤ score.score) {a b : Nat}
    (less : decayFixed a (decayRate w).1 (decayRate w).2 < decayFixedPointScale)
    (all : decayFixed b (decayRate w).1 (decayRate w).2 = decayFixedPointScale)
    (atA : env.timestamp = score.timestamp + a) (atB : env'.timestamp = score.timestamp + b) :
    decayedScore env w score < decayedScore env' w score := by
  rw [decayedScore_eq fits, decayedScore_eq fits, atA, atB, Nat.add_sub_cancel_left,
    Nat.add_sub_cancel_left, all, Nat.mul_div_cancel _ (by decide)]
  exact (Nat.div_lt_iff_lt_mul (by decide)).mpr (Nat.mul_lt_mul_of_pos_left less positive)

end Effective

/-- A score of 50 under a rate of one per hour. -/
def decaying : State :=
  run exec deployed
    [⟨sampleEnv [account 2], .user (.submitScore []
        { sampleSubmission (account 3) 50 with timestamp := 1000000 } none)⟩,
     soleSample (.setDecayRate 1 3600)]

/-- The sample environment some seconds later. -/
def later (secs : Nat) (fits : 1000000 + secs < u64Bound) : ContractEnv :=
  { sampleEnv [] with timestamp := 1000000 + secs, timestamp_lt := fits }

end LedgerLens
