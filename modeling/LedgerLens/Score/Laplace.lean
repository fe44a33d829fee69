import LedgerLens.Encoding
import LedgerLens.Host.Sha256
import Mathlib.Algebra.Order.Ring.Int

/-!
The noise that is added to an aggregate. Its magnitude is a fixed-point logarithm of a random
word; where the word is so small that the logarithm is a sentinel, the product with the scale
does not fit. The main result is `laplaceNoise_bounded_iff`.
-/

namespace LedgerLens

open Host

abbrev fpScale : Nat := 2 ^ 31

abbrev ln2Fp : Nat := 1488522236

/-- `none` is an overflow, which stops the contract. -/
def u64CheckedMul (a b : Nat) : Option Nat := if a * b < u64Bound then some (a * b) else none

def u64CheckedSub (a b : Nat) : Option Nat := if b ≤ a then some (a - b) else none

/-! ### The logarithm -/

/-- The rounds that are left, the last term and the sum so far. -/
def taylorRounds (uFp scale : Nat) : List Nat → Nat → Nat → Nat
  | [], _, result => result
  | k :: ks, term, result =>
    let next := satMul64 (satMul64 term uFp / scale) (k - 1) / k
    let result := satAdd64 result next
    if next = 0 then result else taylorRounds uFp scale ks next result

def taylorNegLn1mU (uFp scale : Nat) : Nat :=
  if uFp = 0 then 0 else taylorRounds uFp scale (List.range' 2 9) uFp uFp

/-- Double `v` until it is above half the scale. The loop is entered with `v` positive. -/
def rangeReduce (scale v k : Nat) : Nat × Nat :=
  if 0 < v ∧ v ≤ scale / 2 then rangeReduce scale (2 * v) (k + 1) else (v, k)
termination_by scale - v

def negLnFp (vFp scale : Nat) : Option Nat :=
  if vFp = 0 then some (u64Bound - 1)
  else do
    let (v, k) := rangeReduce scale vFp 0
    let uFp ← u64CheckedSub scale v
    return satAdd64 (satMul64 k ln2Fp) (taylorNegLn1mU uFp scale)

/-! ### The noise -/

/-- The word the noise is made from. -/
def noiseWord (hash : Bytes → BytesN 32) (ledgerSeq seed sensitivity epsilonScaled : Nat) : Nat :=
  ofBeBytes ((hash (toBeBytes 4 ledgerSeq ++ toBeBytes 4 seed ++ toBeBytes 4 sensitivity ++
    toBeBytes 4 epsilonScaled ++ [0x44, 0x50, 0x52, 0x4e])).1.take 8)

def laplaceNoise (hash : Bytes → BytesN 32) (ledgerSeq seed sensitivity epsilonScaled : Nat) :
    Option Int :=
  if epsilonScaled = 0 then some 0
  else
    let r := noiseWord hash ledgerSeq seed sensitivity epsilonScaled
    let b := sensitivity * 100 / epsilonScaled
    if b = 0 then some 0
    else if r / 2 = 0 then some 0
    else do
      let lnTermFp ← negLnFp (r / 2 / 2 ^ 32) fpScale
      let product ← u64CheckedMul b lnTermFp
      let noiseMag := min (product / fpScale) (3 * b)
      return (if r % 2 = 0 then 1 else -1) * (noiseMag : Int)

/-! ### Bounds -/

section Bounds

variable {scale : Nat}

/-- Doubling ends between half the scale and the scale, and counts itself. -/
theorem rangeReduce_spec {v : Nat} (k : Nat) (positive : 0 < v) (small : v ≤ scale) :
    ∃ doublings, rangeReduce scale v k = (v * 2 ^ doublings, k + doublings) ∧
      v * 2 ^ doublings ≤ scale := by
  induction v, k using rangeReduce.induct scale with
  | case1 v k half ih =>
    obtain ⟨doublings, reduced, below⟩ := ih (by omega) (by omega)
    have doubled : 2 * v * 2 ^ doublings = v * 2 ^ (doublings + 1) := by
      rw [Nat.pow_succ']
      ac_rfl
    refine ⟨doublings + 1, ?_, doubled ▸ below⟩
    rw [rangeReduce, if_pos half, reduced, doubled]
    exact Prod.ext rfl (by dsimp only; omega)
  | case2 v k high =>
    exact ⟨0, by rw [rangeReduce, if_neg high]; simp, by simpa using small⟩

/-- No term of the series is above the one before. -/
theorem taylorRounds_le {uFp : Nat} (small : uFp ≤ scale) (ks : List Nat) (term result : Nat) :
    taylorRounds uFp scale ks term result ≤ result + ks.length * term := by
  induction ks generalizing term result with
  | nil => simp [taylorRounds]
  | cons k ks ih =>
    have falls : satMul64 (satMul64 term uFp / scale) (k - 1) / k ≤ term := by
      have scaled : satMul64 term uFp / scale ≤ term :=
        Nat.div_le_of_le_mul ((Nat.min_le_left _ _).trans
          ((Nat.mul_le_mul_left term small).trans (Nat.mul_comm term scale).le))
      refine Nat.div_le_of_le_mul ((Nat.min_le_left _ _).trans ?_)
      exact (Nat.mul_le_mul scaled (Nat.sub_le k 1)).trans (Nat.mul_comm term k).le
    have sum := Nat.min_le_left
      (result + satMul64 (satMul64 term uFp / scale) (k - 1) / k) (u64Bound - 1)
    rw [List.length_cons, Nat.succ_mul]
    dsimp only [taylorRounds, satAdd64]
    split
    · omega
    · have later := (ih _ _).trans (Nat.add_le_add sum (Nat.mul_le_mul_left ks.length falls))
      omega

theorem taylorNegLn1mU_le {uFp : Nat} (small : uFp ≤ scale) :
    taylorNegLn1mU uFp scale ≤ 10 * scale := by
  rw [taylorNegLn1mU]
  split
  · exact Nat.zero_le _
  · have bound := taylorRounds_le small (List.range' 2 9) uFp uFp
    rw [List.length_range'] at bound
    omega

/-- Away from zero the logarithm is far from the sentinel. -/
theorem negLnFp_le {vFp : Nat} (positive : 0 < vFp) (small : vFp ≤ fpScale) :
    ∃ ln, negLnFp vFp fpScale = some ln ∧ ln ≤ 31 * ln2Fp + 10 * fpScale := by
  obtain ⟨doublings, reduced, below⟩ := rangeReduce_spec 0 positive small
  have few : doublings ≤ 31 := by
    have : 2 ^ doublings ≤ 2 ^ 31 := (Nat.le_mul_of_pos_left _ positive).trans below
    exact (Nat.pow_le_pow_iff_right (by decide)).mp this
  have series := taylorNegLn1mU_le (Nat.sub_le fpScale (vFp * 2 ^ doublings))
  rw [negLnFp, if_neg positive.ne', reduced]
  simp only [Nat.zero_add, u64CheckedSub, if_pos below, Option.bind_eq_bind, Option.bind_some]
  refine ⟨_, rfl, (Nat.min_le_left _ _).trans
    (Nat.add_le_add ((Nat.min_le_left _ _).trans ?_) series)⟩
  exact Nat.mul_le_mul_right ln2Fp few

end Bounds

theorem noiseWord_lt (hash : Bytes → BytesN 32)
    (ledgerSeq seed sensitivity epsilonScaled : Nat) :
    noiseWord hash ledgerSeq seed sensitivity epsilonScaled < 2 ^ 64 := by
  have fits (bytes : Bytes) : ofBeBytes bytes < 256 ^ bytes.length := by
    have read := ofBeBytes_toBeBytes bytes.length (ofBeBytes bytes)
    rw [toBeBytes_ofBeBytes] at read
    exact read ▸ Nat.mod_lt _ (Nat.pow_pos (by decide))
  exact Nat.lt_of_lt_of_le (fits _)
    (Nat.pow_le_pow_right (by decide) (List.length_take_le 8 _) : _ ≤ 256 ^ 8)

/-- The noise of a word that is not too small, or with the least scale. -/
theorem laplaceNoise_eq {hash : Bytes → BytesN 32}
    {ledgerSeq seed sensitivity epsilonScaled : Nat} (positive : 1 ≤ epsilonScaled)
    (scaled : sensitivity * 100 / epsilonScaled ≠ 0)
    (drawn : noiseWord hash ledgerSeq seed sensitivity epsilonScaled / 2 ≠ 0) :
    laplaceNoise hash ledgerSeq seed sensitivity epsilonScaled =
      ((negLnFp (noiseWord hash ledgerSeq seed sensitivity epsilonScaled / 2 / 2 ^ 32)
        fpScale).bind (u64CheckedMul (sensitivity * 100 / epsilonScaled))).map fun product =>
          (if noiseWord hash ledgerSeq seed sensitivity epsilonScaled % 2 = 0 then 1 else -1) *
            ((min (product / fpScale) (3 * (sensitivity * 100 / epsilonScaled)) : Nat) : Int) := by
  rw [laplaceNoise, if_neg (by omega)]
  dsimp only
  rw [if_neg scaled, if_neg drawn]
  cases negLnFp (noiseWord hash ledgerSeq seed sensitivity epsilonScaled / 2 / 2 ^ 32) fpScale with
  | none => rfl
  | some ln =>
    rw [Option.bind_eq_bind, Option.bind_some, Option.bind_some]
    cases u64CheckedMul (sensitivity * 100 / epsilonScaled) ln <;> rfl

theorem natAbs_noise_le (negative : Prop) [Decidable negative] (magnitude bound : Nat) :
    ((if negative then 1 else -1) * ((min magnitude bound : Nat) : Int)).natAbs ≤ bound := by
  split <;> omega

/-- Exactly the words whose upper half is zero, and not their lower, stop the contract, unless the
scale is one; otherwise the noise is within its bound. -/
theorem laplaceNoise_bounded_iff (hash : Bytes → BytesN 32)
    (ledgerSeq seed sensitivity epsilonScaled : Nat) (sensible : sensitivity ≤ 100)
    (positive : 1 ≤ epsilonScaled) :
    (∃ n, laplaceNoise hash ledgerSeq seed sensitivity epsilonScaled = some n ∧
        n.natAbs ≤ 3 * (100 * sensitivity / epsilonScaled)) ↔
      ¬ (2 ≤ 100 * sensitivity / epsilonScaled ∧
        0 < noiseWord hash ledgerSeq seed sensitivity epsilonScaled / 2 ∧
        noiseWord hash ledgerSeq seed sensitivity epsilonScaled / 2 < 2 ^ 32) := by
  have wordLt := noiseWord_lt hash ledgerSeq seed sensitivity epsilonScaled
  have scaleLe : sensitivity * 100 / epsilonScaled ≤ 10000 :=
    (Nat.div_le_self _ _).trans (by omega)
  rw [Nat.mul_comm 100 sensitivity]
  by_cases scaled : sensitivity * 100 / epsilonScaled = 0
  · refine iff_of_true ⟨0, ?_, Nat.zero_le _⟩ (by omega)
    rw [laplaceNoise, if_neg (by omega)]
    exact if_pos scaled
  by_cases drawn : noiseWord hash ledgerSeq seed sensitivity epsilonScaled / 2 = 0
  · refine iff_of_true ⟨0, ?_, Nat.zero_le _⟩ (by omega)
    rw [laplaceNoise, if_neg (by omega)]
    exact (if_neg scaled).trans (if_pos drawn)
  rw [laplaceNoise_eq positive scaled drawn]
  generalize noiseWord hash ledgerSeq seed sensitivity epsilonScaled = r at *
  generalize sensitivity * 100 / epsilonScaled = b at *
  by_cases high : r / 2 / 2 ^ 32 = 0
  · -- The logarithm is the sentinel, and only the scale one leaves the product in range.
    rw [high, negLnFp, if_pos rfl, Option.bind_some]
    by_cases one : b = 1
    · have fits : u64CheckedMul b (u64Bound - 1) = some (b * (u64Bound - 1)) :=
        if_pos (by rw [one]; decide)
      rw [fits]
      exact iff_of_true ⟨_, rfl, natAbs_noise_le ..⟩ (by omega)
    · have overflows : u64CheckedMul b (u64Bound - 1) = none :=
        if_neg (by unfold u64Bound; omega)
      rw [overflows]
      refine iff_of_false ?_ (by omega)
      rintro ⟨n, ⟨⟩, _⟩
  · obtain ⟨ln, isLn, lnLe⟩ := negLnFp_le (Nat.pos_of_ne_zero high)
      (by unfold fpScale; omega)
    have fits : u64CheckedMul b ln = some (b * ln) :=
      if_pos (Nat.lt_of_le_of_lt (Nat.mul_le_mul scaleLe lnLe) (by decide))
    rw [isLn, Option.bind_some, fits]
    exact iff_of_true ⟨_, rfl, natAbs_noise_le ..⟩ (by omega)

theorem laplaceNoise_bounded_iff_sampled :
    ∃ n, laplaceNoise Sha256.digest 7 1 100 50 = some n ∧ n.natAbs ≤ 3 * (100 * 100 / 50) :=
  (laplaceNoise_bounded_iff Sha256.digest 7 1 100 50 (by decide) (by decide)).mpr
    (by decide +kernel)

/-- A hash with the first word two. -/
def wordTwo : Bytes → BytesN 32 := fun _ => ⟨List.replicate 7 0 ++ [2] ++ List.replicate 24 0, rfl⟩

/-- Its noise overflows. -/
theorem laplaceNoise_overflows :
    noiseWord wordTwo 7 1 100 50 = 2 ∧ ¬ ∃ n, laplaceNoise wordTwo 7 1 100 50 = some n ∧
      n.natAbs ≤ 3 * (100 * 100 / 50) := by
  refine ⟨by decide, ?_⟩
  rintro ⟨n, ran, _⟩
  have stopped : laplaceNoise wordTwo 7 1 100 50 = none := by decide
  rw [stopped] at ran
  cases ran

end LedgerLens
