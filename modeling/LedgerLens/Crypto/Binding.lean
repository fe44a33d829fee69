import LedgerLens.System.Calls
import LedgerLens.Crypto.Completeness
import LedgerLens.Crypto.Compression

/-!
Range proofs about stored scores, and what a commitment binds its author to. `H` is a
multiple of `G`, so that the blinding makes up for any change of the score. The main results are
`commitScore_binds_iff` and `verifyScoreRangeProof_accepts`.
-/

namespace LedgerLens.Zk

open Host Host.Prog Storage

/-! ### The entry point -/

/-- `(threshold - 1) * G - C`: a commitment to what the score is short of the threshold. -/
def shortfall (tm1 : Nat) (c : Pt) : Pt :=
  let (gPt, _, d) := getGenerators
  (gPt.mul (.fromU64 (UInt64.ofNat tm1)) d).add ⟨c.x.neg, c.y⟩ d

def verifyScoreRangeProof (wallet : Address) (assetPair : Symbol) (commitment : BytesN 32)
    (proof : Bytes) (threshold : Nat) : M Bool :=
  if !assetPairIsBounded assetPair then return false
  else do
    (← getScore wallet assetPair).elim (pure false) fun storedScore =>
      storedScore.commitment.elim (pure false) fun storedCommitment =>
        if storedCommitment ≠ commitment.1 then pure false
        else
          (Bulletproof.fromBytes proof).elim (pure false) fun bp =>
            (decompressPt32 commitment).elim (pure false) fun c =>
              if threshold = 0 then pure false
              else do
                let crypto ← asks Env.crypto
                return verifyRangeProof crypto.sha256 (shortfall (threshold - 1) c) bp

theorem verifyScoreRangeProof_ok {wallet : Address} {assetPair : Symbol} {commitment : BytesN 32}
    {proof : Bytes} {threshold : Nat} {env : ContractEnv} {w : State} {score : RiskScore}
    {bp : Bulletproof} {c : Pt} (bounded : assetPairIsBounded assetPair = true)
    (found : w.ledger.entry .persistent (.score wallet assetPair) = some score)
    (committed : score.commitment = some commitment.1)
    (parsed : Bulletproof.fromBytes proof = some bp) (point : decompressPt32 commitment = some c)
    (positive : threshold ≠ 0) :
    verifyScoreRangeProof wallet assetPair commitment proof threshold env w =
      .ok (verifyRangeProof env.crypto.sha256 (shortfall (threshold - 1) c) bp) w := by
  unfold verifyScoreRangeProof
  rw [bounded, parsed, point]
  simp only [Bool.not_true, Bool.false_eq_true, if_false, run_bind, getScore, fetch, load,
    run_reads, Option.elim_some, positive]
  rw [found]
  simp only [Option.elim_some, committed, ne_eq, not_true_eq_false, if_false, run_bind, run_asks,
    run_pure]

/-! ### Openings -/

/-- A score under a blinding. -/
def commitScore (score : Nat) (r : Sc) : Pt := commit (.fromU64 (UInt64.ofNat score)) r

/-- The bytes are those of a commitment to the score. -/
def OpensTo (bytes : BytesN 32) (score : Nat) : Prop :=
  ∃ r : Sc, r.value < l ∧ decompressPt32 bytes = some (commitScore score r)

/-- One commitment is not to both, unless the scores are the same. -/
def Binds (v : Nat) (r : Sc) (v' : Nat) (r' : Sc) : Prop :=
  commitScore v r = commitScore v' r' → v = v'

/-- The bytes open to no score from the threshold on. -/
def ClosedFrom (bytes : BytesN 32) (threshold : Nat) : Prop :=
  ∀ score, threshold ≤ score → score ≤ 100 → ¬ OpensTo bytes score

variable {v v' : Nat} {r r' : Sc}

theorem commitScore_at (small : v ≤ 100) (rLt : r.value < l) :
    (commitScore v r).At ((v + 8 * r.value : Nat) : ZMod l) := by
  have atV := commit_at (Sc.fromU64_is (UInt64.ofNat v)) (Sc.is_self rLt)
  have fits : v < 2 ^ 64 := by omega
  rw [UInt64.toNat_ofNat', Nat.mod_eq_of_lt fits, mul_comm] at atV
  push_cast
  exact atV

theorem decompress_commitScore (small : v ≤ 100) (rLt : r.value < l) :
    decompressPt32 (compressPt (commitScore v r)) = some (commitScore v r) := by
  have atPoint : (commitScore v r).At _ := commitScore_at small rLt
  exact decompressPt32_compressPt (Pt.Is.x atPoint).lt (Pt.Is.y atPoint).lt atPoint.isOnCurve

/-- Commitments are the same when their exponents are. -/
theorem commitScore_eq_iff (small : v ≤ 100) (small' : v' ≤ 100) (rLt : r.value < l)
    (rLt' : r'.value < l) :
    commitScore v r = commitScore v' r' ↔ (v + 8 * r.value) % l = (v' + 8 * r'.value) % l := by
  rw [Pt.At.eq_iff (commitScore_at small rLt) (commitScore_at small' rLt'),
    ZMod.natCast_eq_natCast_iff]
  rfl

theorem eight_ne_zero : (8 : ZMod l) ≠ 0 := by
  have divides : ¬ l ∣ 8 := by decide
  exact_mod_cast (ZMod.natCast_eq_zero_iff 8 l).not.mpr divides

/-- Counted up from zero. -/
theorem exists_scalar (n : Nat) : ∃ s : Sc, s.Is (n : ZMod l) := by
  induction n with
  | zero => exact ⟨.zero, by rw [Nat.cast_zero]; exact Sc.zero_is⟩
  | succ n ih =>
    obtain ⟨s, isS⟩ := ih
    refine ⟨s.add .one, ?_⟩
    rw [Nat.cast_succ]
    exact isS.add Sc.one_is

/-- Whatever the score, a blinding makes it the same commitment. -/
theorem exists_opening (small : v ≤ 100) (rLt : r.value < l) (small' : v' ≤ 100) :
    ∃ s : Sc, s.value < l ∧ commitScore v' s = commitScore v r := by
  obtain ⟨s, isS⟩ := exists_scalar ((v + 8 * (r.value : ZMod l) - v') * 8⁻¹).val
  rw [ZMod.natCast_zmod_val] at isS
  refine ⟨s, isS.lt, ?_⟩
  rw [Pt.At.eq_iff (commitScore_at small' isS.lt) (commitScore_at small rLt)]
  push_cast
  rw [isS.eq]
  field_simp [eight_ne_zero]
  ring

/-- Two openings of one commitment have the same score only as far as their exponents tell them
apart; a commitment that is accepted for a threshold still opens to every score from there on. -/
theorem commitScore_binds_iff (small : v ≤ 100) (small' : v' ≤ 100) (rLt : r.value < l)
    (rLt' : r'.value < l) :
    (Binds v r v' r' ↔ v = v' ∨ (v + 8 * r.value) % l ≠ (v' + 8 * r'.value) % l) ∧
      ∀ (env : ContractEnv) (w : State) (wallet : Address) (assetPair : Symbol)
        (bytes : BytesN 32) (proof : Bytes) (threshold : Nat),
        decompressPt32 bytes = some (commitScore v r) →
        verifyScoreRangeProof wallet assetPair bytes proof threshold env w = .ok true w →
          (ClosedFrom bytes threshold ↔ 100 < threshold) := by
  constructor
  · unfold Binds
    rw [commitScore_eq_iff small small' rLt rLt']
    tauto
  · intro env w wallet assetPair bytes proof threshold isBytes _
    constructor
    · intro closed
      by_contra le
      obtain ⟨s, sLt, same⟩ := exists_opening small rLt (le_refl 100)
      exact closed 100 (by omega) (le_refl 100) ⟨s, sLt, by rw [same]; exact isBytes⟩
    · intro above score reaches upTo
      omega

/-- Eight under no blinding is nothing under a blinding of one. -/
theorem eight_opens_to_zero :
    commitScore 8 .zero = commitScore 0 .one ∧ Sc.zero.value < l ∧ Sc.one.value < l := by
  refine ⟨?_, Sc.zero_is.lt, Sc.one_is.lt⟩
  rw [commitScore_eq_iff (by decide) (by decide) Sc.zero_is.lt Sc.one_is.lt]
  decide +kernel

/-! ### An accepted commitment -/

theorem Pt.At.neg {P : Pt} {e : ZMod l} (atE : P.At e) : Pt.At ⟨P.x.neg, P.y⟩ (-e) := by
  unfold Pt.At
  rw [map_neg]
  exact ⟨Fe.Is.neg atE.x, atE.y⟩

/-- What a score is short of a threshold is committed to under the blinding turned round. -/
theorem shortfall_commitScore {tm1 : Nat} (le : v ≤ tm1) (fits : tm1 ≤ 100) (rLt : r.value < l) :
    shortfall tm1 (commitScore v r) = commitScore (tm1 - v) r.neg := by
  have isNeg := (Sc.is_self rLt).neg
  have atScore : (commitScore v r).At _ := commitScore_at (by omega) rLt
  have atLeft : (shortfall tm1 (commitScore v r)).At _ := (mul_ofNat_at (by omega)).add atScore.neg
  have atRight : (commitScore (tm1 - v) r.neg).At _ := commitScore_at (by omega) isNeg.lt
  rw [atLeft.eq_iff atRight]
  push_cast [Nat.cast_sub le]
  rw [isNeg.eq]
  ring

section Sample

/-- A blinding, and a proof that five is below fifty. -/
def sampleBlinding : Sc := .fromU64 3

def sampleCommitment : BytesN 32 := compressPt (commitScore 5 sampleBlinding)

def sampleProof : Bulletproof :=
  proveRangeProof oneDigest 44 sampleBlinding.neg ⟨List.replicate 32 0, rfl⟩

def sampleScore : RiskScore where
  score := 5
  benfordFlag := false
  mlFlag := false
  timestamp := 1
  confidence := 90
  modelVersion := 1
  benfordScore := 0
  mlScore := 0
  networkScore := 0
  commitment := some sampleCommitment.1

def committed : State :=
  { deployed with
    ledger := deployed.ledger.put .persistent (.score (account 3) samplePair) (some sampleScore) }

def oneDigestEnv : ContractEnv :=
  { sampleEnv [] with crypto := { sha256 := oneDigest, recover := fun _ _ _ => none } }

theorem sampleBlinding_lt : sampleBlinding.value < l := (Sc.fromU64_is 3).lt

theorem sampleCommitment_point :
    decompressPt32 sampleCommitment = some (commitScore 5 sampleBlinding) :=
  decompress_commitScore (by decide) sampleBlinding_lt

theorem committed_verified :
    verifyScoreRangeProof (account 3) samplePair sampleCommitment sampleProof.toBytes 50
      oneDigestEnv committed = .ok true committed := by
  have negLt : sampleBlinding.neg.value < l := (Sc.is_self sampleBlinding_lt).neg.lt
  have isShort : shortfall 49 (commitScore 5 sampleBlinding) =
      commit (.fromU64 (44 : UInt32).toUInt64) sampleBlinding.neg :=
    shortfall_commitScore (by decide) (by decide) sampleBlinding_lt
  have accepted := verifyRangeProof_proved oneDigest 44 negLt ⟨List.replicate 32 0, rfl⟩ (by decide)
    (hashToScalar_oneDigest _) challenges_oneDigest
  have back : Bulletproof.fromBytes sampleProof.toBytes = some sampleProof :=
    fromBytes_proved oneDigest 44 negLt _
  have found : committed.ledger.entry .persistent (.score (account 3) samplePair) =
      some sampleScore := Ledger.entry_put_self ..
  have bounded : assetPairIsBounded samplePair = true := by decide
  rw [verifyScoreRangeProof_ok bounded found rfl back sampleCommitment_point (by decide), isShort]
  exact congrArg (Outcome.ok · committed) accepted

end Sample

theorem commitScore_binds_iff_sample :
    ¬ Binds 5 sampleBlinding 13 (.fromU64 2) ∧
      verifyScoreRangeProof (account 3) samplePair sampleCommitment sampleProof.toBytes 50
        oneDigestEnv committed = .ok true committed ∧
      ¬ ClosedFrom sampleCommitment 50 := by
  have binds : (Binds 5 sampleBlinding 13 (.fromU64 2) ↔ _) ∧ _ :=
    commitScore_binds_iff (by decide) (by decide) sampleBlinding_lt (Sc.fromU64_is 2).lt
  have closed := binds.2 _ _ _ _ _ _ _ sampleCommitment_point committed_verified
  refine ⟨?_, committed_verified, ?_⟩
  · rw [binds.1]
    decide +kernel
  · rw [closed]
    decide

/-! ### Honest proofs -/

/-- Whoever committed to a score below the threshold can prove it: what the prover makes for the
distance, under the blinding turned round, passes the entry point. -/
theorem verifyScoreRangeProof_accepts {wallet : Address} {assetPair : Symbol} {threshold : Nat}
    {w : State} {score : RiskScore} (env : ContractEnv) (short : UInt32) (seed : BytesN 32)
    (bounded : assetPairIsBounded assetPair = true)
    (found : w.ledger.entry .persistent (.score wallet assetPair) = some score)
    (committed : score.commitment = some (compressPt (commitScore v r)).1) (rLt : r.value < l)
    (isShort : v + short.toNat + 1 = threshold) (upTo : threshold ≤ 101) :
    let proof := proveRangeProof env.crypto.sha256 short r.neg seed
    (hashFsYZ env.crypto.sha256 (commitScore short.toNat r.neg) proof.A proof.S).1 ≠ .zero →
    (∀ u ∈ challengesOf env.crypto.sha256 0 (proof.L.1.zip proof.R.1), u ≠ .zero) →
    verifyScoreRangeProof wallet assetPair (compressPt (commitScore v r)) proof.toBytes threshold
      env w = .ok true w := by
  intro proof yNonzero nonzero
  have negLt : r.neg.value < l := (Sc.is_self rLt).neg.lt
  have isCommit : commitScore short.toNat r.neg = commit (.fromU64 short.toUInt64) r.neg := by
    simp [commitScore]
  rw [isCommit] at yNonzero
  have distance : shortfall (threshold - 1) (commitScore v r) = _ :=
    shortfall_commitScore (by omega) (by omega) rLt
  have isDistance : threshold - 1 - v = short.toNat := by omega
  rw [isDistance, isCommit] at distance
  rw [verifyScoreRangeProof_ok bounded found committed (fromBytes_proved _ _ negLt seed)
      (decompress_commitScore (by omega) rLt) (by omega), distance,
    verifyRangeProof_proved _ _ negLt seed (by omega) yNonzero nonzero]

theorem verifyScoreRangeProof_accepts_five :
    verifyScoreRangeProof (account 3) samplePair sampleCommitment sampleProof.toBytes 50
      oneDigestEnv committed = .ok true committed := by
  have found : committed.ledger.entry .persistent (.score (account 3) samplePair) =
      some sampleScore := Ledger.entry_put_self ..
  have opens : sampleScore.commitment = some (compressPt (commitScore 5 sampleBlinding)).1 := rfl
  have accepted := verifyScoreRangeProof_accepts oneDigestEnv 44 ⟨List.replicate 32 0, rfl⟩
    (by decide) found opens sampleBlinding_lt rfl (by decide)
  exact accepted (hashToScalar_oneDigest []) challenges_oneDigest

end LedgerLens.Zk
