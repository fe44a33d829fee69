import LedgerLens.Attestation
import LedgerLens.Auth
import LedgerLens.Score.Write

/-!
Consensus rounds: several models vote on one score. The two entry points keep
the votes that are in range and verified, agree on a score in different ways
and write it like a single submission.

The source keeps index lists into the votes; here the selected votes themselves
are kept, in the same order.
-/

namespace LedgerLens

open Host Host.Prog Storage

/-! ### Order statistics -/

section

variable (votes : List ModelSubmission) (value : ModelSubmission → Nat) (kth : Nat)

/-- The first value of which at most `kth` values are smaller and more than
`kth` are no larger. -/
def kthValue : Option Nat :=
  (votes.map value).find? fun candidate =>
    votes.countP (fun vote => value vote < candidate) ≤ kth &&
      kth < votes.countP (fun vote => value vote ≤ candidate)

def kthScore : Option Nat :=
  kthValue votes ModelSubmission.score kth

/-- The lower median. -/
def medianValue : Option Nat :=
  if votes.isEmpty then none else kthValue votes value ((votes.length - 1) / 2)

def medianScore : Option Nat :=
  medianValue votes ModelSubmission.score

def medianConfidence : Option Nat :=
  medianValue votes ModelSubmission.confidence

/-! ### Signer accuracy -/

abbrev getSignerAccuracy (signer : Address) : M (Option SignerAccuracyRecord) :=
  fetch .inst (.signerAccuracy signer)

/-- The weight of a vote falls with the deviation its signer showed before. -/
def accuracyWeight (record : Option SignerAccuracyRecord) : Nat :=
  max (1000 / satAdd32 (record.elim 0 SignerAccuracyRecord.madScaled) 1) 1

/-- Add one vote to the sums of weights and of weighted scores. -/
def addWeightedVote (sums : Nat × Nat) (vote : ModelSubmission) : M (Nat × Nat) := do
  let weight := accuracyWeight (← getSignerAccuracy vote.model)
  return (satAdd64 sums.1 weight, satAdd64 sums.2 (satMul64 weight vote.score))

def weightedMeanScore : M (Option Nat) :=
  if votes.isEmpty then return none
  else do
    let sums ← fold addWeightedVote (0, 0) votes
    if sums.1 = 0 then return medianScore votes
    else return some (sums.2 / sums.1 % u32Bound)

end

/-- Fold a deviation into the mean of the signer. The event carries the mean
before it is cut to its stored width. -/
def updateSignerAccuracy (signer : Address) (absDeviation : Nat) : M Unit := do
  let record := (← getSignerAccuracy signer).getD { madScaled := 0, count := 0 }
  let newCount := satAdd32 record.count 1
  let oldTotal := satMul64 record.madScaled record.count
  let newMad := satAdd64 oldTotal (satMul64 absDeviation 1000) / newCount
  store .inst (.signerAccuracy signer) { madScaled := newMad % u32Bound, count := newCount }
  emit (.signerAccuracyUpdated signer newMad newCount)

/-! ### Selecting votes -/

/-- Votes out of range are passed over. -/
def voteInRange (vote : ModelSubmission) : Bool := vote.score ≤ 100 && vote.confidence ≤ 100

/-- The submission a vote attests. -/
def ModelSubmission.normalize (vote : ModelSubmission) (wallet : Address) (assetPair : Symbol)
    (timestamp : Nat) : NormalizedSubmission where
  wallet := wallet
  assetPair := assetPair
  score := vote.score
  benfordFlag := vote.benfordFlag
  mlFlag := vote.mlFlag
  timestamp := timestamp
  confidence := vote.confidence
  modelVersion := vote.modelVersion
  commitment := none

/-- Votes are checked against the service key once one is registered. -/
def voteVerified (shouldVerify : Bool) (ns : NormalizedSubmission)
    (attestation : ScoreAttestation) : M Bool :=
  if shouldVerify then do
    return (← attempt (verifyAttestation ns (some attestation))).isOk
  else
    return true

/-- Keep the votes that pass, in order. -/
def keepVotes {α : Type} (passes : α → M Bool) (votes : List α) : M (List α) :=
  fold (fun kept vote => do return if (← passes vote) then kept ++ [vote] else kept) [] votes

/-- Agreement of the kept votes as a stored score. -/
def consensusRiskScore (votes : List ModelSubmission) (score timestamp : Nat) : RiskScore where
  score := score
  benfordFlag := votes.any ModelSubmission.benfordFlag
  mlFlag := votes.any ModelSubmission.mlFlag
  timestamp := timestamp
  confidence := (medianConfidence votes).getD 0
  modelVersion := 0
  benfordScore := 0
  mlScore := 0
  networkScore := 0
  commitment := none

/-! ### Commit and reveal -/

def commitConsensus (model wallet : Address) (assetPair : Symbol) (commitment : BytesN 32) :
    M Unit := do
  ensureActive
  requireAuth model
  store .temporary (.consensusCommitment model wallet assetPair) commitment

section

variable (signers : List Address) (wallet : Address) (assetPair : Symbol)
  (submissions : List ModelSubmission) (nonces : List Nat) (timestamp : Nat)

/-- Check a revealed vote against its commitment and use the commitment up. -/
def revealVote (vote : ModelSubmission × Nat) : M Bool :=
  if !voteInRange vote.1 then return false
  else do
    let commitment ←
      okOr (← fetch .temporary (.consensusCommitment vote.1.model wallet assetPair))
        .revealWindowExpired
    let computedHash ← sha256 (toBeBytes 4 vote.1.score ++ toBeBytes 8 vote.2)
    require (computedHash = commitment) .commitmentMismatch
    remove .temporary (.consensusCommitment vote.1.model wallet assetPair)
    let shouldVerify := (← getServicePubkey).isSome
    voteVerified shouldVerify (vote.1.normalize wallet assetPair timestamp) vote.1.attestation

/-- Lower the weight of a version by the squared deviation of its vote. -/
def penalizeModel (medianScore : Nat) (vote : ModelSubmission) : M Unit := do
  let prior ← getModelPosteriorWeight vote.modelVersion
  let penalty := absDiff medianScore vote.score * absDiff medianScore vote.score
  store .inst (.modelPosteriorWeight vote.modelVersion) (max (prior - penalty) 1)
  updateSignerAccuracy vote.model (absDiff medianScore vote.score)

def revealConsensus : M Unit := do
  ensureActive
  authorizeSubmission signers
  require (!submissions.isEmpty) .consensusInputEmpty
  require (submissions.length = nonces.length) .commitmentMismatch
  require (timestamp ≠ 0) .invalidTimestamp
  let revealed ← keepVotes (revealVote wallet assetPair timestamp) (submissions.zip nonces)
  let valid := revealed.map Prod.fst
  require (!valid.isEmpty) .insufficientConsensus
  let provisionalMedian ← okOr (medianScore valid) .insufficientConsensus
  let epsilon ← getConsensusEpsilon
  let lowerBound := provisionalMedian - epsilon
  let upperBound := min (satAdd32 provisionalMedian epsilon) 100
  let agreeing := valid.filter fun vote => lowerBound ≤ vote.score && vote.score ≤ upperBound
  let thresholdK ← getConsensusThresholdK
  require (agreeing.length ≥ thresholdK) .insufficientConsensus
  let score ← okOr (← weightedMeanScore agreeing) .insufficientConsensus
  store .inst .lastGlobalSubmissionTime (← now)
  writeScoreWithRateLimit wallet assetPair (consensusRiskScore agreeing score timestamp)
  emit (.consensusScoreSubmitted wallet assetPair score agreeing.length epsilon)
  each agreeing (penalizeModel score)

/-! ### Direct consensus -/

def incrementSignerRejectionCount (signer : Address) : M Unit := do
  let current ← fetchOr .inst (.signerRejectionCount signer) 0
  store .inst (.signerRejectionCount signer) (← checked u32Bound (current + 1))

/-- Keep a vote near the median, count a rejection of its signer otherwise. -/
def rejectOutlier (thresholdScaled median : Nat) (vote : ModelSubmission) : M Bool :=
  if absDiff vote.score median * 100 ≤ thresholdScaled then return true
  else do
    incrementSignerRejectionCount vote.model
    emit (.consensusSignerRejected vote.model (absDiff vote.score median))
    return false

/-- From four votes on, drop those farther from the median than a multiple of
the interquartile range, unless that would drop all. -/
def rejectOutliers (valid : List ModelSubmission) : M (List ModelSubmission) :=
  if valid.length < 4 then return valid
  else
    let last := valid.length - 1
    (kthScore valid (last / 4)).elim (pure valid) fun q1 =>
    (kthScore valid (3 * last / 4)).elim (pure valid) fun q3 => do
      let multiplier ← getIqrRejectionMultiplier
      (kthScore valid (last / 2)).elim (pure valid) fun median => do
        let nonOutlier ← keepVotes (rejectOutlier (multiplier * (q3 - q1)) median) valid
        return if nonOutlier.isEmpty then valid else nonOutlier

/-- Check a vote of a direct consensus. -/
def directVote (shouldVerify : Bool) (wallet : Address) (assetPair : Symbol) (timestamp : Nat)
    (vote : ModelSubmission) : M Bool :=
  if !voteInRange vote then return false
  else voteVerified shouldVerify (vote.normalize wallet assetPair timestamp) vote.attestation

def submitConsensusScore : M Unit := do
  ensureActive
  authorizeSubmission signers
  require (!submissions.isEmpty) .consensusInputEmpty
  require (timestamp ≠ 0) .invalidTimestamp
  let shouldVerify := (← getServicePubkey).isSome
  let valid ← keepVotes (directVote shouldVerify wallet assetPair timestamp) submissions
  require (!valid.isEmpty) .insufficientConsensus
  let kept ← rejectOutliers valid
  let score ← okOr (medianScore kept) .insufficientConsensus
  store .inst .lastGlobalSubmissionTime (← now)
  writeScoreWithRateLimit wallet assetPair (consensusRiskScore kept score timestamp)
  each kept fun vote => updateSignerAccuracy vote.model (absDiff score vote.score)

end

/-! ### Footprints -/

section Footprints

set_option synthInstance.maxSize 100000000

variable (wallet : Address) (assetPair : Symbol) (timestamp : Nat) (vote : ModelSubmission)
  (votes : List ModelSubmission)

instance (sums : Nat × Nat) : Touches (addWeightedVote sums vote) [] :=
  ⟨by unfold addWeightedVote; infer_instance⟩

instance : Touches (weightedMeanScore votes) [] := ⟨by unfold weightedMeanScore; infer_instance⟩

instance (deviation : Nat) : Touches (updateSignerAccuracy wallet deviation) [.signerAccuracy] :=
  ⟨by unfold updateSignerAccuracy; infer_instance⟩

instance (shouldVerify : Bool) (ns : NormalizedSubmission) (attestation : ScoreAttestation) :
    Touches (voteVerified shouldVerify ns attestation) [.servicePubKey, .pendingServicePubKey] :=
  ⟨by unfold voteVerified; infer_instance⟩

/-- A selection keeps what every single check keeps. -/
instance {α : Type} {R : State → State → Prop} [Std.Refl R] [IsTrans State R]
    (passes : α → M Bool) (list : List α) [∀ a, Keeps R (passes a)] :
    Keeps R (keepVotes passes list) := by
  unfold keepVotes
  infer_instance

instance (model : Address) (commitment : BytesN 32) :
    Touches (commitConsensus model wallet assetPair commitment)
      [.authorizations, .consensusCommitment] :=
  ⟨by unfold commitConsensus; infer_instance⟩

instance (revealed : ModelSubmission × Nat) :
    Touches (revealVote wallet assetPair timestamp revealed)
      [.consensusCommitment, .servicePubKey, .pendingServicePubKey] :=
  ⟨by unfold revealVote; infer_instance⟩

instance (median : Nat) : Touches (penalizeModel median vote)
    [.modelPosteriorWeight, .signerAccuracy] :=
  ⟨by unfold penalizeModel; infer_instance⟩

/-- Everything `reveal_consensus` may write. -/
abbrev revealTags : List Tag :=
  .authorizations :: .consensusCommitment :: .servicePubKey :: .pendingServicePubKey ::
    .modelPosteriorWeight ::
    .signerAccuracy :: writeTags

instance (signers : List Address) (nonces : List Nat) :
    Touches (revealConsensus signers wallet assetPair votes nonces timestamp) revealTags :=
  ⟨by unfold revealConsensus; infer_instance⟩

instance : Touches (incrementSignerRejectionCount wallet) [.signerRejectionCount] :=
  ⟨by unfold incrementSignerRejectionCount; infer_instance⟩

instance (threshold median : Nat) : Touches (rejectOutlier threshold median vote)
    [.signerRejectionCount] :=
  ⟨by unfold rejectOutlier; infer_instance⟩

instance : Touches (rejectOutliers votes) [.signerRejectionCount] :=
  ⟨by unfold rejectOutliers; infer_instance⟩

instance (shouldVerify : Bool) : Touches (directVote shouldVerify wallet assetPair timestamp vote)
    [.servicePubKey, .pendingServicePubKey] :=
  ⟨by unfold directVote; infer_instance⟩

/-- Everything `submit_consensus_score` may write. -/
abbrev consensusTags : List Tag :=
  .authorizations :: .servicePubKey :: .pendingServicePubKey :: .signerRejectionCount ::
    .signerAccuracy :: writeTags

instance (signers : List Address) :
    Touches (submitConsensusScore signers wallet assetPair votes timestamp) consensusTags :=
  ⟨by unfold submitConsensusScore; infer_instance⟩

end Footprints

end LedgerLens
