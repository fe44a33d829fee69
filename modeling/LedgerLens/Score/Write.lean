import LedgerLens.Score.Derived

/-!
Writing a score (`write_score_with_rate_limit`). The steps that the batch entry
points repeat line by line are named here and used by all of them.
-/

namespace LedgerLens

open Host Host.Prog Storage

/-! ### Steps shared by the write paths -/

/-- The stored form of a submission. -/
def NormalizedSubmission.toRiskScore (sub : NormalizedSubmission) : RiskScore where
  score := sub.score
  benfordFlag := sub.benfordFlag
  mlFlag := sub.mlFlag
  timestamp := sub.timestamp
  confidence := sub.confidence
  modelVersion := sub.modelVersion
  benfordScore := 0
  mlScore := 0
  networkScore := 0
  commitment := sub.commitment

section

variable (wallet : Address) (assetPair : Symbol) (riskScore : RiskScore)

/-- History, pair registration and the submission counters. -/
def enterSubmission (isNewWalletPair : Bool) : M Unit := do
  pushScoreHistory wallet assetPair riskScore
  registerPairForWallet wallet assetPair
  incrementScoreCount wallet assetPair
  incrementPairScoreCount assetPair
  whenever isNewWalletPair incrementTotalWalletsScored

/-- Model statistics, historical maximum and histogram. -/
def updateStatistics (previousScore : Option Nat) : M Unit := do
  updateModelStats riskScore.modelVersion riskScore.score
  updateHistoricalMaxScore wallet assetPair riskScore.score
  updateHistogramOnWrite previousScore riskScore.score

/-- Alerts, counters and trend for a new score against a risk threshold. -/
def reactToScore (previousScore : Option Nat) (threshold : Nat) : M Unit := do
  whenever (riskScore.score ≥ threshold) do
    emit (.thresholdBreached wallet assetPair riskScore.score threshold)
  updateBreachCounter wallet assetPair riskScore.score threshold
  evaluateRiskBand wallet assetPair riskScore.score threshold
  emitScoreDelta wallet assetPair previousScore riskScore.score
  emitScoreJumpAnomaly wallet assetPair previousScore riskScore.score riskScore.modelVersion
  emit (.scoreSubmitted wallet assetPair riskScore)

/-- Store where a score came from. -/
def recordProvenance (modelVersion signersCount : Nat) (validationBranch : Symbol) : M Unit := do
  let floorPolicy ← getScoreFloorPolicy
  store .persistent (.submissionProvenance wallet assetPair) {
    modelVersion
    serviceThreshold := ← getServiceThreshold
    signersCount
    scoreFloorEnabled := floorPolicy.enabled
    scoreFloorHighWaterMark := floorPolicy.highWaterMark
    scoreFloorValue := floorPolicy.floorValue
    cooldownSecs := ← getPairCooldownSecs assetPair
    epochId := ← getCurrentEpoch
    ledgerSequence := ← ledgerSequence
    submittedAt := ← now
    validationBranch }

/-! ### Rate limit -/

/-- Take one token from the bucket of the entry, which starts full and is
refilled by one token for every cooldown that has passed. -/
def takeToken (cooldown capacity : Nat) : M Unit := do
  let time ← now
  let bucket := (← fetch .inst (.tokenBucket wallet assetPair)).getD
    { tokens := capacity, lastRefill := time }
  let elapsed := time - bucket.lastRefill
  let refills := elapsed / cooldown
  let refilled := min (satAdd64 bucket.tokens refills) capacity
  require (refilled ≠ 0) .rateLimitExceeded
  store .inst (.tokenBucket wallet assetPair) {
    tokens := refilled - 1
    lastRefill :=
      if refills > 0 then satAdd64 bucket.lastRefill (satMul64 refills cooldown)
      else bucket.lastRefill }

/-- A token with burst capacity, the plain cooldown without. -/
def spendRateLimit (lastSubmit : Nat) : M Unit := do
  let cooldown ← getEffectiveCooldown assetPair
  let capacity ← getBurstCapacity
  if capacity > 1 then takeToken wallet assetPair cooldown capacity
  else require (cooldownElapsed (← now) lastSubmit cooldown) .rateLimitExceeded

/-- The checks of `write_score_with_rate_limit`; the result is the score before. -/
def admitScore : M (Option Nat) := do
  require (!(← isScoreHookDispatching)) .scoreHookDispatchInProgress
  validateRiskScore riskScore
  let lastSubmit ← getLastSubmitTime wallet assetPair
  spendRateLimit wallet assetPair lastSubmit
  let previousScore := (← peekScore wallet assetPair).map RiskScore.score
  let blocked ← velocityCapBlocks wallet assetPair previousScore lastSubmit riskScore.score
  require (!blocked) .rateLimitExceeded
  store .persistent (.lastSubmitTime wallet assetPair) (← now)
  require (!(← scoreFloorBlocks wallet assetPair riskScore.score)) .invalidScore
  return previousScore

/-! ### The write -/

def symbolMultisig : Symbol := ⟨['m', 'u', 'l', 't', 'i', 's', 'i', 'g'], by decide⟩
def symbolSingle : Symbol := ⟨['s', 'i', 'n', 'g', 'l', 'e'], by decide⟩
def symbolBatch : Symbol := ⟨['b', 'a', 't', 'c', 'h'], by decide⟩

/-- Provenance of a single submission: which of the two service paths it took. -/
def recordSingleProvenance (modelVersion : Nat) : M Unit := do
  let serviceSet ← getServiceSet
  let threshold ← getServiceThreshold
  recordProvenance wallet assetPair modelVersion serviceSet.length
    (if !serviceSet.isEmpty ∧ threshold > 0 then symbolMultisig else symbolSingle)

def writeScoreWithRateLimit : M Unit := do
  let previousScore ← admitScore wallet assetPair riskScore
  setScore wallet assetPair riskScore
  store .persistent (.scoreSubmissionLedger wallet assetPair) (← ledgerSequence)
  recordSingleProvenance wallet assetPair riskScore.modelVersion
  store .inst .lastGlobalSubmissionTime (← now)
  enterSubmission wallet assetPair riskScore previousScore.isNone
  updateStatistics wallet assetPair riskScore previousScore
  updateWelfordCorrelation wallet assetPair riskScore.score
  refreshAggregateCache wallet
  assignWalletCluster wallet
  updateVerkleCommitment wallet assetPair riskScore
  reactToScore wallet assetPair riskScore previousScore (← getRiskThreshold)

end

/-! ### Footprints -/

section Footprints

set_option synthInstance.maxSize 100000000

variable (wallet : Address) (assetPair : Symbol) (riskScore : RiskScore)

instance (isNew : Bool) : Touches (enterSubmission wallet assetPair riskScore isNew)
    [.scoreHistory, .assetPairs, .scoreCount, .pairScoreCount, .totalWalletsScored] :=
  ⟨by unfold enterSubmission; infer_instance⟩

instance (previous : Option Nat) : Touches (updateStatistics wallet assetPair riskScore previous)
    [.modelStats, .modelVersionIndex, .historicalMaxScore, .scoreHistogram] :=
  ⟨by unfold updateStatistics; infer_instance⟩

instance (previous : Option Nat) (threshold : Nat) :
    Touches (reactToScore wallet assetPair riskScore previous threshold)
      [.breachCount, .riskBandState, .bandEntryTime, .trendState, .jumpStats] :=
  ⟨by unfold reactToScore; infer_instance⟩

instance (version count : Nat) (branch : Symbol) :
    Touches (recordProvenance wallet assetPair version count branch) [.submissionProvenance] :=
  ⟨by unfold recordProvenance; infer_instance⟩

instance (cooldown capacity : Nat) : Touches (takeToken wallet assetPair cooldown capacity)
    [.tokenBucket] :=
  ⟨by unfold takeToken; infer_instance⟩

instance (lastSubmit : Nat) : Touches (spendRateLimit wallet assetPair lastSubmit) [.tokenBucket] :=
  ⟨by unfold spendRateLimit; infer_instance⟩

instance : Touches (admitScore wallet assetPair riskScore)
    [.tokenBucket, .velocityCapOverride, .lastSubmitTime] :=
  ⟨by unfold admitScore; infer_instance⟩

instance (version : Nat) : Touches (recordSingleProvenance wallet assetPair version)
    [.submissionProvenance] :=
  ⟨by unfold recordSingleProvenance; infer_instance⟩

/-- Everything `write_score_with_rate_limit` may write. -/
abbrev writeTags : List Tag :=
  [.tokenBucket, .velocityCapOverride, .lastSubmitTime, .score, .scoreEntryIndex,
    .scoreEntryLastTouchedLedger, .scoreSubmissionLedger, .submissionProvenance,
    .lastGlobalSubmissionTime, .scoreHistory, .assetPairs, .scoreCount, .pairScoreCount,
    .totalWalletsScored, .modelStats, .modelVersionIndex, .historicalMaxScore, .scoreHistogram,
    .welfordCorrState, .aggregateScore, .walletCluster, .verkleCommitment, .verkleLeaf,
    .breachCount, .riskBandState, .bandEntryTime, .trendState, .jumpStats]

instance : Touches (writeScoreWithRateLimit wallet assetPair riskScore) writeTags :=
  ⟨by unfold writeScoreWithRateLimit; infer_instance⟩

end Footprints

end LedgerLens
