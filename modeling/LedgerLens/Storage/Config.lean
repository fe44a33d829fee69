import LedgerLens.State

/-!
Reading the configuration (`storage.rs`): one reader per key with the default
the source falls back to. A setter of the source that only stores its argument
is written `store` where it is used.
-/

namespace LedgerLens.Storage

open Host Host.Prog

/-! ### Accounts -/

abbrev hasAdmin : M Bool := stored .inst .admin

/-- Traps before the contract is initialised. -/
abbrev getAdmin : M Address := fetch .inst .admin >>= unwrap

/-- Traps before the contract is initialised. -/
abbrev getService : M Address := fetch .inst .service >>= unwrap

abbrev getAdminSet : M (List Address) := fetchOr .inst .adminSet []
abbrev getAdminThreshold : M Nat := fetchOr .inst .adminThreshold 0
abbrev getServiceSet : M (List Address) := fetchOr .inst .serviceSet []
abbrev getServiceThreshold : M Nat := fetchOr .inst .serviceThreshold 1
abbrev getSignerNonce (signer : Address) : M Nat := fetchOr .inst (.signerNonce signer) 0
abbrev getSignerRotationTtl : M Nat := fetchOr .inst .signerTtl 0
abbrev getSignerGracePeriod : M Nat := fetchOr .inst .signerGracePeriod 0

abbrev getPolicyApproval (policy : Policy) : M PolicyApproval := do
  let enabled ← fetchOr .inst (.policyApprovalEnabled policy) false
  let approver ← fetch .inst (.policyApprovalApprover policy)
  return { enabled, approver }

abbrev getDeletionApprovalPolicy : M DeletionApprovalPolicy := do
  let enabled ← fetchOr .inst .deletionPolicyEnabled false
  let approver ← fetch .inst .deletionApprover
  return { enabled, approver }

abbrev getRequireMultisigForDestructive : M Bool :=
  fetchOr .inst .requireDestructiveMultisig false

/-! ### Switches -/

abbrev isPaused : M Bool := fetchOr .inst .paused false
abbrev isFrozen : M Bool := fetchOr .inst .frozen false
abbrev isPairPaused (assetPair : Symbol) : M Bool :=
  fetchOr .persistent (.pairPaused assetPair) false
abbrev isEpochOpen : M Bool := fetchOr .inst .epochOpen true
abbrev getCurrentEpoch : M Nat := fetchOr .inst .currentEpoch 0
abbrev isScoreHookDispatching : M Bool := fetchOr .inst .dispatching false

/-! ### Score policies -/

abbrev getRiskThreshold : M Nat := fetchOr .inst .riskThreshold defaultRiskThreshold
abbrev getJumpThreshold : M Nat := fetchOr .inst .jumpThreshold defaultJumpThreshold
abbrev getHistoryMaxDepth : M Nat := fetchOr .inst .historyMaxDepth defaultHistoryMaxDepth
abbrev getContractVersion : M Nat := fetchOr .inst .contractVersion contractVersion
abbrev getCooldownSecs : M Nat := fetchOr .inst .cooldownSecs defaultCooldownSecs

/-- The cooldown of the pair, or the global one. -/
abbrev getPairCooldownSecs (assetPair : Symbol) : M Nat := do
  (← fetch .inst (.pairCooldown assetPair)).elim getCooldownSecs pure

abbrev getAdaptiveRateLimit : M AdaptiveRateLimit :=
  fetchOr .inst .adaptiveRateLimit { enabled := false, varianceScale := 0 }

abbrev getBurstCapacity : M Nat := fetchOr .inst .burstCapacity 1

abbrev getScoreVelocityCap : M ScoreVelocityCap := do
  let enabled ← fetchOr .inst .scoreVelocityCapEnabled false
  let pointsPerHour ← fetchOr .inst .scoreVelocityCapPointsPerHour 0
  return { enabled, pointsPerHour }

abbrev getScoreFloorPolicy : M ScoreFloorPolicy := do
  let config ←
    fetchOr .inst .scoreFloorConfig (false, defaultScoreFloorHwm, defaultScoreFloorMin)
  return { enabled := config.1, highWaterMark := config.2.1, floorValue := config.2.2 }

abbrev getHysteresisMargin : M Nat := fetchOr .inst .hysteresisMargin 0
abbrev getEscalationThreshold : M Nat :=
  fetchOr .inst .escalationThreshold defaultEscalationThreshold
abbrev getFinalityBufferSecs : M Nat := fetchOr .inst .finalityBufferSecs 0
abbrev getFlashProtectionMode : M FlashProtectionMode := fetchOr .inst .flashProtectionMode .warn
abbrev getHllPrecision : M Nat := fetchOr .inst .hllPrecision hllDefaultPrecision
abbrev getPairWeight (assetPair : Symbol) : M Nat := fetchOr .persistent (.pairWeight assetPair) 1
abbrev getDecayRate : M (Nat × Nat) := fetchOr .inst .decayRate (0, 1)
abbrev getClusterBoundaries : M (List Nat) := fetchOr .inst .clusterBoundaries []
abbrev getHeartbeatAlertThreshold : M Nat :=
  fetchOr .inst .serviceHeartbeatAlertThreshold defaultHeartbeatAlertThresholdSecs
abbrev isSilentAlertEmitted : M Bool := fetchOr .inst .serviceSilentAlertEmitted false
abbrev getLastServiceActivity : M Nat := fetchOr .inst .lastServiceActivityAt 0

abbrev isAdaptiveThresholdEnabled : M Bool := fetchOr .inst .adaptiveThresholdEnabled false
abbrev getLastComputedThreshold : M Nat := fetchOr .inst .lastComputedThreshold 0

/-! ### Model versions -/

abbrev getModelVersionSet : M (List Nat) := fetchOr .inst .allModelVersions []

/-- The status of a registered version; `active` when none is stored. -/
abbrev getModelVersionStatus (version : Nat) : M (Option ModelVersionStatus) := do
  let versions ← getModelVersionSet
  if version ∈ versions then
    return some ((← fetch .inst (.modelVersionStatus version)).getD .active)
  else
    return none

abbrev getModelPosteriorWeight (version : Nat) : M Nat :=
  fetchOr .inst (.modelPosteriorWeight version) 1000000

/-! ### Consensus -/

abbrev getConsensusThresholdK : M Nat :=
  fetchOr .inst .consensusThresholdK defaultConsensusThresholdK
abbrev getConsensusEpsilon : M Nat := fetchOr .inst .consensusEpsilon defaultConsensusEpsilon
abbrev getRevealWindowSecs : M Nat := fetchOr .inst .revealWindowSecs 3600
abbrev getIqrRejectionMultiplier : M Nat := fetchOr .inst .iqrRejectionMultiplier 150

/-! ### Keys -/

abbrev getServicePubkey : M (Option Bytes) := fetch .inst .servicePubKey
abbrev getPendingServicePubkey : M (Option (Bytes × Nat)) := fetch .inst .pendingServicePubKey
abbrev getAggregateServicePubkey : M (Option Bytes) := fetch .inst .aggregateServicePubKey
abbrev getPendingAggregateServicePubkey : M (Option (Bytes × Nat)) :=
  fetch .inst .pendingAggregateServicePubKey

/-- Whether a key has been revoked with effect from `timestamp` or earlier. -/
abbrev isKeyRevokedAt (fingerprint : BytesN 32) (timestamp : Nat) : M Bool := do
  return (← fetch .inst (.revokedKey fingerprint)).elim false
    fun record => decide (timestamp ≥ record.effectiveFrom)

/-! ### Delays -/

abbrev getUpgradeDelay : M Nat := fetchOr .inst .upgradeDelay defaultUpgradeDelaySecs

end LedgerLens.Storage
