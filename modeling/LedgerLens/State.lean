import LedgerLens.Records

/-!
The storage of the contract: its keys, the type of the entry under each key,
the events the score paths publish, and the monad its functions live in.

The source splits its keys over several enumerations because of a limit on the
number of variants. A key is serialised by the name of its variant, so equal
names in two enumerations are one key; here there is one enumeration.
-/

namespace LedgerLens

open Host

inductive DataKey where
  -- accounts, signers and service keys
  | admin | service | pendingAdmin | adminSet | adminThreshold | serviceSet | serviceThreshold
  | signerTier (signer : Address) | signerNonce (signer : Address)
  | signerAddedAt (signer : Address) | signerTtl | signerGracePeriod
  | signerState (signer : Address) | signerAccuracy (signer : Address)
  | signerRejectionCount (signer : Address) | servicePubKey | pendingServicePubKey
  | aggregateServicePubKey | pendingAggregateServicePubKey | revokedKey (fingerprint : BytesN 32)
  | revokedKeyIndex
  -- scores and what is kept beside them
  | score (wallet : Address) (assetPair : Symbol) | scoreEntryIndex
  | scoreEntryLastTouchedLedger (wallet : Address) (assetPair : Symbol)
  | scoreHistory (wallet : Address) (assetPair : Symbol) | assetPairs (wallet : Address)
  | scoreCount (wallet : Address) (assetPair : Symbol) | pairScoreCount (assetPair : Symbol)
  | totalWalletsScored | lastSubmitTime (wallet : Address) (assetPair : Symbol)
  | lastGlobalSubmissionTime | scoreSubmissionLedger (wallet : Address) (assetPair : Symbol)
  | submissionProvenance (wallet : Address) (assetPair : Symbol)
  | pendingScore (wallet : Address) (assetPair : Symbol)
  | tokenBucket (wallet : Address) (assetPair : Symbol)
  | velocityCapOverride (wallet : Address) (assetPair : Symbol)
  | historicalMaxScore (wallet : Address) (assetPair : Symbol) | scoreHistogram
  | modelStats (version : Nat) | modelVersionIndex
  | welfordCorrState (pairA : Symbol) (pairB : Symbol)
  | pairCorrelation (pairA : Symbol) (pairB : Symbol) | aggregateScore (wallet : Address)
  | walletCluster (wallet : Address) | verkleCommitment
  | verkleLeaf (wallet : Address) (assetPair : Symbol) | uniqueWalletsHll (assetPair : Symbol)
  | trendState (wallet : Address) (assetPair : Symbol)
  | jumpStats (wallet : Address) (assetPair : Symbol)
  | breachCount (wallet : Address) (assetPair : Symbol)
  | riskBandState (wallet : Address) (assetPair : Symbol)
  | bandEntryTime (wallet : Address) (assetPair : Symbol)
  | counterparties (wallet : Address) (assetPair : Symbol) | scoreDelegate (wallet : Address)
  | watchlist (wallet : Address) | scoreEmbargo (wallet : Address) | embargoedWalletIndex
  | activeEmbargoCount | scoreDispute (wallet : Address) (assetPair : Symbol) | disputeIndex
  | disputeCommit (challenger : Address) (wallet : Address) (assetPair : Symbol)
  | disputeCommitTime (challenger : Address) (wallet : Address) (assetPair : Symbol)
  | consensusCommitment (model : Address) (wallet : Address) (assetPair : Symbol)
  | relayedAttestationUsed (digest : BytesN 32)
  | gateReadLedger (wallet : Address) (assetPair : Symbol)
  -- switches and policies
  | paused | frozen | pairPaused (assetPair : Symbol) | pausedPairIndex | epochOpen | currentEpoch
  | riskThreshold | jumpThreshold | historyMaxDepth | contractVersion | stalenessWindow
  | cooldownSecs | pairCooldown (assetPair : Symbol) | adaptiveRateLimit | burstCapacity
  | scoreVelocityCapEnabled | scoreVelocityCapPointsPerHour | scoreFloorConfig | hysteresisMargin
  | escalationThreshold | finalityBufferSecs | finalityDepth | flashProtectionMode | hllPrecision
  | pairWeight (assetPair : Symbol) | pairAssetClass (assetPair : Symbol)
  | assetClassRiskThreshold (class_ : Symbol) | adaptiveThresholdEnabled
  | adaptiveThresholdTargetPct | adaptiveThresholdMinValue | adaptiveThresholdMaxValue
  | lastComputedThreshold | decayRate | globalMinConfidence | clusterBoundaries
  | pairVolatilityWindow | momentumWindow | momentumAlertThreshold | interpolationMethod
  | decayCurveConfig | dpEpsilon | consensusThresholdK | consensusEpsilon | adaptiveEpsilonEnabled
  | adaptiveEpsilonMin | adaptiveEpsilonMax | adaptiveEpsilonScaleFactor | revealWindowSecs
  | iqrRejectionMultiplier | allModelVersions | modelVersionStatus (version : Nat)
  | modelVersionExecutableAfter (version : Nat) | modelVersionDescription (version : Nat)
  | modelPosteriorWeight (version : Nat) | registeredOracle (assetPair : Symbol)
  | oracleLastUpdated (assetPair : Symbol) | oracleStalenessThreshold | lastServiceActivityAt
  | serviceHeartbeatAlertThreshold | serviceSilentAlertEmitted | failoverContract
  -- governance
  | contractWasm | pendingUpgrade | upgradeDelay | upgradeApprovals | parameterProposalNextId
  | parameterProposal (id : Nat) | pendingParameterProposalIds
  | pendingParamChange (key : Symbol) | pendingPolicyBundle | deletionPolicyEnabled
  | deletionApprover | policyApprovalEnabled (policy : Policy)
  | policyApprovalApprover (policy : Policy) | requireDestructiveMultisig | rateLimitOverrideLog
  | archOwner | mandatoryReviewers | alertAcknowledgement (alert : AlertType) | snapshotHistory
  | snapshotCount | backupRestoreRecord | adminAuditRoot
  -- gates, hooks and fees
  | gateCallers | gateOpen | gateQueryFee | consumerReadQuota (consumer : Address) | registry
  | failureThreshold | dispatching | feeToken | feeRecipient | withdrawalLock | keeperRewardToken
  | keeperRewardPool | keeperRewardPerEntry | keeperRewardWindow | keeperRewardPerLedgerCap
  | keeperRewardLedgerSpent (sequence : Nat) | relayTipToken | relayTipPool | relayTipAmount
  | relayTipWindowCap | relayTipWindowLedgers | relayTipWindowState | gateCreditToken
  | gateCreditBalance (depositor : Address) | gateCreditWithdrawalRequest (depositor : Address)
  | gateCreditWithdrawalDelay | gateCreditLiabilityTotal | gateCreditRevenue | feeTierSchedule
  | feeTierWindowLedgers | feeExemption (consumer : Address)
  | consumerVolumeWindow (consumer : Address)
  deriving DecidableEq

/-- The variant of a key, without its arguments. -/
inductive Tag where
  | admin | service | pendingAdmin | adminSet | adminThreshold | serviceSet | serviceThreshold
  | signerTier | signerNonce | signerAddedAt | signerTtl | signerGracePeriod | signerState
  | signerAccuracy | signerRejectionCount | servicePubKey | pendingServicePubKey
  | aggregateServicePubKey | pendingAggregateServicePubKey | revokedKey | revokedKeyIndex | score
  | scoreEntryIndex | scoreEntryLastTouchedLedger | scoreHistory | assetPairs | scoreCount
  | pairScoreCount | totalWalletsScored | lastSubmitTime | lastGlobalSubmissionTime
  | scoreSubmissionLedger | submissionProvenance | pendingScore | tokenBucket
  | velocityCapOverride | historicalMaxScore | scoreHistogram | modelStats | modelVersionIndex
  | welfordCorrState | pairCorrelation | aggregateScore | walletCluster | verkleCommitment
  | verkleLeaf | uniqueWalletsHll | trendState | jumpStats | breachCount | riskBandState
  | bandEntryTime | counterparties | scoreDelegate | watchlist | scoreEmbargo
  | embargoedWalletIndex | activeEmbargoCount | scoreDispute | disputeIndex | disputeCommit
  | disputeCommitTime | consensusCommitment | relayedAttestationUsed | gateReadLedger | paused
  | frozen | pairPaused | pausedPairIndex | epochOpen | currentEpoch | riskThreshold
  | jumpThreshold | historyMaxDepth | contractVersion | stalenessWindow | cooldownSecs
  | pairCooldown | adaptiveRateLimit | burstCapacity | scoreVelocityCapEnabled
  | scoreVelocityCapPointsPerHour | scoreFloorConfig | hysteresisMargin | escalationThreshold
  | finalityBufferSecs | finalityDepth | flashProtectionMode | hllPrecision | pairWeight
  | pairAssetClass
  | assetClassRiskThreshold | adaptiveThresholdEnabled | adaptiveThresholdTargetPct
  | adaptiveThresholdMinValue | adaptiveThresholdMaxValue | lastComputedThreshold | decayRate
  | globalMinConfidence | clusterBoundaries | pairVolatilityWindow | momentumWindow
  | momentumAlertThreshold | interpolationMethod | decayCurveConfig | dpEpsilon
  | consensusThresholdK
  | consensusEpsilon | adaptiveEpsilonEnabled | adaptiveEpsilonMin | adaptiveEpsilonMax
  | adaptiveEpsilonScaleFactor | revealWindowSecs | iqrRejectionMultiplier | allModelVersions
  | modelVersionStatus | modelVersionExecutableAfter | modelVersionDescription
  | modelPosteriorWeight | registeredOracle | oracleLastUpdated | oracleStalenessThreshold
  | lastServiceActivityAt | serviceHeartbeatAlertThreshold | serviceSilentAlertEmitted
  | failoverContract | contractWasm | pendingUpgrade | upgradeDelay | upgradeApprovals
  | parameterProposalNextId | parameterProposal | pendingParameterProposalIds |
    pendingParamChange | pendingPolicyBundle
  | deletionPolicyEnabled | deletionApprover | policyApprovalEnabled | policyApprovalApprover
  | requireDestructiveMultisig | rateLimitOverrideLog | archOwner | mandatoryReviewers
  | alertAcknowledgement | snapshotHistory | snapshotCount | backupRestoreRecord | adminAuditRoot
  | gateCallers | gateOpen | gateQueryFee | consumerReadQuota | registry | failureThreshold
  | dispatching | feeToken | feeRecipient | withdrawalLock | keeperRewardToken | keeperRewardPool
  | keeperRewardPerEntry | keeperRewardWindow | keeperRewardPerLedgerCap | keeperRewardLedgerSpent
  | relayTipToken | relayTipPool | relayTipAmount | relayTipWindowCap | relayTipWindowLedgers
  | relayTipWindowState | gateCreditToken | gateCreditBalance | gateCreditWithdrawalRequest
  | gateCreditWithdrawalDelay | gateCreditLiabilityTotal | gateCreditRevenue | feeTierSchedule
  | feeTierWindowLedgers | feeExemption | consumerVolumeWindow
  -- the places that are not entries
  | authorizations | balances
  deriving DecidableEq

/-- The variant of a key. -/
@[reducible] def DataKey.tag : DataKey → Tag
  | .admin => .admin | .service => .service | .pendingAdmin => .pendingAdmin
  | .adminSet => .adminSet | .adminThreshold => .adminThreshold | .serviceSet => .serviceSet
  | .serviceThreshold => .serviceThreshold | .signerTier _ => .signerTier
  | .signerNonce _ => .signerNonce | .signerAddedAt _ => .signerAddedAt | .signerTtl => .signerTtl
  | .signerGracePeriod => .signerGracePeriod | .signerState _ => .signerState
  | .signerAccuracy _ => .signerAccuracy | .signerRejectionCount _ => .signerRejectionCount
  | .servicePubKey => .servicePubKey | .pendingServicePubKey => .pendingServicePubKey
  | .aggregateServicePubKey => .aggregateServicePubKey
  | .pendingAggregateServicePubKey => .pendingAggregateServicePubKey
  | .revokedKey _ => .revokedKey | .revokedKeyIndex => .revokedKeyIndex | .score _ _ => .score
  | .scoreEntryIndex => .scoreEntryIndex
  | .scoreEntryLastTouchedLedger _ _ => .scoreEntryLastTouchedLedger
  | .scoreHistory _ _ => .scoreHistory | .assetPairs _ => .assetPairs
  | .scoreCount _ _ => .scoreCount | .pairScoreCount _ => .pairScoreCount
  | .totalWalletsScored => .totalWalletsScored | .lastSubmitTime _ _ => .lastSubmitTime
  | .lastGlobalSubmissionTime => .lastGlobalSubmissionTime
  | .scoreSubmissionLedger _ _ => .scoreSubmissionLedger
  | .submissionProvenance _ _ => .submissionProvenance | .pendingScore _ _ => .pendingScore
  | .tokenBucket _ _ => .tokenBucket | .velocityCapOverride _ _ => .velocityCapOverride
  | .historicalMaxScore _ _ => .historicalMaxScore | .scoreHistogram => .scoreHistogram
  | .modelStats _ => .modelStats | .modelVersionIndex => .modelVersionIndex
  | .welfordCorrState _ _ => .welfordCorrState | .pairCorrelation _ _ => .pairCorrelation
  | .aggregateScore _ => .aggregateScore | .walletCluster _ => .walletCluster
  | .verkleCommitment => .verkleCommitment | .verkleLeaf _ _ => .verkleLeaf
  | .uniqueWalletsHll _ => .uniqueWalletsHll | .trendState _ _ => .trendState
  | .jumpStats _ _ => .jumpStats | .breachCount _ _ => .breachCount
  | .riskBandState _ _ => .riskBandState | .bandEntryTime _ _ => .bandEntryTime
  | .counterparties _ _ => .counterparties | .scoreDelegate _ => .scoreDelegate
  | .watchlist _ => .watchlist | .scoreEmbargo _ => .scoreEmbargo
  | .embargoedWalletIndex => .embargoedWalletIndex | .activeEmbargoCount => .activeEmbargoCount
  | .scoreDispute _ _ => .scoreDispute | .disputeIndex => .disputeIndex
  | .disputeCommit _ _ _ => .disputeCommit | .disputeCommitTime _ _ _ => .disputeCommitTime
  | .consensusCommitment _ _ _ => .consensusCommitment
  | .relayedAttestationUsed _ => .relayedAttestationUsed | .gateReadLedger _ _ => .gateReadLedger
  | .paused => .paused | .frozen => .frozen | .pairPaused _ => .pairPaused
  | .pausedPairIndex => .pausedPairIndex | .epochOpen => .epochOpen
  | .currentEpoch => .currentEpoch | .riskThreshold => .riskThreshold
  | .jumpThreshold => .jumpThreshold | .historyMaxDepth => .historyMaxDepth
  | .contractVersion => .contractVersion | .stalenessWindow => .stalenessWindow
  | .cooldownSecs => .cooldownSecs | .pairCooldown _ => .pairCooldown
  | .adaptiveRateLimit => .adaptiveRateLimit | .burstCapacity => .burstCapacity
  | .scoreVelocityCapEnabled => .scoreVelocityCapEnabled
  | .scoreVelocityCapPointsPerHour => .scoreVelocityCapPointsPerHour
  | .scoreFloorConfig => .scoreFloorConfig | .hysteresisMargin => .hysteresisMargin
  | .escalationThreshold => .escalationThreshold | .finalityBufferSecs => .finalityBufferSecs
  | .finalityDepth => .finalityDepth
  | .flashProtectionMode => .flashProtectionMode | .hllPrecision => .hllPrecision
  | .pairWeight _ => .pairWeight | .pairAssetClass _ => .pairAssetClass
  | .assetClassRiskThreshold _ => .assetClassRiskThreshold
  | .adaptiveThresholdEnabled => .adaptiveThresholdEnabled
  | .adaptiveThresholdTargetPct => .adaptiveThresholdTargetPct
  | .adaptiveThresholdMinValue => .adaptiveThresholdMinValue
  | .adaptiveThresholdMaxValue => .adaptiveThresholdMaxValue
  | .lastComputedThreshold => .lastComputedThreshold | .decayRate => .decayRate
  | .globalMinConfidence => .globalMinConfidence | .clusterBoundaries => .clusterBoundaries
  | .pairVolatilityWindow => .pairVolatilityWindow | .momentumWindow => .momentumWindow
  | .momentumAlertThreshold => .momentumAlertThreshold
  | .interpolationMethod => .interpolationMethod | .decayCurveConfig => .decayCurveConfig
  | .dpEpsilon => .dpEpsilon
  | .consensusThresholdK => .consensusThresholdK | .consensusEpsilon => .consensusEpsilon
  | .adaptiveEpsilonEnabled => .adaptiveEpsilonEnabled
  | .adaptiveEpsilonMin => .adaptiveEpsilonMin | .adaptiveEpsilonMax => .adaptiveEpsilonMax
  | .adaptiveEpsilonScaleFactor => .adaptiveEpsilonScaleFactor
  | .revealWindowSecs => .revealWindowSecs | .iqrRejectionMultiplier => .iqrRejectionMultiplier
  | .allModelVersions => .allModelVersions | .modelVersionStatus _ => .modelVersionStatus
  | .modelVersionExecutableAfter _ => .modelVersionExecutableAfter
  | .modelVersionDescription _ => .modelVersionDescription
  | .modelPosteriorWeight _ => .modelPosteriorWeight | .registeredOracle _ => .registeredOracle
  | .oracleLastUpdated _ => .oracleLastUpdated
  | .oracleStalenessThreshold => .oracleStalenessThreshold
  | .lastServiceActivityAt => .lastServiceActivityAt
  | .serviceHeartbeatAlertThreshold => .serviceHeartbeatAlertThreshold
  | .serviceSilentAlertEmitted => .serviceSilentAlertEmitted
  | .failoverContract => .failoverContract | .contractWasm => .contractWasm
  | .pendingUpgrade => .pendingUpgrade
  | .upgradeDelay => .upgradeDelay | .upgradeApprovals => .upgradeApprovals
  | .parameterProposalNextId => .parameterProposalNextId
  | .parameterProposal _ => .parameterProposal
  | .pendingParameterProposalIds => .pendingParameterProposalIds
  | .pendingParamChange _ => .pendingParamChange | .pendingPolicyBundle => .pendingPolicyBundle
  | .deletionPolicyEnabled => .deletionPolicyEnabled | .deletionApprover => .deletionApprover
  | .policyApprovalEnabled _ => .policyApprovalEnabled
  | .policyApprovalApprover _ => .policyApprovalApprover
  | .requireDestructiveMultisig => .requireDestructiveMultisig
  | .rateLimitOverrideLog => .rateLimitOverrideLog | .archOwner => .archOwner
  | .mandatoryReviewers => .mandatoryReviewers | .alertAcknowledgement _ => .alertAcknowledgement
  | .snapshotHistory => .snapshotHistory | .snapshotCount => .snapshotCount
  | .backupRestoreRecord => .backupRestoreRecord | .adminAuditRoot => .adminAuditRoot
  | .gateCallers => .gateCallers | .gateOpen => .gateOpen | .gateQueryFee => .gateQueryFee
  | .consumerReadQuota _ => .consumerReadQuota | .registry => .registry
  | .failureThreshold => .failureThreshold | .dispatching => .dispatching | .feeToken => .feeToken
  | .feeRecipient => .feeRecipient | .withdrawalLock => .withdrawalLock
  | .keeperRewardToken => .keeperRewardToken | .keeperRewardPool => .keeperRewardPool
  | .keeperRewardPerEntry => .keeperRewardPerEntry | .keeperRewardWindow => .keeperRewardWindow
  | .keeperRewardPerLedgerCap => .keeperRewardPerLedgerCap
  | .keeperRewardLedgerSpent _ => .keeperRewardLedgerSpent | .relayTipToken => .relayTipToken
  | .relayTipPool => .relayTipPool | .relayTipAmount => .relayTipAmount
  | .relayTipWindowCap => .relayTipWindowCap | .relayTipWindowLedgers => .relayTipWindowLedgers
  | .relayTipWindowState => .relayTipWindowState | .gateCreditToken => .gateCreditToken
  | .gateCreditBalance _ => .gateCreditBalance
  | .gateCreditWithdrawalRequest _ => .gateCreditWithdrawalRequest
  | .gateCreditWithdrawalDelay => .gateCreditWithdrawalDelay
  | .gateCreditLiabilityTotal => .gateCreditLiabilityTotal
  | .gateCreditRevenue => .gateCreditRevenue | .feeTierSchedule => .feeTierSchedule
  | .feeTierWindowLedgers => .feeTierWindowLedgers | .feeExemption _ => .feeExemption
  | .consumerVolumeWindow _ => .consumerVolumeWindow

/-- The type of the entry stored under a key. -/
@[reducible] def Val : DataKey → Type
  | .admin | .service | .pendingAdmin | .scoreDelegate _ | .registeredOracle _ | .failoverContract
  | .deletionApprover | .policyApprovalApprover _ | .archOwner | .feeToken | .feeRecipient
  | .keeperRewardToken | .relayTipToken | .gateCreditToken => Address
  | .adminSet | .serviceSet | .counterparties _ _ | .embargoedWalletIndex | .upgradeApprovals
  | .mandatoryReviewers | .gateCallers => List Address
  | .adminThreshold | .serviceThreshold | .signerNonce _ | .signerAddedAt _ | .signerTtl
  | .signerGracePeriod | .signerRejectionCount _ | .scoreEntryLastTouchedLedger _ _
  | .scoreCount _ _ | .pairScoreCount _ | .totalWalletsScored | .lastSubmitTime _ _
  | .lastGlobalSubmissionTime | .scoreSubmissionLedger _ _ | .historicalMaxScore _ _
  | .walletCluster _ | .breachCount _ _ | .bandEntryTime _ _ | .activeEmbargoCount
  | .disputeCommitTime _ _ _ | .gateReadLedger _ _ | .currentEpoch | .riskThreshold
  | .jumpThreshold | .historyMaxDepth | .contractVersion | .stalenessWindow | .cooldownSecs
  | .pairCooldown _ | .burstCapacity | .scoreVelocityCapPointsPerHour | .hysteresisMargin
  | .escalationThreshold | .finalityBufferSecs | .finalityDepth | .hllPrecision | .pairWeight _
  | .assetClassRiskThreshold _ | .adaptiveThresholdTargetPct | .adaptiveThresholdMinValue
  | .adaptiveThresholdMaxValue | .lastComputedThreshold | .globalMinConfidence
  | .pairVolatilityWindow | .momentumWindow | .momentumAlertThreshold | .dpEpsilon
  | .consensusThresholdK | .consensusEpsilon | .adaptiveEpsilonMin | .adaptiveEpsilonMax
  | .adaptiveEpsilonScaleFactor | .revealWindowSecs | .iqrRejectionMultiplier
  | .modelVersionExecutableAfter _ | .modelPosteriorWeight _ | .oracleLastUpdated _
  | .oracleStalenessThreshold | .lastServiceActivityAt | .serviceHeartbeatAlertThreshold
  | .upgradeDelay | .parameterProposalNextId | .snapshotCount | .failureThreshold
  | .keeperRewardWindow | .relayTipWindowLedgers | .gateCreditWithdrawalDelay
  | .feeTierWindowLedgers => Nat
  | .signerTier _ => TierBounds
  | .signerState _ => SignerStateRecord
  | .signerAccuracy _ => SignerAccuracyRecord
  | .servicePubKey | .aggregateServicePubKey | .verkleCommitment | .verkleLeaf _ _
  | .modelVersionDescription _ => Bytes
  | .pendingServicePubKey | .pendingAggregateServicePubKey => Bytes × Nat
  | .revokedKey _ => RevokedKeyRecord
  | .revokedKeyIndex => List (BytesN 32)
  | .score _ _ => RiskScore
  | .scoreEntryIndex | .disputeIndex => List Entry
  | .scoreHistory _ _ => List RiskScore
  | .assetPairs _ | .pausedPairIndex => List Symbol
  | .submissionProvenance _ _ => SubmissionProvenance
  | .pendingScore _ _ => PendingScoreEntry
  | .tokenBucket _ _ => TokenBucket
  | .velocityCapOverride _ _ | .riskBandState _ _ | .watchlist _ | .relayedAttestationUsed _
  | .paused | .frozen | .pairPaused _ | .epochOpen | .scoreVelocityCapEnabled
  | .adaptiveThresholdEnabled | .adaptiveEpsilonEnabled | .serviceSilentAlertEmitted
  | .deletionPolicyEnabled | .policyApprovalEnabled _ | .requireDestructiveMultisig | .gateOpen
  | .dispatching | .withdrawalLock => Bool
  | .scoreHistogram | .modelVersionIndex | .clusterBoundaries | .allModelVersions
  | .pendingParameterProposalIds => List Nat
  | .modelStats _ => ModelVersionStats
  | .welfordCorrState _ _ => WelfordCorrState
  | .pairCorrelation _ _ | .gateQueryFee | .keeperRewardPool | .keeperRewardPerEntry
  | .keeperRewardPerLedgerCap | .keeperRewardLedgerSpent _ | .relayTipPool | .relayTipAmount
  | .relayTipWindowCap | .gateCreditBalance _ | .gateCreditLiabilityTotal |
    .gateCreditRevenue => Int
  | .aggregateScore _ => AggregateRiskScore
  | .uniqueWalletsHll _ => HllSketch
  | .trendState _ _ => ScoreTrend
  | .jumpStats _ _ => JumpStats
  | .scoreEmbargo _ => EmbargoExpiry
  | .scoreDispute _ _ => ScoreDispute
  | .disputeCommit _ _ _ | .consensusCommitment _ _ _ | .contractWasm | .adminAuditRoot => BytesN 32
  | .adaptiveRateLimit => AdaptiveRateLimit
  | .scoreFloorConfig => Bool × Nat × Nat
  | .flashProtectionMode => FlashProtectionMode
  | .pairAssetClass _ => Symbol
  | .decayRate | .feeExemption _ | .consumerVolumeWindow _ => Nat × Nat
  | .interpolationMethod => InterpolationMethod
  | .decayCurveConfig => DecayCurve
  | .modelVersionStatus _ => ModelVersionStatus
  | .pendingUpgrade => UpgradeProposal
  | .parameterProposal _ => ParameterProposalRecord
  | .pendingParamChange _ => ParamChangeProposal
  | .pendingPolicyBundle => PolicyBundleProposal
  | .rateLimitOverrideLog => List RateLimitOverrideEntry
  | .alertAcknowledgement _ => AlertAckRecord
  | .snapshotHistory => List SnapshotHistoryEntry
  | .backupRestoreRecord => BackupRecord
  | .consumerReadQuota _ => ConsumerReadQuota
  | .registry => List ScoreChangeHook
  | .relayTipWindowState => Nat × Int
  | .gateCreditWithdrawalRequest _ => Int × Nat
  | .feeTierSchedule => List FeeTier

/-- The events published by the entry points that handle scores. -/
inductive Event where
  | scoreSubmitted (wallet : Address) (assetPair : Symbol) (score : RiskScore)
  | scorePending (wallet : Address) (assetPair : Symbol) (commitAfter : Nat)
  | scoreCommitted (wallet : Address) (assetPair : Symbol)
  | scorePendingCancelled (wallet : Address) (assetPair : Symbol) (admin : Address)
  | scoreCleared (audit : DeletionAudit)
  | scoreHistoryCleared (audit : DeletionAudit)
  | thresholdBreached (wallet : Address) (assetPair : Symbol) (score threshold : Nat)
  | escalationTriggered (wallet : Address) (assetPair : Symbol) (count score threshold : Nat)
  | escalationResolved (wallet : Address) (assetPair : Symbol) (count score : Nat)
  | riskBandEntered (wallet : Address) (assetPair : Symbol) (score threshold : Nat)
  | riskBandCleared (wallet : Address) (assetPair : Symbol) (score threshold : Nat)
  | scoreDelta (wallet : Address) (assetPair : Symbol) (previous new deltaAbs : Nat)
      (trend : Int) (consecutive : Nat)
  | scoreJumpAnomaly (wallet : Address) (assetPair : Symbol) (previous new : Nat) (delta : Int)
      (modelVersion timestamp : Nat)
  | walletClusterAssigned (wallet : Address) (cluster : Nat)
  | suspiciousSameLedgerSubmission (wallet : Address) (assetPair : Symbol) (sequence : Nat)
  | serviceResumed (lastActiveAt gapSecs : Nat)
  | serviceSilenceAlert (lastActiveAt silentSecs thresholdSecs : Nat)
  | signerExpired (signer : Address)
  | signerExpiring (signer : Address)
  | signerAccuracyUpdated (signer : Address) (madScaled count : Nat)
  | consensusSignerRejected (signer : Address) (deviation : Nat)
  | consensusScoreSubmitted (wallet : Address) (assetPair : Symbol)
      (medianScore agreeingModelCount epsilon : Nat)
  | batchAttested (merkleRoot : BytesN 32) (accepted rejected : Nat)
  | contagionPropagated (anchor : Address) (assetPair : Symbol) (counterparty : Address)
      (old new : Nat)
  | counterpartyLinkAdded (walletA walletB : Address) (assetPair : Symbol)
  | counterpartyLinkRemoved (walletA walletB : Address) (assetPair : Symbol)
  | disputeOpened (challenger : Address) (assetPair : Symbol) (bond : Int) (deadline : Nat)
  | disputeResolved (challenger : Address) (assetPair : Symbol) (correctedScore : Nat)
      (bondReturned : Int)
  | disputeTimedOut (challenger : Address) (assetPair : Symbol) (bond bonus : Int)
  | relayAccepted (relayer wallet : Address) (assetPair : Symbol)
  | relayDuplicateNoop (relayer : Address)
  | relayTipPaid (relayer : Address) (amount : Int)
  | scoreHookAutoDisabled (consumer wallet : Address) (assetPair : Symbol)
      (consecutiveFailures : Nat)
  | upgradeExecuted (newWasmHash : BytesN 32)
  deriving DecidableEq

/-- Behaviour of code outside the contract. `updateAccumulator` is
`verkle::update_accumulator` and `stalenessWindowBounds` the range of the
staleness window; the source uses both without defining them. `onScoreChange`
says whether the callback of a hook succeeds, `getPrice` is the price an oracle
quotes and `getScoreOpt` the score another score contract holds. Code called
this way cannot call back into the contract: the host forbids re-entry. -/
structure External where
  updateAccumulator : BytesN 32 → BytesN 32 → BytesN 32 → BytesN 32
  stalenessWindowBounds : Nat × Nat
  onScoreChange : Address → Address → Symbol → RiskScore → Nat → Bool
  getPrice : Address → Symbol → Int
  getScoreOpt : Address → Address → Symbol → Option RiskScore

abbrev ContractEnv := Env External

abbrev State := World DataKey Val Event

/-- Functions of the contract. -/
abbrev M := Prog ContractEnv Error State

/-! ### Storage access at the contract's keys -/

section

variable (d : Durability) (k : DataKey) (v : Val k)

abbrev fetch : M (Option (Val k)) := load d k

abbrev fetchOr (default : Val k) : M (Val k) := loadOr d k default

abbrev stored : M Bool := has d k

abbrev store : M Unit := save d k v

abbrev remove : M Unit := erase d k

/-- Store a value, or remove the entry when there is none. -/
abbrev storeOption (v : Option (Val k)) : M Unit :=
  v.elim (remove d k) (store d k)

end

/-- The time of the current ledger. -/
abbrev now : M Nat := Prog.asks Env.timestamp

/-- The number of the current ledger. -/
abbrev ledgerSequence : M Nat := Prog.asks Env.sequence

/-- The host's hash function. -/
abbrev sha256 (bytes : Bytes) : M (BytesN 32) := Prog.asks fun env => env.crypto.sha256 bytes

/-- The tag of a place. -/
@[reducible] def placeTag : Place DataKey → Tag
  | .entry k => k.tag
  | .authorizations => .authorizations
  | .balances => .balances

/-- Footprints of contract functions. -/
abbrev Touches {α : Type} (m : M α) (ts : outParam (List Tag)) : Prop :=
  Footprint placeTag m ts

end LedgerLens
