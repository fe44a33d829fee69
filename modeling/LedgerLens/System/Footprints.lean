import LedgerLens.System.Calls

/-!
Which places each entry point may change. The table is what every argument about
whole runs starts from: a call whose footprint misses a family of places leaves
all of them alone.
-/

namespace LedgerLens

open Host Host.Prog Storage

def userFootprint : UserCall → List Tag
  | .initializeContract .. => [.authorizations, .admin, .service, .adminAuditRoot]
  | .submitScore .. => submitTags
  | .relayAttestedScore .. => relayTags
  | .submitScoresBatch .. =>
    .authorizations :: .serviceSilentAlertEmitted :: .lastServiceActivityAt :: batchTags
  | .submitScoresBatchAttested .. =>
    .authorizations :: .servicePubKey :: .pendingServicePubKey :: .lastGlobalSubmissionTime ::
      attestedTags
  | .commitConsensus .. => [.authorizations, .consensusCommitment]
  | .revealConsensus .. => revealTags
  | .submitConsensusScore .. => consensusTags
  | .commitPendingScore .. => commitTags
  | .addCounterpartyLink .. | .removeCounterpartyLink .. => [.counterparties]
  | .propagateContagion .. => [.score, .scoreEntryIndex, .scoreEntryLastTouchedLedger]
  | .commitDisputeBond .. => [.authorizations, .disputeCommit, .disputeCommitTime]
  | .openScoreDispute .. =>
    [.authorizations, .balances, .disputeCommit, .disputeCommitTime, .disputeIndex,
      .scoreDispute]
  | .resolveDisputeTimeout .. => [.balances, .scoreDispute, .disputeIndex]
  | .registerScoreChangeHook .. | .unregisterScoreChangeHook .. => [.authorizations, .registry]
  | .dispatchScoreChangeHooks .. => [.authorizations, .dispatching, .registry]
  | .acceptAdmin => [.authorizations, .admin, .pendingAdmin]
  | .pingHeartbeat => [.authorizations, .serviceSilentAlertEmitted, .lastServiceActivityAt]
  | .setArchOwner .. => [.authorizations, .archOwner]
  | .setMandatoryReviewers .. => [.authorizations, .mandatoryReviewers]
  | .applyParamChange .. =>
    [.upgradeDelay, .stalenessWindow, .riskThreshold, .historyMaxDepth,
      .pendingParamChange]
  | .applyPolicyBundle => [.riskThreshold, .cooldownSecs, .pendingPolicyBundle]
  | .recomputeAdaptiveThreshold => [.lastComputedThreshold]
  | .vetoParameterChange .. =>
    [.authorizations, .parameterProposal, .pendingParameterProposalIds]
  | .getParameterProposal .. => [.parameterProposal, .pendingParameterProposalIds]
  | .keeperExtendEntryTtls .. =>
    [.authorizations, .balances, .scoreEntryIndex, .scoreEntryLastTouchedLedger,
      .keeperRewardPool, .keeperRewardLedgerSpent]
  | .depositGateCredits .. =>
    [.authorizations, .balances, .gateCreditBalance, .gateCreditLiabilityTotal]
  | .withdrawGateCreditsRequest .. => [.authorizations, .gateCreditWithdrawalRequest]
  | .withdrawGateCredits .. =>
    [.authorizations, .balances, .gateCreditWithdrawalRequest, .gateCreditBalance,
      .gateCreditLiabilityTotal]
  | .checkServiceSilence => [.serviceSilentAlertEmitted]
  | .queryRiskGate .. => [.gateReadLedger, .serviceSilentAlertEmitted, .consumerReadQuota]
  | .queryRiskGateWithConfidence .. => [.serviceSilentAlertEmitted, .consumerReadQuota]
  | .queryRiskGateMetered .. =>
    [.authorizations, .serviceSilentAlertEmitted, .consumerReadQuota]
  | .queryRiskGatePrepaid .. =>
    [.authorizations, .consumerVolumeWindow, .gateCreditBalance, .gateCreditLiabilityTotal,
      .gateCreditRevenue, .serviceSilentAlertEmitted, .consumerReadQuota]
  | .getEffectiveScore .. => [.oracleLastUpdated]

/-- Beside the authorisations. -/
def adminFootprint : AdminCall → List Tag
  | .cancelPendingScore .. => [.pendingScore]
  | .resolveDisputeAdmin .. => resolveTags
  | .clearScoreHistoryWithAudit .. => [.scoreHistogram, .scoreHistory]
  | .clearScoreWithAudit .. => [.scoreHistogram, .score, .assetPairs, .scoreEntryIndex]
  | .setScoreHookFailureThreshold .. => [.failureThreshold]
  | .setHistoryMaxDepth .. | .setUpgradeDelay .. | .setRiskThreshold ..
  | .setStalenessWindow .. => [.pendingParamChange]
  | .proposePolicyBundle .. => [.pendingPolicyBundle]
  | .enableAdaptiveThreshold .. =>
    [.adaptiveThresholdEnabled, .adaptiveThresholdTargetPct, .adaptiveThresholdMinValue,
      .adaptiveThresholdMaxValue]
  | .disableAdaptiveThreshold => [.adaptiveThresholdEnabled]
  | .setAssetClassPolicy .. => [.assetClassRiskThreshold]
  | .setPairAssetClass .. => [.pairAssetClass]
  | .setEscalationThreshold .. => [.escalationThreshold]
  | .resetBreachCount .. | .resetBreachCounter .. => [.breachCount]
  | .setJumpThreshold .. => [.jumpThreshold]
  | .setCooldown .. => [.cooldownSecs]
  | .setPairCooldown .. | .clearPairCooldown .. => [.pairCooldown]
  | .setAdaptiveRateLimit .. => [.adaptiveRateLimit]
  | .overrideRateLimit .. => [.lastSubmitTime, .rateLimitOverrideLog]
  | .batchOverrideRateLimit .. => [.lastSubmitTime]
  | .setScoreVelocityCap .. => [.scoreVelocityCapEnabled, .scoreVelocityCapPointsPerHour]
  | .overrideScoreVelocityCap .. => [.velocityCapOverride]
  | .setScoreFloorPolicy .. => [.scoreFloorConfig]
  | .overrideScoreFloor .. => [.historicalMaxScore]
  | .setFinalityBuffer .. => [.finalityBufferSecs]
  | .setFlashProtectionMode .. => [.flashProtectionMode]
  | .setHeartbeatAlertThreshold .. => [.serviceHeartbeatAlertThreshold]
  | .setPairWeight .. | .setPairWeightBatch .. | .bulkResetPairWeight .. => [.pairWeight]
  | .setDestructiveMultisig .. => [.requireDestructiveMultisig]
  | .setClusterBoundaries .. => [.clusterBoundaries]
  | .setPairVolatilityWindow .. => [.pairVolatilityWindow]
  | .setHllPrecision .. => [.hllPrecision]
  | .setPrivacyEpsilon .. => [.dpEpsilon]
  | .setAdaptiveEpsilonBounds .. =>
    [.adaptiveEpsilonEnabled, .adaptiveEpsilonMin, .adaptiveEpsilonMax]
  | .transferAdmin .. | .cancelAdminTransfer => [.pendingAdmin]
  | .addAdminSigner .. => [.adminSet, .upgradeApprovals]
  | .removeAdminSigner .. => [.adminSet, .adminThreshold, .upgradeApprovals]
  | .setAdminThreshold .. => [.adminThreshold, .adminAuditRoot]
  | .addServiceSigner .. => [.serviceSet, .signerAddedAt, .signerState, .adminAuditRoot]
  | .removeServiceSigner .. => [.serviceSet, .serviceThreshold, .signerAddedAt, .signerState]
  | .setServiceThreshold .. => [.serviceThreshold]
  | .setSignerTier .. | .bulkSetSignerTier .. => [.signerTier]
  | .setSignerRotationTtl .. => [.signerTtl]
  | .setSignerRotationGrace .. => [.signerGracePeriod]
  | .resetSignerAccuracy .. => [.signerAccuracy]
  | .setServicePubkey .. => [.servicePubKey]
  | .rotateServicePubkey .. => [.pendingServicePubKey, .servicePubKey]
  | .setAggregateServicePubkey .. => [.aggregateServicePubKey]
  | .rotateAggregateServicePubkey .. => [.pendingAggregateServicePubKey, .aggregateServicePubKey]
  | .setRevokedKey .. | .clearRevokedKey .. => [.revokedKey, .revokedKeyIndex]
  | .setDeletionApprovalPolicy .. => [.deletionPolicyEnabled, .deletionApprover]
  | .setPolicyApproval .. => [.policyApprovalEnabled, .policyApprovalApprover]
  | .pause | .unpause => [.paused, .adminAuditRoot]
  | .freezeContract | .unfreezeContract => [.frozen, .adminAuditRoot]
  | .openEpoch .. => [.currentEpoch, .epochOpen]
  | .closeEpoch => [.epochOpen]
  | .proposeUpgrade .. => [.upgradeApprovals, .pendingUpgrade, .adminAuditRoot]
  | .executeUpgrade => [.contractWasm, .pendingUpgrade]
  | .vetoUpgrade => [.pendingUpgrade]
  | .proposeParameterChange .. =>
    [.parameterProposal, .pendingParameterProposalIds, .parameterProposalNextId]
  | .executeParameterChange .. =>
    [.cooldownSecs, .historyMaxDepth, .decayRate, .scoreVelocityCapEnabled,
      .scoreVelocityCapPointsPerHour, .upgradeDelay, .stalenessWindow, .parameterProposal,
      .pendingParameterProposalIds]
  | .cleanupExpiredParamProposals => [.parameterProposal]
  | .computeStateChecksum => [.snapshotHistory, .snapshotCount, .adminAuditRoot]
  | .acknowledgeAlert .. => [.alertAcknowledgement]
  | .setWatchlist .. | .batchAddToWatchlist .. | .batchRemoveFromWatchlist .. => [.watchlist]
  | .batchLiftScoreEmbargo .. => [.scoreEmbargo, .activeEmbargoCount]
  | .revokeAllEmbargoes => [.scoreEmbargo, .embargoedWalletIndex, .activeEmbargoCount]
  | .proposeModelVersion .. =>
    [.allModelVersions, .modelVersionStatus, .modelVersionExecutableAfter,
      .modelVersionDescription]
  | .approveModelVersion .. | .deprecateModelVersion .. | .bulkDeregisterModelVersion .. =>
    [.modelVersionStatus]
  | .registerModelVersion .. => [.allModelVersions, .modelVersionStatus]
  | .registerOracle .. => [.registeredOracle]
  | .removeOracle .. => [.registeredOracle, .oracleLastUpdated]
  | .setOracleStalenessThreshold .. => [.oracleStalenessThreshold]
  | .setGateCallers .. => [.gateCallers]
  | .setGateEnforcementMode .. => [.gateOpen]
  | .setFailoverContract .. => [.failoverContract]
  | .setConsumerReadQuota .. | .clearConsumerReadQuota .. => [.consumerReadQuota]
  | .setFeeRecipient .. => [.feeRecipient]
  | .withdrawFees .. => [.balances, .withdrawalLock]
  | .setKeeperRewardToken .. => [.keeperRewardToken]
  | .fundKeeperRewardPool .. => [.balances, .keeperRewardPool]
  | .setKeeperRewardParams .. =>
    [.keeperRewardPerEntry, .keeperRewardWindow, .keeperRewardPerLedgerCap]
  | .extendEntryTtls .. => [.scoreEntryIndex, .scoreEntryLastTouchedLedger]
  | .setRelayTipToken .. => [.relayTipToken]
  | .fundRelayTipPool .. => [.balances, .relayTipPool]
  | .setRelayTipParams .. => [.relayTipAmount, .relayTipWindowCap, .relayTipWindowLedgers]
  | .setGateCreditToken .. => [.gateCreditToken]
  | .setGateCreditWithdrawalDelay .. => [.gateCreditWithdrawalDelay]
  | .withdrawGateCreditRevenue .. => [.balances, .gateCreditRevenue]
  | .setFeeTierSchedule .. => [.feeTierSchedule]
  | .setFeeTierWindowLedgers .. => [.feeTierWindowLedgers]
  | .setFeeExemption .. | .clearFeeExemption .. => [.feeExemption]

/-- Beside the authorisations. -/
def soleAdminFootprint : SoleAdminCall → List Tag
  | .setHysteresisMargin .. => [.hysteresisMargin]
  | .setGlobalMinConfidence .. => [.globalMinConfidence]
  | .setBurstCapacity .. => [.burstCapacity]
  | .setDecayRate .. => [.decayRate]
  | .setPairCorrelation .. => [.pairCorrelation]
  | .resetPairCorrelation .. => [.welfordCorrState]
  | .setInterpolationMethod .. => [.interpolationMethod]
  | .setMomentumWindow .. => [.momentumWindow]
  | .setMomentumAlertThreshold .. => [.momentumAlertThreshold]
  | .setConsensusConfig .. => [.consensusThresholdK, .consensusEpsilon]
  | .setAdaptiveEpsilon .. => [.adaptiveEpsilonEnabled, .adaptiveEpsilonScaleFactor]
  | .setRevealWindow .. => [.revealWindowSecs]
  | .setService .. => [.service, .adminAuditRoot]
  | .setPairPaused .. => [.pausedPairIndex, .pairPaused]
  | .setScoreEmbargo .. => [.embargoedWalletIndex, .scoreEmbargo, .activeEmbargoCount]
  | .liftScoreEmbargo .. => [.scoreEmbargo, .embargoedWalletIndex, .activeEmbargoCount]
  | .setScoreDelegate .. | .removeScoreDelegate .. => [.scoreDelegate]
  | .setGateQueryFee .. => [.gateQueryFee]
  | .setFeeToken .. => [.feeToken]

def footprint : Call → List Tag
  | .user call => userFootprint call
  | .admins _ call => .authorizations :: adminFootprint call
  | .soleAdmin call => .authorizations :: soleAdminFootprint call

set_option synthInstance.maxSize 100000000 in
theorem execUser_keeps (call : UserCall) :
    Keeps (Only placeTag (userFootprint call)) (execUser call) := by
  cases call <;> (dsimp only [execUser, userFootprint]; infer_instance)

set_option synthInstance.maxSize 100000000 in
theorem execAdmins_keeps (signers : List Address) (call : AdminCall) :
    Keeps (Only placeTag (.authorizations :: adminFootprint call)) (execAdmins signers call) := by
  cases call <;> (dsimp only [execAdmins, adminFootprint]; infer_instance)

set_option synthInstance.maxSize 100000000 in
theorem execSoleAdmin_keeps (call : SoleAdminCall) :
    Keeps (Only placeTag (.authorizations :: soleAdminFootprint call)) (execSoleAdmin call) := by
  cases call <;> (dsimp only [execSoleAdmin, soleAdminFootprint]; infer_instance)

instance exec_keeps (call : Call) : Keeps (Only placeTag (footprint call)) (exec call) :=
  match call with
  | .user call => execUser_keeps call
  | .admins signers call => execAdmins_keeps signers call
  | .soleAdmin call => execSoleAdmin_keeps call

/-- A transaction leaves every entry outside the footprint of its call alone. -/
theorem step_entry {w : State} {tx : Transaction} {d : Durability} {k : DataKey}
    (outside : k.tag ∉ footprint tx.call) :
    (step exec w tx).ledger.entry d k = w.ledger.entry d k :=
  invoke_entry (exec_keeps tx.call) tx.env w d outside

end LedgerLens
