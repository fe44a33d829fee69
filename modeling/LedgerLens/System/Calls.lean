import LedgerLens.Admin.Accounts
import LedgerLens.Admin.Governance
import LedgerLens.Entry.Batch
import LedgerLens.Entry.Consensus
import LedgerLens.Entry.Contagion
import LedgerLens.Entry.Hooks
import LedgerLens.Entry.Queries
import LedgerLens.Host.Runs
import LedgerLens.Host.Sha256

/-!
The contract as a whole: every entry point that can change its state, and what
each of them runs. Entry points that only call another one (`clear_score`,
`auto_commit_score`, `set_escrow_hold_window`) are represented by the one they
call, and readers whose only trace is the alert about a silent service by that
alert.
-/

namespace LedgerLens

open Host Host.Prog Storage

/-! ### Calls -/

/-- Entry points that do not ask the administrators. -/
inductive UserCall where
  | initializeContract (admin service : Address)
  | submitScore (signers : List Address) (sub : ScoreSubmission)
      (input : Option ScoreAttestationInput)
  | relayAttestedScore (relayer : Address) (sub : ScoreSubmission)
      (attestation : RelayScoreAttestation)
  | submitScoresBatch (submissions : List ScoreSubmission)
  | submitScoresBatchAttested (signers : List Address)
      (submissions : List ScoreSubmissionWithProof) (attestation : BatchAttestation)
  | commitConsensus (model wallet : Address) (assetPair : Symbol) (commitment : BytesN 32)
  | revealConsensus (signers : List Address) (wallet : Address) (assetPair : Symbol)
      (submissions : List ModelSubmission) (nonces : List Nat) (timestamp : Nat)
  | submitConsensusScore (signers : List Address) (wallet : Address) (assetPair : Symbol)
      (submissions : List ModelSubmission) (timestamp : Nat)
  | commitPendingScore (wallet : Address) (assetPair : Symbol)
  | addCounterpartyLink (walletA walletB : Address) (assetPair : Symbol)
  | removeCounterpartyLink (walletA walletB : Address) (assetPair : Symbol)
  | propagateContagion (anchor : Address) (assetPair : Symbol) (boost : Nat)
  | commitDisputeBond (challenger wallet : Address) (assetPair : Symbol) (bondAmountSalt : Bytes)
  | openScoreDispute (challenger wallet : Address) (assetPair : Symbol) (bond : Int)
      (bondSalt : Bytes)
  | resolveDisputeTimeout (wallet : Address) (assetPair : Symbol)
  | registerScoreChangeHook (consumer wallet : Address) (assetPair : Symbol)
  | unregisterScoreChangeHook (consumer wallet : Address) (assetPair : Symbol)
  | dispatchScoreChangeHooks (dispatcher wallet : Address) (assetPair : Symbol)
  | acceptAdmin
  | pingHeartbeat
  | setArchOwner (newOwner : Address)
  | setMandatoryReviewers (reviewers : List Address)
  | applyParamChange (key : Symbol)
  | applyPolicyBundle
  | recomputeAdaptiveThreshold
  | vetoParameterChange (serviceSigners : List Address) (id : Nat)
  | getParameterProposal (id : Nat)
  | keeperExtendEntryTtls (keeper : Address) (entries : List Entry)
  | depositGateCredits (depositor : Address) (amount : Int)
  | withdrawGateCreditsRequest (depositor : Address) (amount : Int)
  | withdrawGateCredits (depositor : Address)
  | checkServiceSilence
  | queryRiskGate (wallet : Address) (assetPair : Symbol) (gateThreshold : Nat)
  | queryRiskGateWithConfidence (wallet : Address) (assetPair : Symbol)
      (gateThreshold minConfidence : Nat)
  | queryRiskGateMetered (consumer wallet : Address) (assetPair : Symbol) (gateThreshold : Nat)
  | queryRiskGatePrepaid (consumer wallet : Address) (assetPair : Symbol) (gateThreshold : Nat)
  | getEffectiveScore (wallet : Address) (assetPair : Symbol)

/-- Entry points under the quorum of the administrators. -/
inductive AdminCall where
  -- scores
  | cancelPendingScore (wallet : Address) (assetPair : Symbol)
  | resolveDisputeAdmin (wallet : Address) (assetPair : Symbol) (correctedScore : Nat)
  | clearScoreHistoryWithAudit (wallet : Address) (assetPair : Symbol) (reason category : Bytes)
  | clearScoreWithAudit (wallet : Address) (assetPair : Symbol) (reason category : Bytes)
  | setScoreHookFailureThreshold (threshold : Nat)
  -- settings
  | setHistoryMaxDepth (depth : Nat)
  | setUpgradeDelay (delaySecs : Nat)
  | setRiskThreshold (threshold : Nat)
  | setStalenessWindow (windowSecs : Nat)
  | proposePolicyBundle (riskThreshold cooldownSecs : Nat)
  | enableAdaptiveThreshold (targetPercentile minValue maxValue : Nat)
  | disableAdaptiveThreshold
  | setAssetClassPolicy (class_ : Symbol) (riskThreshold : Nat)
  | setPairAssetClass (assetPair class_ : Symbol)
  | setEscalationThreshold (n : Nat)
  | resetBreachCount (wallet : Address) (assetPair : Symbol)
  | resetBreachCounter (wallet : Address) (assetPair : Symbol)
  | setJumpThreshold (threshold : Nat)
  | setCooldown (secs : Nat)
  | setPairCooldown (assetPair : Symbol) (secs : Nat)
  | clearPairCooldown (assetPair : Symbol)
  | setAdaptiveRateLimit (enabled : Bool) (varianceScale : Nat)
  | overrideRateLimit (wallet : Address) (assetPair : Symbol) (justification : Bytes)
  | batchOverrideRateLimit (entries : List Entry)
  | setScoreVelocityCap (enabled : Bool) (pointsPerHour : Nat)
  | overrideScoreVelocityCap (wallet : Address) (assetPair : Symbol)
  | setScoreFloorPolicy (enabled : Bool) (highWaterMark floorValue : Nat)
  | overrideScoreFloor (wallet : Address) (assetPair : Symbol)
  | setFinalityBuffer (secs : Nat)
  | setFlashProtectionMode (mode : FlashProtectionMode)
  | setHeartbeatAlertThreshold (secs : Nat)
  | setPairWeight (assetPair : Symbol) (weight : Nat)
  | setPairWeightBatch (entries : List (Symbol × Nat))
  | bulkResetPairWeight (pairs : List Symbol)
  | setDestructiveMultisig (required : Bool)
  | setClusterBoundaries (boundaries : List Nat)
  | setPairVolatilityWindow (secs : Nat)
  | setHllPrecision (precision : Nat)
  | setPrivacyEpsilon (epsilonBps : Nat)
  | setAdaptiveEpsilonBounds (enabled : Bool) (minEpsilon maxEpsilon : Nat)
  -- accounts
  | transferAdmin (newAdmin : Address)
  | cancelAdminTransfer
  | addAdminSigner (signer : Address)
  | removeAdminSigner (signer : Address)
  | setAdminThreshold (threshold : Nat)
  | addServiceSigner (signer : Address)
  | removeServiceSigner (signer : Address)
  | setServiceThreshold (threshold : Nat)
  | setSignerTier (signer : Address) (minScore maxScore : Nat)
  | bulkSetSignerTier (entries : List (Address × Nat × Nat))
  | setSignerRotationTtl (ttlSecs : Nat)
  | setSignerRotationGrace (graceSecs : Nat)
  | resetSignerAccuracy (signer : Address)
  | setServicePubkey (pubkey : Bytes)
  | rotateServicePubkey (newKey : Bytes) (overlapSecs : Nat)
  | setAggregateServicePubkey (pubkey : Bytes)
  | rotateAggregateServicePubkey (newKey : Bytes) (overlapSecs : Nat)
  | setRevokedKey (fingerprint : BytesN 32) (effectiveFrom reasonCode : Nat)
      (revokingAuthority : Address)
  | clearRevokedKey (fingerprint : BytesN 32)
  | setDeletionApprovalPolicy (enabled : Bool) (approver : Option Address)
  | setPolicyApproval (policy : Policy) (enabled : Bool) (approver : Option Address)
  -- governance
  | pause
  | unpause
  | freezeContract
  | unfreezeContract
  | openEpoch (epochId : Nat)
  | closeEpoch
  | proposeUpgrade (newWasmHash : BytesN 32)
  | executeUpgrade
  | vetoUpgrade
  | proposeParameterChange (paramKey : Symbol) (newValue : Bytes)
  | executeParameterChange (id : Nat)
  | cleanupExpiredParamProposals
  | computeStateChecksum
  | acknowledgeAlert (alert : AlertType) (noteHash : BytesN 32)
  -- registries
  | setWatchlist (wallet : Address) (flagged : Bool)
  | batchAddToWatchlist (wallets : List Address)
  | batchRemoveFromWatchlist (wallets : List Address)
  | batchLiftScoreEmbargo (wallets : List Address)
  | revokeAllEmbargoes
  | proposeModelVersion (version : Nat) (description : Bytes)
  | approveModelVersion (version : Nat)
  | registerModelVersion (version : Nat)
  | deprecateModelVersion (version : Nat)
  | bulkDeregisterModelVersion (versions : List Nat)
  | registerOracle (assetPair : Symbol) (oracleContract : Address)
  | removeOracle (assetPair : Symbol)
  | setOracleStalenessThreshold (thresholdSecs : Nat)
  | setGateCallers (callers : List Address)
  | setGateEnforcementMode (strict : Bool)
  | setFailoverContract (contractId : Address)
  | setConsumerReadQuota (consumer : Address) (capacity refillRate : Nat)
  | clearConsumerReadQuota (consumer : Address)
  -- fees
  | setFeeRecipient (recipient : Address)
  | withdrawFees (recipient : Address) (amount : Int)
  | setKeeperRewardToken (token : Address)
  | fundKeeperRewardPool (amount : Int)
  | setKeeperRewardParams (rewardPerEntry : Int) (windowLedgers : Nat) (perLedgerCap : Int)
  | extendEntryTtls (entries : List Entry)
  | setRelayTipToken (token : Address)
  | fundRelayTipPool (amount : Int)
  | setRelayTipParams (amount windowCap : Int) (windowLedgers : Nat)
  | setGateCreditToken (token : Address)
  | setGateCreditWithdrawalDelay (delaySecs : Nat)
  | withdrawGateCreditRevenue (recipient : Address) (amount : Int)
  | setFeeTierSchedule (tiers : List FeeTier)
  | setFeeTierWindowLedgers (windowLedgers : Nat)
  | setFeeExemption (consumer : Address) (expiresAt reasonCode : Nat)
  | clearFeeExemption (consumer : Address)

/-- Entry points that ask the admin alone. -/
inductive SoleAdminCall where
  | setHysteresisMargin (margin : Nat)
  | setGlobalMinConfidence (minConfidence : Nat)
  | setBurstCapacity (capacity : Nat)
  | setDecayRate (numerator denominator : Nat)
  | setPairCorrelation (pairA pairB : Symbol) (corr : Int)
  | resetPairCorrelation (pairA pairB : Symbol)
  | setInterpolationMethod (method : InterpolationMethod)
  | setMomentumWindow (secs : Nat)
  | setMomentumAlertThreshold (threshold : Nat)
  | setConsensusConfig (k epsilon : Nat)
  | setAdaptiveEpsilon (enabled : Bool) (scaleFactor : Nat)
  | setRevealWindow (secs : Nat)
  | setService (newService : Address)
  | setPairPaused (assetPair : Symbol) (paused : Bool)
  | setScoreEmbargo (wallet : Address) (expiry : Option Nat)
  | liftScoreEmbargo (wallet : Address)
  | setScoreDelegate (subWallet custodian : Address)
  | removeScoreDelegate (subWallet : Address)
  | setGateQueryFee (amount : Int)
  | setFeeToken (token : Address)

inductive Call where
  | user (call : UserCall)
  | admins (signers : List Address) (call : AdminCall)
  | soleAdmin (call : SoleAdminCall)

/-! ### What they run -/

def execUser : UserCall → M Unit
  | .initializeContract admin service => initializeContract admin service
  | .submitScore signers sub input => submitScore signers sub input
  | .relayAttestedScore relayer sub attestation =>
    dropResult (relayAttestedScore relayer sub attestation)
  | .submitScoresBatch submissions => dropResult (submitScoresBatch submissions)
  | .submitScoresBatchAttested signers submissions attestation =>
    dropResult (submitScoresBatchAttested signers submissions attestation)
  | .commitConsensus model wallet assetPair commitment =>
    commitConsensus model wallet assetPair commitment
  | .revealConsensus signers wallet assetPair submissions nonces timestamp =>
    revealConsensus signers wallet assetPair submissions nonces timestamp
  | .submitConsensusScore signers wallet assetPair submissions timestamp =>
    submitConsensusScore signers wallet assetPair submissions timestamp
  | .commitPendingScore wallet assetPair => commitPendingScore wallet assetPair
  | .addCounterpartyLink walletA walletB assetPair => addCounterpartyLink walletA walletB assetPair
  | .removeCounterpartyLink walletA walletB assetPair =>
    removeCounterpartyLink walletA walletB assetPair
  | .propagateContagion anchor assetPair boost =>
    dropResult (propagateContagion anchor assetPair boost)
  | .commitDisputeBond challenger wallet assetPair bondAmountSalt =>
    commitDisputeBond challenger wallet assetPair bondAmountSalt
  | .openScoreDispute challenger wallet assetPair bond bondSalt =>
    openScoreDispute challenger wallet assetPair bond bondSalt
  | .resolveDisputeTimeout wallet assetPair => resolveDisputeTimeout wallet assetPair
  | .registerScoreChangeHook consumer wallet assetPair =>
    registerScoreChangeHook consumer wallet assetPair
  | .unregisterScoreChangeHook consumer wallet assetPair =>
    unregisterScoreChangeHook consumer wallet assetPair
  | .dispatchScoreChangeHooks dispatcher wallet assetPair =>
    dropResult (dispatchScoreChangeHooks dispatcher wallet assetPair)
  | .acceptAdmin => acceptAdmin
  | .pingHeartbeat => pingHeartbeat
  | .setArchOwner newOwner => setArchOwner newOwner
  | .setMandatoryReviewers reviewers => setMandatoryReviewers reviewers
  | .applyParamChange key => applyParamChange key
  | .applyPolicyBundle => applyPolicyBundle
  | .recomputeAdaptiveThreshold => dropResult (recomputeAdaptiveThreshold)
  | .vetoParameterChange serviceSigners id => vetoParameterChange serviceSigners id
  | .getParameterProposal id => dropResult (getParameterProposal id)
  | .keeperExtendEntryTtls keeper entries => dropResult (keeperExtendEntryTtls keeper entries)
  | .depositGateCredits depositor amount => dropResult (depositGateCredits depositor amount)
  | .withdrawGateCreditsRequest depositor amount =>
    dropResult (withdrawGateCreditsRequest depositor amount)
  | .withdrawGateCredits depositor => dropResult (withdrawGateCredits depositor)
  | .checkServiceSilence => dropResult (checkServiceSilence)
  | .queryRiskGate wallet assetPair gateThreshold =>
    dropResult (queryRiskGate wallet assetPair gateThreshold)
  | .queryRiskGateWithConfidence wallet assetPair gateThreshold minConfidence =>
    dropResult (queryRiskGateWithConfidence wallet assetPair gateThreshold minConfidence)
  | .queryRiskGateMetered consumer wallet assetPair gateThreshold =>
    dropResult (queryRiskGateMetered consumer wallet assetPair gateThreshold)
  | .queryRiskGatePrepaid consumer wallet assetPair gateThreshold =>
    dropResult (RentRelayCredits.queryRiskGateMetered consumer wallet assetPair gateThreshold)
  | .getEffectiveScore wallet assetPair => dropResult (getEffectiveScore wallet assetPair)

def execAdmins (signers : List Address) : AdminCall → M Unit
  | .cancelPendingScore wallet assetPair => cancelPendingScore signers wallet assetPair
  | .resolveDisputeAdmin wallet assetPair correctedScore =>
    resolveDisputeAdmin signers wallet assetPair correctedScore
  | .clearScoreHistoryWithAudit wallet assetPair reason category =>
    clearScoreHistoryWithAudit signers wallet assetPair reason category
  | .clearScoreWithAudit wallet assetPair reason category =>
    clearScoreWithAudit signers wallet assetPair reason category
  | .setScoreHookFailureThreshold threshold => setScoreHookFailureThreshold signers threshold
  | .setHistoryMaxDepth depth => setHistoryMaxDepth signers depth
  | .setUpgradeDelay delaySecs => setUpgradeDelay signers delaySecs
  | .setRiskThreshold threshold => setRiskThreshold signers threshold
  | .setStalenessWindow windowSecs => setStalenessWindow signers windowSecs
  | .proposePolicyBundle riskThreshold cooldownSecs =>
    proposePolicyBundle signers riskThreshold cooldownSecs
  | .enableAdaptiveThreshold targetPercentile minValue maxValue =>
    enableAdaptiveThreshold signers targetPercentile minValue maxValue
  | .disableAdaptiveThreshold => disableAdaptiveThreshold signers
  | .setAssetClassPolicy class_ riskThreshold => setAssetClassPolicy signers class_ riskThreshold
  | .setPairAssetClass assetPair class_ => setPairAssetClass signers assetPair class_
  | .setEscalationThreshold n => setEscalationThreshold signers n
  | .resetBreachCount wallet assetPair => resetBreachCount signers wallet assetPair
  | .resetBreachCounter wallet assetPair => resetBreachCounter signers wallet assetPair
  | .setJumpThreshold threshold => setJumpThreshold signers threshold
  | .setCooldown secs => setCooldown signers secs
  | .setPairCooldown assetPair secs => setPairCooldown signers assetPair secs
  | .clearPairCooldown assetPair => clearPairCooldown signers assetPair
  | .setAdaptiveRateLimit enabled varianceScale =>
    setAdaptiveRateLimit signers enabled varianceScale
  | .overrideRateLimit wallet assetPair justification =>
    overrideRateLimit signers wallet assetPair justification
  | .batchOverrideRateLimit entries => dropResult (batchOverrideRateLimit signers entries)
  | .setScoreVelocityCap enabled pointsPerHour => setScoreVelocityCap signers enabled pointsPerHour
  | .overrideScoreVelocityCap wallet assetPair => overrideScoreVelocityCap signers wallet assetPair
  | .setScoreFloorPolicy enabled highWaterMark floorValue =>
    setScoreFloorPolicy signers enabled highWaterMark floorValue
  | .overrideScoreFloor wallet assetPair => overrideScoreFloor signers wallet assetPair
  | .setFinalityBuffer secs => setFinalityBuffer signers secs
  | .setFlashProtectionMode mode => setFlashProtectionMode signers mode
  | .setHeartbeatAlertThreshold secs => setHeartbeatAlertThreshold signers secs
  | .setPairWeight assetPair weight => setPairWeight signers assetPair weight
  | .setPairWeightBatch entries => setPairWeightBatch signers entries
  | .bulkResetPairWeight pairs => bulkResetPairWeight signers pairs
  | .setDestructiveMultisig required => setDestructiveMultisig signers required
  | .setClusterBoundaries boundaries => setClusterBoundaries signers boundaries
  | .setPairVolatilityWindow secs => setPairVolatilityWindow signers secs
  | .setHllPrecision precision => setHllPrecision signers precision
  | .setPrivacyEpsilon epsilonBps => setPrivacyEpsilon signers epsilonBps
  | .setAdaptiveEpsilonBounds enabled minEpsilon maxEpsilon =>
    setAdaptiveEpsilonBounds signers enabled minEpsilon maxEpsilon
  | .transferAdmin newAdmin => transferAdmin signers newAdmin
  | .cancelAdminTransfer => cancelAdminTransfer signers
  | .addAdminSigner signer => addAdminSigner signers signer
  | .removeAdminSigner signer => removeAdminSigner signers signer
  | .setAdminThreshold threshold => setAdminThreshold signers threshold
  | .addServiceSigner signer => addServiceSigner signers signer
  | .removeServiceSigner signer => removeServiceSigner signers signer
  | .setServiceThreshold threshold => setServiceThreshold signers threshold
  | .setSignerTier signer minScore maxScore => setSignerTier signers signer minScore maxScore
  | .bulkSetSignerTier entries => bulkSetSignerTier signers entries
  | .setSignerRotationTtl ttlSecs => setSignerRotationTtl signers ttlSecs
  | .setSignerRotationGrace graceSecs => setSignerRotationGrace signers graceSecs
  | .resetSignerAccuracy signer => resetSignerAccuracy signers signer
  | .setServicePubkey pubkey => setServicePubkey signers pubkey
  | .rotateServicePubkey newKey overlapSecs => rotateServicePubkey signers newKey overlapSecs
  | .setAggregateServicePubkey pubkey => setAggregateServicePubkey signers pubkey
  | .rotateAggregateServicePubkey newKey overlapSecs =>
    rotateAggregateServicePubkey signers newKey overlapSecs
  | .setRevokedKey fingerprint effectiveFrom reasonCode revokingAuthority =>
    setRevokedKey signers fingerprint effectiveFrom reasonCode revokingAuthority
  | .clearRevokedKey fingerprint => clearRevokedKey signers fingerprint
  | .setDeletionApprovalPolicy enabled approver =>
    setDeletionApprovalPolicy signers enabled approver
  | .setPolicyApproval policy enabled approver => setPolicyApproval signers policy enabled approver
  | .pause => pause signers
  | .unpause => unpause signers
  | .freezeContract => freezeContract signers
  | .unfreezeContract => unfreezeContract signers
  | .openEpoch epochId => openEpoch signers epochId
  | .closeEpoch => closeEpoch signers
  | .proposeUpgrade newWasmHash => proposeUpgrade signers newWasmHash
  | .executeUpgrade => executeUpgrade signers
  | .vetoUpgrade => vetoUpgrade signers
  | .proposeParameterChange paramKey newValue =>
    dropResult (proposeParameterChange signers paramKey newValue)
  | .executeParameterChange id => executeParameterChange signers id
  | .cleanupExpiredParamProposals => dropResult (cleanupExpiredParamProposals signers)
  | .computeStateChecksum => dropResult (computeStateChecksum signers)
  | .acknowledgeAlert alert noteHash => acknowledgeAlert signers alert noteHash
  | .setWatchlist wallet flagged => setWatchlist signers wallet flagged
  | .batchAddToWatchlist wallets => batchAddToWatchlist signers wallets
  | .batchRemoveFromWatchlist wallets => batchRemoveFromWatchlist signers wallets
  | .batchLiftScoreEmbargo wallets => dropResult (batchLiftScoreEmbargo signers wallets)
  | .revokeAllEmbargoes => revokeAllEmbargoes signers
  | .proposeModelVersion version description => proposeModelVersion signers version description
  | .approveModelVersion version => approveModelVersion signers version
  | .registerModelVersion version => registerModelVersion signers version
  | .deprecateModelVersion version => deprecateModelVersion signers version
  | .bulkDeregisterModelVersion versions => bulkDeregisterModelVersion signers versions
  | .registerOracle assetPair oracleContract => registerOracle signers assetPair oracleContract
  | .removeOracle assetPair => removeOracle signers assetPair
  | .setOracleStalenessThreshold thresholdSecs => setOracleStalenessThreshold signers thresholdSecs
  | .setGateCallers callers => setGateCallers signers callers
  | .setGateEnforcementMode strict => setGateEnforcementMode signers strict
  | .setFailoverContract contractId => setFailoverContract signers contractId
  | .setConsumerReadQuota consumer capacity refillRate =>
    setConsumerReadQuota signers consumer capacity refillRate
  | .clearConsumerReadQuota consumer => clearConsumerReadQuota signers consumer
  | .setFeeRecipient recipient => setFeeRecipient signers recipient
  | .withdrawFees recipient amount => withdrawFees signers recipient amount
  | .setKeeperRewardToken token => setKeeperRewardToken signers token
  | .fundKeeperRewardPool amount => dropResult (fundKeeperRewardPool signers amount)
  | .setKeeperRewardParams rewardPerEntry windowLedgers perLedgerCap =>
    setKeeperRewardParams signers rewardPerEntry windowLedgers perLedgerCap
  | .extendEntryTtls entries => dropResult (extendEntryTtls signers entries)
  | .setRelayTipToken token => setRelayTipToken signers token
  | .fundRelayTipPool amount => dropResult (fundRelayTipPool signers amount)
  | .setRelayTipParams amount windowCap windowLedgers =>
    setRelayTipParams signers amount windowCap windowLedgers
  | .setGateCreditToken token => setGateCreditToken signers token
  | .setGateCreditWithdrawalDelay delaySecs => setGateCreditWithdrawalDelay signers delaySecs
  | .withdrawGateCreditRevenue recipient amount =>
    withdrawGateCreditRevenue signers recipient amount
  | .setFeeTierSchedule tiers => setFeeTierSchedule signers tiers
  | .setFeeTierWindowLedgers windowLedgers => setFeeTierWindowLedgers signers windowLedgers
  | .setFeeExemption consumer expiresAt reasonCode =>
    setFeeExemption signers consumer expiresAt reasonCode
  | .clearFeeExemption consumer => clearFeeExemption signers consumer

def execSoleAdmin : SoleAdminCall → M Unit
  | .setHysteresisMargin margin => setHysteresisMargin margin
  | .setGlobalMinConfidence minConfidence => setGlobalMinConfidence minConfidence
  | .setBurstCapacity capacity => setBurstCapacity capacity
  | .setDecayRate numerator denominator => setDecayRate numerator denominator
  | .setPairCorrelation pairA pairB corr => setPairCorrelation pairA pairB corr
  | .resetPairCorrelation pairA pairB => resetPairCorrelation pairA pairB
  | .setInterpolationMethod method => setInterpolationMethod method
  | .setMomentumWindow secs => setMomentumWindow secs
  | .setMomentumAlertThreshold threshold => setMomentumAlertThreshold threshold
  | .setConsensusConfig k epsilon => setConsensusConfig k epsilon
  | .setAdaptiveEpsilon enabled scaleFactor => setAdaptiveEpsilon enabled scaleFactor
  | .setRevealWindow secs => setRevealWindow secs
  | .setService newService => setService newService
  | .setPairPaused assetPair paused => setPairPaused assetPair paused
  | .setScoreEmbargo wallet expiry => setScoreEmbargo wallet expiry
  | .liftScoreEmbargo wallet => liftScoreEmbargo wallet
  | .setScoreDelegate subWallet custodian => setScoreDelegate subWallet custodian
  | .removeScoreDelegate subWallet => removeScoreDelegate subWallet
  | .setGateQueryFee amount => setGateQueryFee amount
  | .setFeeToken token => setFeeToken token

def exec : Call → M Unit
  | .user call => execUser call
  | .admins signers call => execAdmins signers call
  | .soleAdmin call => execSoleAdmin call

/-! ### Transactions -/

abbrev Transaction := Tx External Call

/-- What everyone has of every token. -/
abbrev Balances := Address → Address → Int

/-- The contract before its first transaction; the balances are those of the
tokens it will meet. -/
def genesis (balance : Balances) : State :=
  { ledger := .empty, balance, authorized := [], events := [] }

/-! ### Sample values -/

def account (n : UInt8) : Address := ⟨⟨List.replicate 56 n, List.length_replicate⟩⟩

def samplePair : Symbol := ⟨['X', 'L', 'M'], by decide⟩

def sampleSubmission (wallet : Address) (score : Nat) : ScoreSubmission where
  wallet := wallet
  assetPair := samplePair
  score := score
  benfordFlag := false
  mlFlag := false
  timestamp := 1
  confidence := 90
  modelVersion := 1

/-- An environment in which the given accounts sign. Hashes are constant, no
signature is recovered and other contracts hold no data. -/
def sampleEnv (signers : List Address) : ContractEnv where
  timestamp := 1000000
  sequence := 100
  networkId := ⟨List.replicate 32 0, length_zeros⟩
  signed a := a ∈ signers
  self := account 0
  crypto := {
    sha256 := fun _ => ⟨List.replicate 32 0, length_zeros⟩
    recover := fun _ _ _ => none }
  external := {
    updateAccumulator := fun accumulator _ _ => accumulator
    stalenessWindowBounds := (0, 0)
    onScoreChange := fun _ _ _ _ _ => true
    getPrice := fun _ _ => 0
    getScoreOpt := fun _ _ _ => none }

/-- The same with the hashes of the host. -/
def hashedEnv (signers : List Address) : ContractEnv :=
  { sampleEnv signers with crypto := { sha256 := Sha256.digest, recover := fun _ _ _ => none } }

/-- A contract among accounts that have no tokens. -/
abbrev blank : State := genesis fun _ _ => 0

def initSample : Transaction :=
  ⟨sampleEnv [account 1], .user (.initializeContract (account 1) (account 2))⟩

def submitSample (wallet : Address) (score : Nat) : Transaction :=
  ⟨sampleEnv [account 2], .user (.submitScore [] (sampleSubmission wallet score) none)⟩

def adminSample (call : AdminCall) : Transaction := ⟨sampleEnv [account 1], .admins [] call⟩

def soleSample (call : SoleAdminCall) : Transaction := ⟨sampleEnv [account 1], .soleAdmin call⟩

/-- The contract once account 1 has initialised it with account 2 as the service. -/
def deployed : State := run exec blank [initSample]

end LedgerLens
