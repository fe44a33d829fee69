import LedgerLens.Attestation
import LedgerLens.Auth
import LedgerLens.Score.Write

/-!
Single submissions: `submit_score` with its two authorisation paths, the common
tail `finalize_score_submission`, and the commit of a buffered score.
-/

namespace LedgerLens

open Host Host.Prog Storage

/-! ### The common tail -/

/-- A submission in the ledger in which the gate was read is suspicious, and in
`reject` mode refused. -/
def checkFlashProtection (wallet : Address) (assetPair : Symbol) : M Unit := do
  let sequence ← ledgerSequence
  whenever ((← fetch .temporary (.gateReadLedger wallet assetPair)) = some sequence) do
    emit (.suspiciousSameLedgerSubmission wallet assetPair sequence)
    require ((← getFlashProtectionMode) ≠ .reject) .epochClosed

section

variable (signers : List Address) (ns : NormalizedSubmission)
  (attestation : Option ScoreAttestation)

/-- The account a buffered score is attributed to. -/
def submitterOf : M Address := do
  if (← getServiceSet).isEmpty then getService
  else signers.head?.elim getService pure

/-- Park a submission until the finality buffer has elapsed. -/
def bufferScore (buffer : Nat) : M Unit := do
  let lastSubmit ← getLastSubmitTime ns.wallet ns.assetPair
  let cooldown ← getEffectiveCooldown ns.assetPair
  let time ← now
  require (cooldownElapsed time lastSubmit cooldown) .rateLimitExceeded
  store .persistent (.lastSubmitTime ns.wallet ns.assetPair) time
  recordServiceActivity
  let commitAfter := satAdd64 time buffer
  let submittedBy ← submitterOf signers
  store .persistent (.pendingScore ns.wallet ns.assetPair) {
    score := ns.score
    benfordFlag := ns.benfordFlag
    mlFlag := ns.mlFlag
    submittedAt := time
    confidence := ns.confidence
    modelVersion := ns.modelVersion
    timestamp := ns.timestamp
    commitAfter, submittedBy
    commitment := ns.commitment }
  emit (.scorePending ns.wallet ns.assetPair commitAfter)

/-- Write the score at once when there is no buffer, else park it. -/
def landScore (buffer : Nat) : M Unit :=
  if buffer = 0 then do
    writeScoreWithRateLimit ns.wallet ns.assetPair ns.toRiskScore
    recordServiceActivity
  else
    bufferScore signers ns buffer

/-- Everything after authorisation, shared by `submit_score` and
`relay_attested_score`. -/
def finalizeScoreSubmission : M Unit := do
  validateNormalizedSubmission ns
  checkFlashProtection ns.wallet ns.assetPair
  let buffer ← getFinalityBufferSecs
  let count ← getScoreCount ns.wallet ns.assetPair
  whenever (count = 0) (hllUpdate ns.assetPair ns.wallet)
  landScore signers ns buffer

/-! ### Authorisation of a single submission -/

/-- The threshold-signature path: the participants are listed, not asked. -/
def authorizeByThreshold (ta : ThresholdAttestation) : M Unit := do
  require (← getAggregateServicePubkey).isSome .servicePubkeyNotSet
  let serviceSet ← getServiceSet
  let threshold ← getServiceThreshold
  whenever (!serviceSet.isEmpty ∧ threshold > 0) do
    require (ta.participatingSigners.length ≥ threshold) .insufficientSigners
    each ta.participatingSigners fun signer => require (signer ∈ serviceSet) .unauthorizedSigner
  verifyThresholdAttestation ns ta

/-- Whether the only signer is the service account. The account is only looked
up when there is exactly one signer. -/
def isLoneService : M Bool :=
  if signers.length = 1 then do return signers.head? = some (← getService)
  else return false

/-- The `require_auth` path. With a service set, its members sign, unless the
only signer is the service account. -/
def authorizeBySigners : M Unit := do
  let serviceSet ← getServiceSet
  let threshold ← getServiceThreshold
  if !serviceSet.isEmpty ∧ threshold > 0 then
    if (← isLoneService signers) then
      getService >>= requireAuth
    else do
      require (signers.length ≥ threshold) .insufficientSigners
      authorizeAll (fun signer => require (signer ∈ serviceSet) .unauthorizedSigner) signers
  else
    getService >>= requireAuth

/-- The nonce of an attestation must be the next one of the service. -/
def useNonce (nonce : Nat) : M Unit := do
  let service ← getService
  require ((← getSignerNonce service) = nonce) .invalidAttestation
  require (nonce + 1 < u64Bound) .invalidAttestation
  store .inst (.signerNonce service) (nonce + 1)

/-- An attestation is needed once a service key is registered, and checked
whenever one is given. -/
def checkAttestation : M Unit := do
  whenever ((← getServicePubkey).isSome || attestation.isSome) do
    verifyAttestation ns attestation
    ifSome attestation fun att => useNonce att.nonce

def authorizeLegacy : M Unit := do
  authorizeBySigners signers
  checkAttestation ns attestation

end

/-! ### Entry points -/

/-- The switches `submit_score` honours. -/
def ensureSubmissionsOpen (assetPair : Symbol) : M Unit := do
  require (!(← isScoreHookDispatching)) .scoreHookDispatchInProgress
  require (← hasAdmin) .notInitialized
  require (!(← isFrozen)) .contractPaused
  ensureAssetPairBounded assetPair
  require (!(← isPaused)) .contractPaused
  require (!(← isPairPaused assetPair)) .contractPaused
  require (← isEpochOpen) .epochClosed

def submitScore (signers : List Address) (sub : ScoreSubmission)
    (attestationInput : Option ScoreAttestationInput) : M Unit := do
  ensureSubmissionsOpen sub.assetPair
  let attestation := attestationInput.bind ScoreAttestationInput.attestation
  let thresholdAttestation := attestationInput.bind ScoreAttestationInput.thresholdAttestation
  let commitment := attestationInput.bind ScoreAttestationInput.commitment
  ensureScoreCommitmentBounded commitment
  let ns : NormalizedSubmission := {
    wallet := sub.wallet
    assetPair := sub.assetPair
    score := sub.score
    benfordFlag := sub.benfordFlag
    mlFlag := sub.mlFlag
    timestamp := sub.timestamp
    confidence := sub.confidence
    modelVersion := sub.modelVersion
    commitment }
  thresholdAttestation.elim (authorizeLegacy signers ns attestation) (authorizeByThreshold ns)
  finalizeScoreSubmission signers ns

/-- The score a parked submission becomes. -/
def PendingScoreEntry.toRiskScore (pending : PendingScoreEntry) : RiskScore where
  score := pending.score
  benfordFlag := pending.benfordFlag
  mlFlag := pending.mlFlag
  timestamp := pending.timestamp
  confidence := pending.confidence
  modelVersion := pending.modelVersion
  benfordScore := 0
  mlScore := 0
  networkScore := 0
  commitment := pending.commitment

/-- Anyone may commit a parked score once its time has come. -/
def commitPendingScore (wallet : Address) (assetPair : Symbol) : M Unit := do
  require (!(← isScoreHookDispatching)) .scoreHookDispatchInProgress
  let pending ← okOr (← fetch .persistent (.pendingScore wallet assetPair)) .noPendingScore
  require (pending.commitAfter ≤ (← now)) .finalityWindowNotElapsed
  let previousScore := (← peekScore wallet assetPair).map RiskScore.score
  let riskScore := pending.toRiskScore
  setScore wallet assetPair riskScore
  pushScoreHistory wallet assetPair riskScore
  registerPairForWallet wallet assetPair
  incrementScoreCount wallet assetPair
  incrementPairScoreCount assetPair
  whenever ((← getScoreCount wallet assetPair) = 1) incrementTotalWalletsScored
  refreshAggregateCache wallet
  let threshold ← getEffectiveThreshold
  whenever (pending.score ≥ threshold) do
    emit (.thresholdBreached wallet assetPair pending.score threshold)
  emitScoreDelta wallet assetPair previousScore pending.score
  remove .persistent (.pendingScore wallet assetPair)
  emit (.scoreCommitted wallet assetPair)

def cancelPendingScore (adminSigners : List Address) (wallet : Address) (assetPair : Symbol) :
    M Unit := do
  require (← hasAdmin) .notInitialized
  requireAdminAuth adminSigners
  require (← fetch .persistent (.pendingScore wallet assetPair)).isSome .noPendingScore
  remove .persistent (.pendingScore wallet assetPair)
  emit (.scorePendingCancelled wallet assetPair (← getAdmin))

/-! ### Footprints -/

section Footprints

set_option synthInstance.maxSize 100000000

variable (wallet : Address) (assetPair : Symbol) (signers : List Address)
  (ns : NormalizedSubmission)

instance : Touches (checkFlashProtection wallet assetPair) [] :=
  ⟨by unfold checkFlashProtection; infer_instance⟩

instance : Touches (submitterOf signers) [] := ⟨by unfold submitterOf; infer_instance⟩

instance (buffer : Nat) : Touches (bufferScore signers ns buffer)
    [.lastSubmitTime, .serviceSilentAlertEmitted, .lastServiceActivityAt, .pendingScore] :=
  ⟨by unfold bufferScore; infer_instance⟩

instance (buffer : Nat) : Touches (landScore signers ns buffer)
    (.serviceSilentAlertEmitted :: .lastServiceActivityAt :: .pendingScore :: writeTags) :=
  ⟨by unfold landScore; infer_instance⟩

instance : Touches (finalizeScoreSubmission signers ns)
    (.uniqueWalletsHll :: .serviceSilentAlertEmitted :: .lastServiceActivityAt :: .pendingScore ::
      writeTags) :=
  ⟨by unfold finalizeScoreSubmission; infer_instance⟩

instance (ta : ThresholdAttestation) : Touches (authorizeByThreshold ns ta)
    [.aggregateServicePubKey, .pendingAggregateServicePubKey] :=
  ⟨by unfold authorizeByThreshold; infer_instance⟩

instance : Touches (isLoneService signers) [] := ⟨by unfold isLoneService; infer_instance⟩

instance : Touches (authorizeBySigners signers) [.authorizations] :=
  ⟨by unfold authorizeBySigners authorizeAll; infer_instance⟩

instance (nonce : Nat) : Touches (useNonce nonce) [.signerNonce] :=
  ⟨by unfold useNonce; infer_instance⟩

instance (attestation : Option ScoreAttestation) : Touches (checkAttestation ns attestation)
    [.servicePubKey, .pendingServicePubKey, .signerNonce] :=
  ⟨by unfold checkAttestation; infer_instance⟩

instance (attestation : Option ScoreAttestation) :
    Touches (authorizeLegacy signers ns attestation)
      [.authorizations, .servicePubKey, .pendingServicePubKey, .signerNonce] :=
  ⟨by unfold authorizeLegacy; infer_instance⟩

instance : Touches (ensureSubmissionsOpen assetPair) [] :=
  ⟨by unfold ensureSubmissionsOpen; infer_instance⟩

/-- Everything `submit_score` may write. -/
abbrev submitTags : List Tag :=
  .authorizations :: .servicePubKey :: .pendingServicePubKey :: .signerNonce ::
    .aggregateServicePubKey ::
    .pendingAggregateServicePubKey :: .uniqueWalletsHll :: .serviceSilentAlertEmitted ::
    .lastServiceActivityAt :: .pendingScore :: writeTags

instance (sub : ScoreSubmission) (input : Option ScoreAttestationInput) :
    Touches (submitScore signers sub input) submitTags :=
  ⟨by unfold submitScore; infer_instance⟩

/-- Everything the commit of a parked score may write. -/
abbrev commitTags : List Tag :=
  [.score, .scoreEntryIndex, .scoreEntryLastTouchedLedger, .scoreHistory, .assetPairs, .scoreCount,
    .pairScoreCount, .totalWalletsScored, .aggregateScore, .trendState, .pendingScore]

instance : Touches (commitPendingScore wallet assetPair) commitTags :=
  ⟨by unfold commitPendingScore; infer_instance⟩

instance : Touches (cancelPendingScore signers wallet assetPair) [.authorizations, .pendingScore] :=
  ⟨by unfold cancelPendingScore; infer_instance⟩

end Footprints

end LedgerLens
