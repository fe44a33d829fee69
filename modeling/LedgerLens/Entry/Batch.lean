import LedgerLens.Attestation
import LedgerLens.Auth
import LedgerLens.Score.Write

/-!
Batches. Both entry points judge their entries one after the other, in the
state the entries before have left, and report a verdict for each.
-/

namespace LedgerLens

open Host Host.Prog Storage

/-- The two variables the loops set for an entry. -/
structure EntryVerdict where
  accepted : Bool
  rejectionCode : Nat
  deriving DecidableEq

namespace EntryVerdict

def accept : EntryVerdict := { accepted := true, rejectionCode := 0 }

def reject (code : Nat) : EntryVerdict := { accepted := false, rejectionCode := code }

end EntryVerdict

/-- What a loop has collected so far. -/
structure BatchProgress where
  acceptedCount : Nat
  results : List BatchEntryResult
  deriving DecidableEq

section

variable {α : Type} (judge : α → M EntryVerdict) (progress : BatchProgress)

/-- One result is pushed per entry, so their number is the index of the next. -/
def BatchProgress.push (verdict : EntryVerdict) : BatchProgress where
  acceptedCount := progress.acceptedCount + if verdict.accepted then 1 else 0
  results := progress.results ++
    [{ index := progress.results.length, accepted := verdict.accepted,
       rejectionCode := verdict.rejectionCode }]

/-- One iteration of a batch loop. -/
def batchStep (entry : α) : M BatchProgress := do
  return progress.push (← judge entry)

/-- The loop over all entries. -/
def batchLoop (entries : List α) : M BatchProgress :=
  fold (batchStep judge) { acceptedCount := 0, results := [] } entries

def BatchProgress.toResult (total : Nat) : BatchResult where
  acceptedCount := progress.acceptedCount
  rejectedCount := total - progress.acceptedCount
  results := progress.results

def ensureBatchSize (entries : List α) : M Unit := do
  require (!entries.isEmpty) .emptyBatch
  require (entries.length ≤ maxBatchSize) .batchTooLarge

end

/-- Batch entries carry no commitment. -/
def ScoreSubmission.normalize (sub : ScoreSubmission) : NormalizedSubmission where
  wallet := sub.wallet
  assetPair := sub.assetPair
  score := sub.score
  benfordFlag := sub.benfordFlag
  mlFlag := sub.mlFlag
  timestamp := sub.timestamp
  confidence := sub.confidence
  modelVersion := sub.modelVersion
  commitment := none

/-! ### Plain batches -/

/-- The writes for an entry that passed all checks. -/
def writeBatchEntry (threshold : Nat) (ns : NormalizedSubmission) (previousScore : Option Nat) :
    M Unit := do
  let riskScore := ns.toRiskScore
  store .persistent (.lastSubmitTime ns.wallet ns.assetPair) (← now)
  setScore ns.wallet ns.assetPair riskScore
  enterSubmission ns.wallet ns.assetPair riskScore previousScore.isNone
  recordProvenance ns.wallet ns.assetPair ns.modelVersion 1 symbolBatch
  updateStatistics ns.wallet ns.assetPair riskScore previousScore
  refreshAggregateCache ns.wallet
  updateVerkleCommitment ns.wallet ns.assetPair riskScore
  reactToScore ns.wallet ns.assetPair riskScore previousScore threshold

/-- The rejection code of the score floor, a literal in the source. -/
abbrev scoreFloorCode : Nat := 43

/-- The policy checks of an entry in the order of the source, then the write. -/
def judgeValidEntry (threshold : Nat) (ns : NormalizedSubmission) : M EntryVerdict := do
  let lastSubmit ← getLastSubmitTime ns.wallet ns.assetPair
  let cooldown ← getEffectiveCooldown ns.assetPair
  if !cooldownElapsed (← now) lastSubmit cooldown then
    return .reject Error.rateLimitExceeded.code
  else if (← scoreFloorBlocks ns.wallet ns.assetPair ns.score) then
    return .reject scoreFloorCode
  else
    let previousScore := (← peekScore ns.wallet ns.assetPair).map RiskScore.score
    if (← velocityCapBlocks ns.wallet ns.assetPair previousScore lastSubmit ns.score) then
      return .reject Error.rateLimitExceeded.code
    else
      writeBatchEntry threshold ns previousScore
      return .accept

def judgeEntry (threshold : Nat) (sub : ScoreSubmission) : M EntryVerdict :=
  if !assetPairIsBounded sub.assetPair then
    return .reject Error.invalidAttestation.code
  else do
    if (← isPairPaused sub.assetPair) then
      return .reject Error.contractPaused.code
    else
      handle (validateNormalizedSubmission sub.normalize)
        (fun e => return .reject e.code)
        (fun _ => judgeValidEntry threshold sub.normalize)

def submitScoresBatch (submissions : List ScoreSubmission) : M BatchResult := do
  require (!(← isScoreHookDispatching)) .scoreHookDispatchInProgress
  ensureActive
  require (← isEpochOpen) .epochClosed
  getService >>= requireAuth
  ensureBatchSize submissions
  let threshold ← getEffectiveThreshold
  let progress ← batchLoop (judgeEntry threshold) submissions
  whenever (progress.acceptedCount > 0) recordServiceActivity
  return progress.toResult submissions.length

/-! ### Attested batches -/

section

variable (riskThreshold : Nat) (versionSet : List Nat) (ns : NormalizedSubmission)

/-- The writes for an attested entry that passed all checks. -/
def writeAttestedEntry (previousScore : Option Nat) : M Unit := do
  let riskScore := ns.toRiskScore
  store .persistent (.lastSubmitTime ns.wallet ns.assetPair) (← now)
  setScore ns.wallet ns.assetPair riskScore
  enterSubmission ns.wallet ns.assetPair riskScore previousScore.isNone
  refreshAggregateCache ns.wallet
  whenever (ns.score ≥ riskThreshold) do
    emit (.thresholdBreached ns.wallet ns.assetPair ns.score riskThreshold)
  emit (.scoreSubmitted ns.wallet ns.assetPair riskScore)

/-- Cooldown and velocity cap of an attested entry, then the write. -/
def judgeAttestedPolicy : M EntryVerdict := do
  let lastSubmit ← getLastSubmitTime ns.wallet ns.assetPair
  let cooldown ← getEffectiveCooldown ns.assetPair
  if !cooldownElapsed (← now) lastSubmit cooldown then
    return .reject Error.rateLimitExceeded.code
  else
    let previousScore := (← peekScore ns.wallet ns.assetPair).map RiskScore.score
    if (← velocityCapBlocks ns.wallet ns.assetPair previousScore lastSubmit ns.score) then
      return .reject Error.rateLimitExceeded.code
    else
      writeAttestedEntry riskThreshold ns previousScore
      return .accept

/-- The verdict on an entry whose model version is registered. An active
version sets no code, and the branch writes nothing. -/
def judgeRegisteredVersion (modelVersion : Nat) : M EntryVerdict := do
  let status ← getModelVersionStatus modelVersion
  if status = some .active then return { accepted := false, rejectionCode := 0 }
  else if status = some .proposed then return .reject Error.modelVersionNotReady.code
  else if status = some .deprecated then return .reject Error.modelVersionDeprecated.code
  else return .reject Error.modelVersionNotRegistered.code

/-- The checks of an attested entry whose proof is valid. -/
def judgeProvenEntry : M EntryVerdict :=
  if ns.score > 100 then return .reject Error.invalidScore.code
  else if ns.confidence > 100 then return .reject Error.invalidConfidence.code
  else if ns.timestamp = 0 then return .reject Error.invalidTimestamp.code
  else if !versionSet.isEmpty ∧ ns.modelVersion ∉ versionSet then
    return .reject Error.modelVersionNotRegistered.code
  else if !versionSet.isEmpty then judgeRegisteredVersion ns.modelVersion
  else judgeAttestedPolicy riskThreshold ns

def judgeAttestedEntry (merkleRoot : BytesN 32) (entry : ScoreSubmissionWithProof) :
    M EntryVerdict :=
  if !assetPairIsBounded entry.submission.assetPair then
    return .reject Error.invalidAttestation.code
  else
    handle (computeMerkleLeaf entry.submission)
      (fun _ => return .reject Error.invalidAttestation.code)
      (fun leaf => do
        if !(← verifyMerkleProof leaf entry.proof entry.proofFlags merkleRoot) then
          return .reject Error.invalidAttestation.code
        else
          judgeProvenEntry riskThreshold versionSet entry.submission.normalize)

end

def submitScoresBatchAttested (signers : List Address)
    (submissions : List ScoreSubmissionWithProof) (attestation : BatchAttestation) :
    M BatchResult := do
  require (!(← isScoreHookDispatching)) .scoreHookDispatchInProgress
  ensureActive
  require (← isEpochOpen) .epochClosed
  require (← getServicePubkey).isSome .servicePubkeyNotSet
  requireServiceSignersAuth signers
  ensureBatchSize submissions
  verifySignature (← sha256 attestation.merkleRoot.1) attestation.signature
  let riskThreshold ← getRiskThreshold
  let versionSet ← getModelVersionSet
  let progress ←
    batchLoop (judgeAttestedEntry riskThreshold versionSet attestation.merkleRoot) submissions
  store .inst .lastGlobalSubmissionTime (← now)
  emit (.batchAttested attestation.merkleRoot progress.acceptedCount
    (submissions.length - progress.acceptedCount))
  return progress.toResult submissions.length

/-! ### When a batch returns -/

section Returns

variable {env : ContractEnv} {w : State} {Q : BatchResult → State → Prop}

theorem wp_submitScoresBatch {submissions : List ScoreSubmission} :
    wp (submitScoresBatch submissions) Q env w ↔
      dispatching w = false ∧ (adminOf w).isSome = true ∧ paused w = false ∧ epochOpen w = true ∧
      ∃ service, serviceOf w = some service ∧
        (env.signed service = true ∧ service ∉ w.authorized) ∧
        submissions ≠ [] ∧ submissions.length ≤ maxBatchSize ∧
        wp (batchLoop (judgeEntry (effectiveThreshold w)) submissions)
          (fun progress t =>
            wp (whenever (progress.acceptedCount > 0) recordServiceActivity)
              (fun _ t' => Q (progress.toResult submissions.length) t') env t)
          env { w with authorized := service :: w.authorized } := by
  simp [submitScoresBatch, ensureBatchSize]
  exact fun _ _ _ _ => Iff.rfl

theorem wp_submitScoresBatchAttested {signers : List Address}
    {submissions : List ScoreSubmissionWithProof} {attestation : BatchAttestation} :
    wp (submitScoresBatchAttested signers submissions attestation) Q env w ↔
      dispatching w = false ∧ (adminOf w).isSome = true ∧ paused w = false ∧ epochOpen w = true ∧
      (w.ledger.entry .inst .servicePubKey).isSome = true ∧
      wp (requireServiceSignersAuth signers)
        (fun _ w₁ => submissions ≠ [] ∧ submissions.length ≤ maxBatchSize ∧
          wp (verifySignature (env.crypto.sha256 attestation.merkleRoot.1) attestation.signature)
            (fun _ w₂ => wp
              (batchLoop (judgeAttestedEntry
                ((w₂.ledger.entry .inst .riskThreshold).getD defaultRiskThreshold)
                ((w₂.ledger.entry .inst .allModelVersions).getD []) attestation.merkleRoot)
                submissions)
              (fun progress w₃ => Q (progress.toResult submissions.length)
                { w₃ with
                  ledger := w₃.ledger.put .inst .lastGlobalSubmissionTime (some env.timestamp)
                  events := w₃.events ++ [.batchAttested attestation.merkleRoot
                    progress.acceptedCount (submissions.length - progress.acceptedCount)] })
              env w₂)
            env w₁)
        env w := by
  simp [submitScoresBatchAttested, ensureBatchSize]

end Returns

/-! ### Footprints -/

section Footprints

set_option synthInstance.maxSize 100000000

variable (threshold : Nat) (ns : NormalizedSubmission) (previous : Option Nat)

instance {α : Type} (entries : List α) : Touches (ensureBatchSize entries) [] :=
  ⟨by unfold ensureBatchSize; infer_instance⟩

/-- A loop keeps what every verdict keeps. -/
theorem keeps_batchLoop {α : Type} {R : State → State → Prop} [Std.Refl R] [IsTrans State R]
    {judge : α → M EntryVerdict} {entries : List α}
    (verdict : ∀ entry ∈ entries, Keeps R (judge entry)) : Keeps R (batchLoop judge entries) := by
  refine Keeps.fold_of_mem (fun progress entry listed => ?_) _
  have := verdict entry listed
  unfold batchStep
  infer_instance

instance {α : Type} {R : State → State → Prop} [Std.Refl R] [IsTrans State R]
    (judge : α → M EntryVerdict) (entries : List α) [verdict : ∀ entry, Keeps R (judge entry)] :
    Keeps R (batchLoop judge entries) :=
  keeps_batchLoop fun entry _ => verdict entry

/-- Everything an accepted entry of a plain batch may write. -/
abbrev batchTags : List Tag :=
  [.velocityCapOverride, .lastSubmitTime, .score, .scoreEntryIndex, .scoreEntryLastTouchedLedger,
    .submissionProvenance, .scoreHistory, .assetPairs, .scoreCount, .pairScoreCount,
    .totalWalletsScored, .modelStats, .modelVersionIndex, .historicalMaxScore, .scoreHistogram,
    .aggregateScore, .verkleCommitment, .verkleLeaf, .breachCount, .riskBandState, .bandEntryTime,
    .trendState, .jumpStats]

instance : Touches (writeBatchEntry threshold ns previous) batchTags :=
  ⟨by unfold writeBatchEntry; infer_instance⟩

instance : Touches (judgeValidEntry threshold ns) batchTags :=
  ⟨by unfold judgeValidEntry; infer_instance⟩

instance (sub : ScoreSubmission) : Touches (judgeEntry threshold sub) batchTags :=
  ⟨by unfold judgeEntry; infer_instance⟩

instance (submissions : List ScoreSubmission) : Touches (submitScoresBatch submissions)
    (.authorizations :: .serviceSilentAlertEmitted :: .lastServiceActivityAt :: batchTags) :=
  ⟨by unfold submitScoresBatch; infer_instance⟩

/-- Everything an accepted entry of an attested batch may write. -/
abbrev attestedTags : List Tag :=
  [.velocityCapOverride, .lastSubmitTime, .score, .scoreEntryIndex, .scoreEntryLastTouchedLedger,
    .scoreHistory, .assetPairs, .scoreCount, .pairScoreCount, .totalWalletsScored, .aggregateScore]

instance : Touches (writeAttestedEntry threshold ns previous) attestedTags :=
  ⟨by unfold writeAttestedEntry; infer_instance⟩

instance : Touches (judgeAttestedPolicy threshold ns) attestedTags :=
  ⟨by unfold judgeAttestedPolicy; infer_instance⟩

instance (version : Nat) : Touches (judgeRegisteredVersion version) [] :=
  ⟨by unfold judgeRegisteredVersion; infer_instance⟩

instance (versionSet : List Nat) : Touches (judgeProvenEntry threshold versionSet ns)
    attestedTags :=
  ⟨by unfold judgeProvenEntry; infer_instance⟩

instance (versionSet : List Nat) (root : BytesN 32) (entry : ScoreSubmissionWithProof) :
    Touches (judgeAttestedEntry threshold versionSet root entry) attestedTags :=
  ⟨by unfold judgeAttestedEntry; infer_instance⟩

instance (signers : List Address) (submissions : List ScoreSubmissionWithProof)
    (attestation : BatchAttestation) :
    Touches (submitScoresBatchAttested signers submissions attestation)
      (.authorizations :: .servicePubKey :: .pendingServicePubKey :: .lastGlobalSubmissionTime ::
        attestedTags) :=
  ⟨by unfold submitScoresBatchAttested; infer_instance⟩

end Footprints

end LedgerLens
