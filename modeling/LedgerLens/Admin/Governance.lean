import LedgerLens.Admin.Settings
import LedgerLens.Encoding

/-!
Governance: switching the contract off, upgrades, parameter proposals with a
time lock and a veto, and snapshots of the state.
-/

namespace LedgerLens

open Host Host.Prog Storage

variable (adminSigners : List Address)

/-! ### Switches -/

abbrev pause : M Unit :=
  asPolicyAdmins .emergencyPause adminSigners do
    store .inst .paused true
    updateAuditRoot

abbrev unpause : M Unit :=
  asPolicyAdmins .emergencyPause adminSigners do
    store .inst .paused false
    updateAuditRoot

abbrev freezeContract : M Unit :=
  asAdmins adminSigners (pure ()) do
    store .inst .frozen true
    updateAuditRoot

abbrev unfreezeContract : M Unit :=
  asAdmins adminSigners (pure ()) do
    store .inst .frozen false
    updateAuditRoot

abbrev openEpoch (epochId : Nat) : M Unit :=
  asAdmins adminSigners (pure ()) do
    store .inst .currentEpoch epochId
    store .inst .epochOpen true

abbrev closeEpoch : M Unit :=
  asAdmins adminSigners (pure ()) (store .inst .epochOpen false)

abbrev getPausedPairs : M (List Symbol) := fetchOr .persistent .pausedPairIndex []

/-- Enter a pair into the index of paused pairs; fails when the index is full. -/
def addToPausedIndex (assetPair : Symbol) : M Bool := do
  let pairs ← getPausedPairs
  if assetPair ∈ pairs then return true
  else if pairs.length ≥ maxPausedPairs then return false
  else do
    store .persistent .pausedPairIndex (pairs ++ [assetPair])
    return true

def removeFromPausedIndex (assetPair : Symbol) : M Unit := do
  let pairs ← getPausedPairs
  whenever (assetPair ∈ pairs) do
    store .persistent .pausedPairIndex (pairs.erase assetPair)

abbrev setPairPaused (assetPair : Symbol) (paused : Bool) : M Unit :=
  asSingleAdmin (pure ()) do
    if paused then do
      whenever (!(← isPairPaused assetPair)) do
        require (← addToPausedIndex assetPair) .serviceSetFull
      store .persistent (.pairPaused assetPair) true
    else do
      remove .persistent (.pairPaused assetPair)
      removeFromPausedIndex assetPair

/-! ### Upgrades -/

/-- Add the signers that have not approved yet. -/
def collectApprovals (approvals signers : List Address) : List Address :=
  signers.foldl (fun seen signer => if signer ∈ seen then seen else seen ++ [signer]) approvals

/-- Park the upgrade and record it in the audit root, twice. -/
def recordUpgradeProposal (newWasmHash : BytesN 32) : M Unit := do
  let proposedBy ← getAdmin
  let proposedAt ← now
  let delay ← getUpgradeDelay
  store .inst .pendingUpgrade
    { newWasmHash, proposedAt, executableAfter := satAdd64 proposedAt delay, proposedBy }
  appendGovernanceAction newWasmHash.1
  updateAuditRoot

/-- With an admin set, approvals are collected over several calls. -/
abbrev proposeUpgrade (newWasmHash : BytesN 32) : M Unit :=
  asPolicyAdmins .upgradeGovernance adminSigners do
    require (!(← stored .inst .pendingUpgrade)) .upgradeAlreadyPending
    let adminSet ← getAdminSet
    let threshold ← getAdminThreshold
    if !adminSet.isEmpty ∧ threshold > 0 then do
      let approvals := collectApprovals (← fetchOr .inst .upgradeApprovals []) adminSigners
      if approvals.length < threshold then
        store .inst .upgradeApprovals approvals
      else do
        remove .inst .upgradeApprovals
        recordUpgradeProposal newWasmHash
    else
      recordUpgradeProposal newWasmHash

/-- The host keeps the hash of the contract's code in its instance. -/
abbrev updateCurrentContractWasm (newWasmHash : BytesN 32) : M Unit :=
  store .inst .contractWasm newWasmHash

/-- What the new code does afterwards is not modelled. -/
abbrev executeUpgrade : M Unit :=
  asPolicyAdmins .upgradeGovernance adminSigners do
    let proposal ← okOr (← fetch .inst .pendingUpgrade) .noPendingUpgrade
    require (proposal.executableAfter ≤ (← now)) .upgradeNotReady
    updateCurrentContractWasm proposal.newWasmHash
    remove .inst .pendingUpgrade
    emit (.upgradeExecuted proposal.newWasmHash)

abbrev vetoUpgrade : M Unit :=
  asPolicyAdmins .upgradeGovernance adminSigners do
    require (← stored .inst .pendingUpgrade) .noPendingUpgrade
    remove .inst .pendingUpgrade

/-! ### Parameter values -/

def paramKeyCooldown : Symbol := ⟨['c', 'o', 'o', 'l', 'd', 'o', 'w', 'n'], by decide⟩
def paramKeyHistoryDepth : Symbol := symbolHistDep
def paramKeyDecayRate : Symbol := ⟨['d', 'e', 'c', 'a', 'y', '_', 'r', 't'], by decide⟩
def paramKeyVelocityCap : Symbol := ⟨['v', 'e', 'l', '_', 'c', 'a', 'p'], by decide⟩
def paramKeyUpgradeDelay : Symbol := ⟨['u', 'p', 'g', '_', 'd', 'l', 'a', 'y'], by decide⟩
def paramKeyStalenessWindow : Symbol :=
  ⟨['s', 't', 'a', 'l', 'e', '_', 'w', 'i', 'n'], by decide⟩

def readU64 (bytes : Bytes) : M Nat := do
  require (bytes.length = 8) .invalidParameterValue
  return ofBeBytes bytes

def readU32 (bytes : Bytes) (offset : Nat) : M Nat := do
  require (offset + 4 ≤ bytes.length) .invalidParameterValue
  return ofBeBytes ((bytes.drop offset).take 4)

abbrev getStalenessWindow : M Nat :=
  fetchOr .inst .stalenessWindow defaultStalenessWindowSecs

section

variable (paramKey : Symbol) (newValue : Bytes)

def validateCooldownValue : M Unit := do
  let secs ← readU64 newValue
  require (cooldownInRange secs) .invalidCooldown
  require (secs ≤ (← getStalenessWindow)) .invalidCooldown

def validateHistoryDepthValue : M Unit := do
  let depth ← readU32 newValue 0
  require (1 ≤ depth ∧ depth ≤ maxHistoryDepth) .invalidHistoryDepth

def validateDecayRateValue : M Unit := do
  require (newValue.length = 8) .invalidParameterValue
  let numerator ← readU32 newValue 0
  let denominator ← readU32 newValue 4
  require (decayRateValid numerator denominator) .invalidThreshold

def validateVelocityCapValue : M Unit := do
  require (newValue.length = 5) .invalidParameterValue
  require ((newValue.getD 0 0).toNat ≤ 1) .invalidParameterValue

def validateUpgradeDelayValue : M Unit := do
  let delay ← readU64 newValue
  require (minUpgradeDelaySecs ≤ delay ∧ delay ≤ maxUpgradeDelaySecs) .invalidUpgradeDelay

def validateStalenessWindowValue : M Unit := do
  let secs ← readU64 newValue
  let bounds ← asks fun env => env.external.stalenessWindowBounds
  require (bounds.1 ≤ secs ∧ secs ≤ bounds.2) .invalidParameterValue
  require ((← getCooldownSecs) ≤ secs) .invalidParameterValue

def validateParameterValue : M Unit :=
  if paramKey = paramKeyCooldown then validateCooldownValue newValue
  else if paramKey = paramKeyHistoryDepth then validateHistoryDepthValue newValue
  else if paramKey = paramKeyDecayRate then validateDecayRateValue newValue
  else if paramKey = paramKeyVelocityCap then validateVelocityCapValue newValue
  else if paramKey = paramKeyUpgradeDelay then validateUpgradeDelayValue newValue
  else if paramKey = paramKeyStalenessWindow then validateStalenessWindowValue newValue
  else throw .invalidParameterKey

def storeVelocityCapValue : M Unit := do
  store .inst .scoreVelocityCapEnabled (newValue.head? = some 1)
  store .inst .scoreVelocityCapPointsPerHour (← readU32 newValue 1)

def applyParameterChange : M Unit := do
  validateParameterValue paramKey newValue
  if paramKey = paramKeyCooldown then store .inst .cooldownSecs (← readU64 newValue)
  else if paramKey = paramKeyHistoryDepth then
    store .inst .historyMaxDepth (← readU32 newValue 0)
  else if paramKey = paramKeyDecayRate then
    store .inst .decayRate (← readU32 newValue 0, ← readU32 newValue 4)
  else if paramKey = paramKeyVelocityCap then storeVelocityCapValue newValue
  else if paramKey = paramKeyUpgradeDelay then store .inst .upgradeDelay (← readU64 newValue)
  else if paramKey = paramKeyStalenessWindow then
    store .inst .stalenessWindow (← readU64 newValue)
  else throw .invalidParameterKey

/-- `copy_from_slice` into a slice of the given length traps for any other length. -/
def copyFromSlice (length : Nat) (source : Bytes) : M Bytes :=
  if source.length = length then return source else trap

/-- The decay rate is a pair of `u64`, and each is copied into four bytes. -/
def currentDecayRate : M Bytes := do
  let rate ← getDecayRate
  let numerator ← copyFromSlice 4 (toBeBytes 8 rate.1)
  let denominator ← copyFromSlice 4 (toBeBytes 8 rate.2)
  return numerator ++ denominator

def currentVelocityCap : M Bytes := do
  let cap ← getScoreVelocityCap
  let points ← copyFromSlice 4 (toBeBytes 4 cap.pointsPerHour)
  return (if cap.enabled then 1 else 0) :: points

def getCurrentParameterValue : M Bytes :=
  if paramKey = paramKeyCooldown then return toBeBytes 8 (← getCooldownSecs)
  else if paramKey = paramKeyHistoryDepth then do
    copyFromSlice 4 (toBeBytes 4 (← getHistoryMaxDepth))
  else if paramKey = paramKeyDecayRate then currentDecayRate
  else if paramKey = paramKeyVelocityCap then currentVelocityCap
  else if paramKey = paramKeyUpgradeDelay then return toBeBytes 8 (← getUpgradeDelay)
  else if paramKey = paramKeyStalenessWindow then return toBeBytes 8 (← getStalenessWindow)
  else throw .invalidParameterKey

/-! ### Parameter proposals -/

abbrev getParameterProposalRecord (id : Nat) : M (Option ParameterProposalRecord) :=
  fetch .inst (.parameterProposal id)

abbrev getPendingParameterProposalIds : M (List Nat) :=
  fetchOr .inst .pendingParameterProposalIds []

def isParameterProposalExpired (proposal : ParameterProposal) (time : Nat) : Bool :=
  satAdd64 proposal.proposedAt (satMul64 proposal.timeLockSecs 2) < time

/-- Settle a proposal and take it off the pending list. -/
def markParameterProposalStatus (id : Nat) (status : ParameterProposalStatus) : M Unit := do
  ifSome (← getParameterProposalRecord id) fun record => do
    store .inst (.parameterProposal id) { record with status }
    let ids ← getPendingParameterProposalIds
    store .inst .pendingParameterProposalIds (ids.filter (· ≠ id))

def pruneExpiredParameterProposals : M Unit := do
  let time ← now
  each (← getPendingParameterProposalIds) fun id => do
    ifSome (← getParameterProposalRecord id) fun record =>
      whenever (record.status = .pending && isParameterProposalExpired record.proposal time)
        (markParameterProposalStatus id .expired)

abbrev proposeParameterChange : M Nat :=
  asPolicyAdmins .scorePolicy adminSigners do
    let proposer ← getAdmin
    validateParameterValue paramKey newValue
    pruneExpiredParameterProposals
    require ((← getPendingParameterProposalIds).length < maxPendingParameterProposals)
      .tooManyPendingParameterProposals
    let proposedAt ← now
    let timeLockSecs ← getUpgradeDelay
    require (minUpgradeDelaySecs ≤ timeLockSecs) .invalidParameterTimeLock
    let id ← fetchOr .inst .parameterProposalNextId 1
    store .inst .parameterProposalNextId (satAdd64 id 1)
    store .inst (.parameterProposal id)
      { proposal := { paramKey, newValue, proposer, proposedAt, timeLockSecs }, status := .pending }
    store .inst .pendingParameterProposalIds ((← getPendingParameterProposalIds) ++ [id])
    return id

end

abbrev executeParameterChange (id : Nat) : M Unit :=
  asPolicyAdmins .scorePolicy adminSigners do
    let record ← okOr (← getParameterProposalRecord id) .parameterProposalNotFound
    require (record.status ≠ .executed) .parameterProposalAlreadyExecuted
    require (record.status ≠ .vetoed) .parameterProposalVetoed
    require (record.status = .pending) .parameterProposalNotFound
    let time ← now
    let proposal := record.proposal
    require (!isParameterProposalExpired proposal time) .parameterProposalExpired
    require (satAdd64 proposal.proposedAt proposal.timeLockSecs ≤ time) .parameterProposalNotReady
    applyParameterChange proposal.paramKey proposal.newValue
    markParameterProposalStatus id .executed

/-- The first half of the time lock is the service's to object. An empty list of
signers traps when the vetoer is looked up. -/
def vetoParameterChange (serviceSigners : List Address) (id : Nat) : M Unit := do
  require (← hasAdmin) .notInitialized
  requireServiceSignersAuth serviceSigners
  let record ← okOr (← getParameterProposalRecord id) .parameterProposalNotFound
  require (record.status ≠ .vetoed) .parameterProposalVetoed
  require (record.status ≠ .executed) .parameterProposalAlreadyExecuted
  require (record.status = .pending) .parameterProposalNotFound
  let proposal := record.proposal
  require ((← now) ≤ satAdd64 proposal.proposedAt (proposal.timeLockSecs / 2))
    .parameterProposalVetoPeriodEnded
  let _vetoer ← unwrap serviceSigners.head?
  markParameterProposalStatus id .vetoed

/-- Reading a proposal settles the expired ones. -/
def getParameterProposal (id : Nat) : M ParameterProposalRecord := do
  pruneExpiredParameterProposals
  okOr (← getParameterProposalRecord id) .parameterProposalNotFound

/-- The records are stored in the instance; the cleanup removes persistent
entries of the same key. -/
def cleanupProposal (time : Nat) (progress : Nat × Nat) (id : Nat) : M (Nat × Nat) := do
  (← getParameterProposalRecord id).elim (pure progress) fun record => do
    let proposal := record.proposal
    let expiry := satAdd64 proposal.proposedAt (satMul64 proposal.timeLockSecs 2)
    if record.status = .expired ∧ satAdd64 expiry 172800 < time then do
      remove .persistent (.parameterProposal id)
      return (← checked u32Bound (progress.1 + 1), progress.2)
    else
      return (progress.1, min progress.2 proposal.proposedAt)

abbrev cleanupExpiredParamProposals : M Nat :=
  asAdmins adminSigners (pure ()) do
    let nextId ← fetchOr .inst .parameterProposalNextId 1
    let progress ← fold (cleanupProposal (← now)) (0, u64Bound - 1) (List.range' 1 (nextId - 1))
    return progress.1

/-! ### Snapshots and alerts -/

/-- The indexed scores, without the accounts they belong to. -/
def scorePreimage (preimage : Bytes) (entry : Entry) : M Bytes := do
  return preimage ++ (← peekScore entry.1 entry.2).elim [] fun score =>
    toLeBytes 4 score.score ++ toLeBytes 8 score.timestamp ++ toLeBytes 4 score.modelVersion

def computeScoreRoot : M (BytesN 32 × Nat) := do
  let index ← fetchOr .persistent .scoreEntryIndex []
  let preimage ← fold scorePreimage [] index
  return (← sha256 preimage, index.length)

/-- The dormancy settings that the source appends when present are never set. -/
def computeConfigRoot : M (BytesN 32) := do
  sha256 (toLeBytes 4 (← getRiskThreshold) ++ toLeBytes 4 (← getJumpThreshold)
    ++ toLeBytes 8 (← getStalenessWindow) ++ toLeBytes 8 (← getCooldownSecs)
    ++ toLeBytes 4 (← getHistoryMaxDepth) ++ toLeBytes 4 (← getContractVersion))

def computeAuthRoot : M (BytesN 32) := do
  let flag (b : Bool) : UInt8 := if b then 1 else 0
  sha256 (toLeBytes 4 (← getAdminSet).length ++ toLeBytes 4 (← getServiceSet).length
    ++ toLeBytes 4 (← getAdminThreshold) ++ toLeBytes 4 (← getServiceThreshold)
    ++ [flag (← isPaused)] ++ [flag (← isFrozen)])

def pushSnapshotHistory (snapshot : StateSnapshot) (createdBy : Address) : M Unit := do
  let history ← fetchOr .inst .snapshotHistory []
  let kept := if history.length ≥ maxStoredSnapshots then history.drop 1 else history
  store .inst .snapshotHistory (kept ++ [{ snapshot, createdAt := ← now, createdBy }])
  store .inst .snapshotCount (satAdd32 (← fetchOr .inst .snapshotCount 0) 1)

abbrev computeStateChecksum : M StateSnapshot :=
  asAdmins adminSigners (pure ()) do
    let admin ← getAdmin
    let scores ← computeScoreRoot
    let snapshot : StateSnapshot := {
      scoreRoot := scores.1
      configRoot := ← computeConfigRoot
      authRoot := ← computeAuthRoot
      entryCount := scores.2
      ledgerSeq := ← ledgerSequence
      timestamp := ← now }
    pushSnapshotHistory snapshot admin
    updateAuditRoot
    return snapshot

/-- Compare the roots with those of an earlier snapshot. -/
def verifyStateChecksum (snapshot : StateSnapshot) : M Bool := do
  let scores ← computeScoreRoot
  let configRoot ← computeConfigRoot
  let authRoot ← computeAuthRoot
  return scores.1 = snapshot.scoreRoot && configRoot = snapshot.configRoot &&
    authRoot = snapshot.authRoot && scores.2 = snapshot.entryCount

abbrev acknowledgeAlert (alert : AlertType) (noteHash : BytesN 32) : M Unit :=
  asAdmins adminSigners (pure ()) do
    store .persistent (.alertAcknowledgement alert)
      { operator := ← getAdmin, acknowledgedAt := ← now, noteHash }

/-! ### Footprints -/

section Footprints

set_option synthInstance.maxSize 100000000

variable (assetPair : Symbol) (bytes : Bytes) (id : Nat)

instance : Touches (addToPausedIndex assetPair) [.pausedPairIndex] :=
  ⟨by unfold addToPausedIndex; infer_instance⟩

instance : Touches (removeFromPausedIndex assetPair) [.pausedPairIndex] :=
  ⟨by unfold removeFromPausedIndex; infer_instance⟩

instance (hash : BytesN 32) : Touches (recordUpgradeProposal hash)
    [.pendingUpgrade, .adminAuditRoot] :=
  ⟨by unfold recordUpgradeProposal; infer_instance⟩

instance : Touches (readU64 bytes) [] := ⟨by unfold readU64; infer_instance⟩

instance (offset : Nat) : Touches (readU32 bytes offset) [] := ⟨by unfold readU32; infer_instance⟩

instance : Touches (validateParameterValue assetPair bytes) [] :=
  ⟨by
    unfold validateParameterValue validateCooldownValue validateHistoryDepthValue
      validateDecayRateValue validateVelocityCapValue validateUpgradeDelayValue
      validateStalenessWindowValue
    infer_instance⟩

instance : Touches (applyParameterChange assetPair bytes)
    [.cooldownSecs, .historyMaxDepth, .decayRate, .scoreVelocityCapEnabled,
      .scoreVelocityCapPointsPerHour, .upgradeDelay, .stalenessWindow] :=
  ⟨by unfold applyParameterChange storeVelocityCapValue; infer_instance⟩

instance (status : ParameterProposalStatus) : Touches (markParameterProposalStatus id status)
    [.parameterProposal, .pendingParameterProposalIds] :=
  ⟨by unfold markParameterProposalStatus; infer_instance⟩

instance : Touches pruneExpiredParameterProposals
    [.parameterProposal, .pendingParameterProposalIds] :=
  ⟨by unfold pruneExpiredParameterProposals; infer_instance⟩

instance (signers : List Address) : Touches (vetoParameterChange signers id)
    [.authorizations, .parameterProposal, .pendingParameterProposalIds] :=
  ⟨by unfold vetoParameterChange; infer_instance⟩

instance : Touches (getParameterProposal id) [.parameterProposal, .pendingParameterProposalIds] :=
  ⟨by unfold getParameterProposal; infer_instance⟩

instance (time : Nat) (progress : Nat × Nat) : Touches (cleanupProposal time progress id)
    [.parameterProposal] :=
  ⟨by unfold cleanupProposal; infer_instance⟩

instance (entry : Entry) : Touches (scorePreimage bytes entry) [] :=
  ⟨by unfold scorePreimage; infer_instance⟩

instance : Touches computeScoreRoot [] := ⟨by unfold computeScoreRoot; infer_instance⟩

instance : Touches computeConfigRoot [] := ⟨by unfold computeConfigRoot; infer_instance⟩

instance : Touches computeAuthRoot [] := ⟨by unfold computeAuthRoot; infer_instance⟩

instance (snapshot : StateSnapshot) (createdBy : Address) :
    Touches (pushSnapshotHistory snapshot createdBy) [.snapshotHistory, .snapshotCount] :=
  ⟨by unfold pushSnapshotHistory; infer_instance⟩

end Footprints

end LedgerLens
