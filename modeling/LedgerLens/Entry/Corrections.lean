import LedgerLens.Auth
import LedgerLens.Score.Derived

/-!
Scores corrected or removed after the fact: disputes with their bonds, and the
deletion of scores and histories by the administrators.
-/

namespace LedgerLens

open Host Host.Prog Storage

abbrev getFeeToken : M (Option Address) := fetch .inst .feeToken

/-! ### Disputes -/

section

variable (adminSigners : List Address) (wallet : Address) (assetPair : Symbol)
  (reason category : Bytes)

abbrev getDispute : M (Option ScoreDispute) :=
  fetch .temporary (.scoreDispute wallet assetPair)

abbrev getDisputeIndex : M (List Entry) := fetchOr .persistent .disputeIndex []

/-- Enter a dispute into the index; fails when the index is full. -/
def addToDisputeIndex : M Bool := do
  let disputes ← getDisputeIndex
  if (wallet, assetPair) ∈ disputes then return true
  else if disputes.length ≥ maxOpenDisputes then return false
  else do
    store .persistent .disputeIndex (disputes ++ [(wallet, assetPair)])
    return true

def removeFromDisputeIndex : M Unit := do
  let disputes ← getDisputeIndex
  whenever ((wallet, assetPair) ∈ disputes) do
    store .persistent .disputeIndex (disputes.erase (wallet, assetPair))

/-- Forget a dispute. -/
def closeDispute : M Unit := do
  remove .temporary (.scoreDispute wallet assetPair)
  removeFromDisputeIndex wallet assetPair

section

variable (challenger wallet : Address) (assetPair : Symbol) (bond : Int) (bondSalt : Bytes)

def commitDisputeBond (bondAmountSalt : Bytes) : M Unit := do
  require (← hasAdmin) .notInitialized
  ensureAssetPairBounded assetPair
  require (bondAmountSalt.length ≤ maxDisputeBondPreimageBytes) .invalidAttestation
  requireAuth challenger
  let commitment ← sha256 bondAmountSalt
  store .temporary (.disputeCommit challenger wallet assetPair) commitment
  store .temporary (.disputeCommitTime challenger wallet assetPair) (← now)

def removeDisputeCommit : M Unit := do
  remove .temporary (.disputeCommit challenger wallet assetPair)
  remove .temporary (.disputeCommitTime challenger wallet assetPair)

/-- Check the revealed bond against the commitment and use the commitment up. -/
def revealBond : M Unit := do
  let commitment ←
    okOr (← fetch .temporary (.disputeCommit challenger wallet assetPair)) .revealWindowExpired
  let commitTime ← fetchOr .temporary (.disputeCommitTime challenger wallet assetPair) 0
  let revealWindow ← getRevealWindowSecs
  if (← now) > satAdd64 commitTime revealWindow then do
    removeDisputeCommit challenger wallet assetPair
    throw .revealWindowExpired
  else do
    require ((← sha256 (i128LeBytes bond ++ bondSalt)) = commitment) .commitmentMismatch
    removeDisputeCommit challenger wallet assetPair

/-- Count the indexed dispute if it is one of the challenger's. -/
def countDispute (challenger : Address) (count : Nat) (entry : Entry) : M Nat := do
  let dispute ← getDispute entry.1 entry.2
  return count + if dispute.elim false (fun d => d.challenger = challenger) then 1 else 0

/-- The event names the disputed wallet where the challenger belongs. -/
def openScoreDispute : M Unit := do
  ensureActive
  ensureAssetPairBounded assetPair
  require (bondSalt.length ≤ maxDisputeBondSaltBytes) .invalidAttestation
  require (bond > 0) .invalidDisputeBond
  let feeToken ← okOr (← getFeeToken) .feeTokenNotSet
  requireAuth challenger
  revealBond challenger wallet assetPair bond bondSalt
  require (← getDispute wallet assetPair).isNone .disputeAlreadyOpen
  let actorDisputeCount ← fold (countDispute challenger) 0 (← getDisputeIndex)
  require (actorDisputeCount < maxDisputesPerActor) .actorDisputeLimitExceeded
  require (← addToDisputeIndex wallet assetPair) .disputeAlreadyOpen
  transfer feeToken challenger (← asks Env.self) bond
  let challengedScore := (← peekScore wallet assetPair).elim 0 RiskScore.score
  let deadline := satAdd64 (← now) disputeChallengePeriodSecs
  store .temporary (.scoreDispute wallet assetPair) { challenger, bond, deadline, challengedScore }
  emit (.disputeOpened wallet assetPair bond deadline)

end

/-- The score an administrator puts in place of a disputed one. -/
def correctedRiskScore (score timestamp : Nat) : RiskScore where
  score := score
  benfordFlag := false
  mlFlag := false
  timestamp := timestamp
  confidence := 100
  modelVersion := 0
  benfordScore := 0
  mlScore := 0
  networkScore := 0
  commitment := none

def resolveDisputeAdmin (correctedScore : Nat) : M Unit := do
  require (!(← isScoreHookDispatching)) .scoreHookDispatchInProgress
  require (← hasAdmin) .notInitialized
  require (!(← isPaused)) .contractPaused
  requireAdminAuth adminSigners
  require (correctedScore ≤ 100) .invalidScore
  let dispute ← okOr (← getDispute wallet assetPair) .disputeNotFound
  let feeToken ← okOr (← getFeeToken) .feeTokenNotSet
  let corrected := correctedRiskScore correctedScore (← now)
  setScore wallet assetPair corrected
  pushScoreHistory wallet assetPair corrected
  registerPairForWallet wallet assetPair
  incrementScoreCount wallet assetPair
  incrementPairScoreCount assetPair
  refreshAggregateCache wallet
  emit (.scoreSubmitted wallet assetPair corrected)
  transfer feeToken (← asks Env.self) dispute.challenger dispute.bond
  closeDispute wallet assetPair
  emit (.disputeResolved dispute.challenger assetPair correctedScore dispute.bond)

def resolveDisputeTimeout : M Unit := do
  require (← hasAdmin) .notInitialized
  let dispute ← okOr (← getDispute wallet assetPair) .disputeNotFound
  require ((← now) > dispute.deadline) .disputeNotYetTimedOut
  let feeToken ← okOr (← getFeeToken) .feeTokenNotSet
  let bonus := (satMulI128 dispute.bond disputeBonusPct).tdiv 100
  let payout := satAddI128 dispute.bond bonus
  transfer feeToken (← asks Env.self) dispute.challenger payout
  closeDispute wallet assetPair
  emit (.disputeTimedOut dispute.challenger assetPair dispute.bond bonus)

/-! ### Deletion -/

/-- What a deletion event says about the data and about who approved it. -/
def deletionAudit : M DeletionAudit := do
  let latestScorePresent := (← peekScore wallet assetPair).isSome
  let historyCount := (← getScoreHistory wallet assetPair).length
  let threshold ← getAdminThreshold
  let multisigEnabled := !(← getAdminSet).isEmpty && decide (threshold > 0)
  return {
    wallet, assetPair
    by_ := ← getAdmin
    latestScorePresent, historyCount
    reasonHash := ← sha256 reason
    categoryHash := ← sha256 category
    multisigEnabled
    signerCount := if multisigEnabled then adminSigners.length else 1
    threshold := if multisigEnabled then threshold else 1 }

/-- Take the live score, if there is one, out of the histogram. -/
def uncountScore : M Unit := do
  ifSome (← peekScore wallet assetPair) fun risk => updateHistogramOnClear risk.score

/-- Removes the history only; the live score stays, though it is taken out of
the histogram. -/
def clearScoreHistoryWithAudit : M Unit := do
  require (← hasAdmin) .notInitialized
  requireDeletionAuth adminSigners
  let audit ← deletionAudit adminSigners wallet assetPair reason category
  uncountScore wallet assetPair
  remove .persistent (.scoreHistory wallet assetPair)
  emit (.scoreHistoryCleared audit)

def clearScoreWithAudit : M Unit := do
  require (!(← isScoreHookDispatching)) .scoreHookDispatchInProgress
  require (← hasAdmin) .notInitialized
  requireDeletionAuth adminSigners
  let audit ← deletionAudit adminSigners wallet assetPair reason category
  uncountScore wallet assetPair
  clearScore wallet assetPair
  emit (.scoreCleared audit)

end

/-! ### Footprints -/

section Footprints

set_option synthInstance.maxSize 100000000

variable (challenger wallet : Address) (assetPair : Symbol) (signers : List Address)

instance : Touches (addToDisputeIndex wallet assetPair) [.disputeIndex] :=
  ⟨by unfold addToDisputeIndex; infer_instance⟩

instance : Touches (removeFromDisputeIndex wallet assetPair) [.disputeIndex] :=
  ⟨by unfold removeFromDisputeIndex; infer_instance⟩

instance : Touches (closeDispute wallet assetPair) [.scoreDispute, .disputeIndex] :=
  ⟨by unfold closeDispute; infer_instance⟩

instance (preimage : Bytes) : Touches (commitDisputeBond challenger wallet assetPair preimage)
    [.authorizations, .disputeCommit, .disputeCommitTime] :=
  ⟨by unfold commitDisputeBond; infer_instance⟩

instance : Touches (removeDisputeCommit challenger wallet assetPair)
    [.disputeCommit, .disputeCommitTime] :=
  ⟨by unfold removeDisputeCommit; infer_instance⟩

instance (bond : Int) (salt : Bytes) : Touches (revealBond challenger wallet assetPair bond salt)
    [.disputeCommit, .disputeCommitTime] :=
  ⟨by unfold revealBond; infer_instance⟩

instance (count : Nat) (entry : Entry) : Touches (countDispute challenger count entry)
    [] :=
  ⟨by unfold countDispute; infer_instance⟩

instance (bond : Int) (salt : Bytes) :
    Touches (openScoreDispute challenger wallet assetPair bond salt)
      [.authorizations, .balances, .disputeCommit, .disputeCommitTime, .disputeIndex,
        .scoreDispute] :=
  ⟨by unfold openScoreDispute; infer_instance⟩

/-- Everything the resolution of a dispute by the administrators may write. -/
abbrev resolveTags : List Tag :=
  [.authorizations, .balances, .score, .scoreEntryIndex, .scoreEntryLastTouchedLedger,
    .scoreHistory, .assetPairs, .scoreCount,
    .pairScoreCount, .aggregateScore, .scoreDispute, .disputeIndex]

instance (corrected : Nat) : Touches (resolveDisputeAdmin signers wallet assetPair corrected)
    resolveTags :=
  ⟨by unfold resolveDisputeAdmin; infer_instance⟩

instance : Touches (resolveDisputeTimeout wallet assetPair)
    [.balances, .scoreDispute, .disputeIndex] :=
  ⟨by unfold resolveDisputeTimeout; infer_instance⟩

instance (reason category : Bytes) :
    Touches (deletionAudit signers wallet assetPair reason category) [] :=
  ⟨by unfold deletionAudit; infer_instance⟩

instance : Touches (uncountScore wallet assetPair) [.scoreHistogram] :=
  ⟨by unfold uncountScore; infer_instance⟩

instance (reason category : Bytes) :
    Touches (clearScoreHistoryWithAudit signers wallet assetPair reason category)
      [.authorizations, .scoreHistogram, .scoreHistory] :=
  ⟨by unfold clearScoreHistoryWithAudit; infer_instance⟩

instance (reason category : Bytes) :
    Touches (clearScoreWithAudit signers wallet assetPair reason category)
      [.authorizations, .scoreHistogram, .score, .assetPairs, .scoreEntryIndex] :=
  ⟨by unfold clearScoreWithAudit; infer_instance⟩

end Footprints

end LedgerLens
