import LedgerLens.Admin.Fees
import LedgerLens.Admin.Registries

/-!
Queries that leave a trace: the risk gate, which remembers when it was read and
meters its consumers, the effective score, which may ask an oracle, and the
alert every reader may raise when the service has been silent.
-/

namespace LedgerLens

open Host Host.Prog Storage

/-! ### Service silence -/

/-- Raise the alert once when the service has been silent for too long. -/
def checkServiceSilence : M Unit := do
  whenever (!(← isSilentAlertEmitted)) do
    let lastActiveAt ← getLastServiceActivity
    whenever (lastActiveAt ≠ 0) do
      let silentSecs := (← now) - lastActiveAt
      let thresholdSecs ← getHeartbeatAlertThreshold
      whenever (silentSecs > thresholdSecs) do
        emit (.serviceSilenceAlert lastActiveAt silentSecs thresholdSecs)
        store .inst .serviceSilentAlertEmitted true

/-! ### The risk gate -/

/-- The tokens of a quota after refilling. -/
def refilledConsumerQuotaTokens (quota : ConsumerReadQuota) (time : Nat) : Nat :=
  if quota.capacity = 0 ∨ quota.refillRate = 0 then min quota.tokens quota.capacity
  else
    let added := min ((time - quota.lastRefill) * quota.refillRate) (quota.capacity - quota.tokens)
    min (satAdd32 quota.tokens added) quota.capacity

/-- Take one token; consumers without a quota read freely. -/
def consumeConsumerReadQuota (consumer : Address) : M Bool := do
  (← fetch .persistent (.consumerReadQuota consumer)).elim (pure true) fun quota => do
    let time ← now
    let tokens := refilledConsumerQuotaTokens quota time
    if tokens = 0 then return false
    else
      store .persistent (.consumerReadQuota consumer)
        { quota with tokens := tokens - 1, lastRefill := time }
      return true

/-- Low enough and sure enough. -/
def passesGate (risk : RiskScore) (gateThreshold floor : Nat) : Bool :=
  risk.score < gateThreshold && risk.confidence ≥ floor

section

variable (wallet : Address) (assetPair : Symbol)

/-- While paused, a fresh score of the failover contract is good enough. -/
def failoverGate (gateThreshold floor : Nat) : M Bool := do
  (← fetch .inst .failoverContract).elim (pure false) fun secondary => do
    let score ← asks fun env => env.external.getScoreOpt secondary wallet assetPair
    let time ← now
    return score.elim false fun risk =>
      time - risk.timestamp ≤ failoverStalenessWindow && passesGate risk gateThreshold floor

/-- The gate proper: closed for embargoed wallets, in the risk band and without
a score of the wallet or of its delegate. -/
def localGate (gateThreshold floor : Nat) : M Bool := do
  if (← isEmbargoed wallet) then return false
  else if (← fetchOr .temporary (.riskBandState wallet assetPair) false) then return false
  else
    (← peekScore wallet assetPair).elim
      (do
        (← getScoreDelegate wallet).elim (pure false) fun custodian => do
          return (← peekScore custodian assetPair).elim false (passesGate · gateThreshold floor))
      fun risk => return passesGate risk gateThreshold floor

def queryRiskGateForConsumer (consumer wallet : Address) (assetPair : Symbol)
    (gateThreshold minConfidence : Nat) (metered : Bool) : M Bool :=
  if !assetPairIsBounded assetPair then return false
  else do
    checkServiceSilence
    let strict ← fetchOr .inst .gateOpen false
    let callers ← fetchOr .inst .gateCallers []
    if strict ∧ consumer ∉ callers then return false
    else
      let admitted ← if metered then consumeConsumerReadQuota consumer else pure true
      if !admitted ∨ gateThreshold > 100 ∨ minConfidence > 100 then return false
      else
        let floor := max minConfidence (← fetchOr .inst .globalMinConfidence 0)
        if (← isPaused) then failoverGate wallet assetPair gateThreshold floor
        else localGate wallet assetPair gateThreshold floor

def queryRiskGateWithConfidence (gateThreshold minConfidence : Nat) : M Bool := do
  queryRiskGateForConsumer (← asks Env.self) wallet assetPair gateThreshold minConfidence false

/-- Remembers the ledger in which the gate was read. -/
def queryRiskGate (gateThreshold : Nat) : M Bool :=
  if !assetPairIsBounded assetPair then return false
  else do
    store .temporary (.gateReadLedger wallet assetPair) (← ledgerSequence)
    queryRiskGateWithConfidence wallet assetPair gateThreshold 0

def queryRiskGateMetered (consumer wallet : Address) (assetPair : Symbol) (gateThreshold : Nat) :
    M Bool := do
  requireAuth consumer
  queryRiskGateForConsumer consumer wallet assetPair gateThreshold 0 true

/-- The entry point of the same name that charges prepaid credits. -/
def RentRelayCredits.queryRiskGateMetered (consumer wallet : Address) (assetPair : Symbol)
    (gateThreshold : Nat) : M Bool := do
  require (← hasAdmin) .notInitialized
  requireAuth consumer
  chargeGateQuery consumer
  queryRiskGateWithConfidence wallet assetPair gateThreshold 0

/-! ### Effective score -/

structure EffectiveRiskScore where
  originalScore : Nat
  effectiveScore : Nat
  originalConfidence : Nat
  confidenceFloor : Nat
  delegatedTo : Option Address
  deriving DecidableEq

/-- The score itself, or the one before it while it is not final. -/
def confirmedScore (score : RiskScore) : M RiskScore := do
  let depth ← fetchOr .inst .finalityDepth 0
  let submittedIn ← fetchOr .persistent (.scoreSubmissionLedger wallet assetPair) 0
  if depth > 0 ∧ satAdd64 submittedIn depth > (← ledgerSequence) then
    let history ← getScoreHistory wallet assetPair
    if history.length ≥ 2 then unwrap history[history.length - 2]?
    else throw .finalityWindowNotElapsed
  else
    return score

/-- A floor of confidence from the price an oracle quotes. An oracle that was
asked before and has gone stale is not asked again. -/
def oracleConfidenceFloor : M Nat := do
  (← fetch .inst (.registeredOracle assetPair)).elim (pure 0) fun oracle => do
    let threshold ←
      fetchOr .inst .oracleStalenessThreshold defaultOracleStalenessThresholdSecs
    let time ← now
    let lastUpdated ← fetchOr .inst (.oracleLastUpdated assetPair) 0
    if lastUpdated > 0 ∧ time - lastUpdated > threshold then return 0
    else
      let price ← asks fun env => env.external.getPrice oracle assetPair
      store .inst (.oracleLastUpdated assetPair) time
      return if price ≤ 0 then 0 else (min (price / 20000) 50).toNat

def getEffectiveScore : M EffectiveRiskScore := do
  require (!(← isEmbargoed wallet)) .scoreEmbargoed
  let delegated ← (← getScoreDelegate wallet).elim (pure none) fun custodian =>
    getScore custodian assetPair
  let score ← okOr ((← getScore wallet assetPair).or delegated) .scoreNotFound
  let confirmed ← confirmedScore wallet assetPair score
  let elapsed := (← now) - confirmed.timestamp
  let decay ← getDecayRate
  let effectiveScore ←
    if decay.1 ≠ 0 then do
      let scaled ← checkedOr u64Bound (confirmed.score * decayFixed elapsed decay.1 decay.2)
        .arithmeticOverflow
      pure (scaled / decayFixedPointScale % u32Bound)
    else pure confirmed.score
  let confidenceFloor ← oracleConfidenceFloor assetPair
  return {
    originalScore := score.score
    effectiveScore
    originalConfidence := score.confidence
    confidenceFloor
    delegatedTo := none }

end

/-! ### Footprints -/

section Footprints

set_option synthInstance.maxSize 100000000

variable (consumer wallet : Address) (assetPair : Symbol) (threshold floor : Nat)

instance : Touches checkServiceSilence [.serviceSilentAlertEmitted] :=
  ⟨by unfold checkServiceSilence; infer_instance⟩

instance : Touches (consumeConsumerReadQuota consumer) [.consumerReadQuota] :=
  ⟨by unfold consumeConsumerReadQuota; infer_instance⟩

instance : Touches (failoverGate wallet assetPair threshold floor) [] :=
  ⟨by unfold failoverGate; infer_instance⟩

instance : Touches (localGate wallet assetPair threshold floor) [] :=
  ⟨by unfold localGate; infer_instance⟩

instance (metered : Bool) :
    Touches (queryRiskGateForConsumer consumer wallet assetPair threshold floor metered)
      [.serviceSilentAlertEmitted, .consumerReadQuota] :=
  ⟨by unfold queryRiskGateForConsumer; infer_instance⟩

instance : Touches (queryRiskGateWithConfidence wallet assetPair threshold floor)
    [.serviceSilentAlertEmitted, .consumerReadQuota] :=
  ⟨by unfold queryRiskGateWithConfidence; infer_instance⟩

instance : Touches (queryRiskGate wallet assetPair threshold)
    [.serviceSilentAlertEmitted, .consumerReadQuota, .gateReadLedger] :=
  ⟨by unfold queryRiskGate; infer_instance⟩

instance : Touches (queryRiskGateMetered consumer wallet assetPair threshold)
    [.authorizations, .serviceSilentAlertEmitted, .consumerReadQuota] :=
  ⟨by unfold queryRiskGateMetered; infer_instance⟩

instance : Touches (RentRelayCredits.queryRiskGateMetered consumer wallet assetPair threshold)
    [.authorizations, .consumerVolumeWindow, .gateCreditBalance, .gateCreditLiabilityTotal,
      .gateCreditRevenue, .serviceSilentAlertEmitted, .consumerReadQuota] :=
  ⟨by unfold RentRelayCredits.queryRiskGateMetered; infer_instance⟩

instance (score : RiskScore) : Touches (confirmedScore wallet assetPair score) [] :=
  ⟨by unfold confirmedScore; infer_instance⟩

instance : Touches (oracleConfidenceFloor assetPair) [.oracleLastUpdated] :=
  ⟨by unfold oracleConfidenceFloor; infer_instance⟩

instance : Touches (getEffectiveScore wallet assetPair) [.oracleLastUpdated] :=
  ⟨by unfold getEffectiveScore; infer_instance⟩

end Footprints

end LedgerLens
