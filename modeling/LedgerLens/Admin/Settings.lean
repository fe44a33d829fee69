import LedgerLens.Auth

/-!
The settings that steer how scores are accepted, weighted and reported. Most
entry points only differ in the check of their arguments and in the entry they
store. Settings with a delay are parked and applied by anyone later.
-/

namespace LedgerLens

open Host Host.Prog Storage

variable (adminSigners : List Address)

/-! ### Time-locked settings -/

def symbolRiskThr : Symbol := ⟨['r', 'i', 's', 'k', '_', 't', 'h', 'r'], by decide⟩
def symbolHistDep : Symbol := ⟨['h', 'i', 's', 't', '_', 'd', 'e', 'p'], by decide⟩
def symbolUpgDly : Symbol := ⟨['u', 'p', 'g', '_', 'd', 'l', 'y'], by decide⟩
def symbolStaleW : Symbol := ⟨['s', 't', 'a', 'l', 'e', '_', 'w'], by decide⟩

/-- Park a change until its delay has passed; one change per setting. -/
def parkParamChange (key : Symbol) (newValue : ParamValue) : M Unit := do
  require (!(← stored .inst (.pendingParamChange key))) .paramChangeAlreadyPending
  let proposedAt ← now
  store .inst (.pendingParamChange key)
    { newValue, proposedAt, applyAfter := satAdd64 proposedAt defaultParamChangeDelaySecs }

abbrev setHistoryMaxDepth (depth : Nat) : M Unit :=
  asAdmins adminSigners (require (depth ≠ 0 ∧ depth ≤ maxHistoryDepth) .invalidHistoryDepth)
    (parkParamChange symbolHistDep (.u32 depth))

abbrev setUpgradeDelay (delaySecs : Nat) : M Unit :=
  asAdmins adminSigners
    (require (minUpgradeDelaySecs ≤ delaySecs ∧ delaySecs ≤ maxUpgradeDelaySecs)
      .invalidUpgradeDelay)
    (parkParamChange symbolUpgDly (.u64 delaySecs))

abbrev setRiskThreshold (threshold : Nat) : M Unit :=
  asAdmins adminSigners (require (threshold ≤ 100) .invalidScore)
    (parkParamChange symbolRiskThr (.u32 threshold))

abbrev setStalenessWindow (windowSecs : Nat) : M Unit :=
  asAdmins adminSigners (require (windowSecs ≠ 0) .invalidStalenessWindow)
    (parkParamChange symbolStaleW (.u64 windowSecs))

def ParamValue.u32? : ParamValue → Option Nat
  | .u32 value => some value
  | .u64 _ => none

def ParamValue.u64? : ParamValue → Option Nat
  | .u32 _ => none
  | .u64 value => some value

/-- Each setting accepts values of its own width only. -/
def storeParamValue (key : Symbol) (newValue : ParamValue) : M Unit := do
  newValue.u32?.elim
    (do
      let value ← okOr newValue.u64? .invalidParameterKey
      if key = symbolUpgDly then store .inst .upgradeDelay value
      else if key = symbolStaleW then store .inst .stalenessWindow value
      else throw .invalidParameterKey)
    fun value =>
      if key = symbolRiskThr then store .inst .riskThreshold value
      else if key = symbolHistDep then store .inst .historyMaxDepth value
      else throw .invalidParameterKey

def applyParamChange (key : Symbol) : M Unit := do
  let pending ← okOr (← fetch .inst (.pendingParamChange key)) .noPendingUpgrade
  require (pending.applyAfter ≤ (← now)) .upgradeNotReady
  storeParamValue key pending.newValue
  remove .inst (.pendingParamChange key)

def cooldownInRange (secs : Nat) : Bool := minCooldownSecs ≤ secs && secs ≤ maxCooldownSecs

abbrev proposePolicyBundle (riskThreshold cooldownSecs : Nat) : M Unit :=
  asAdmins adminSigners
    (do
      require (riskThreshold ≤ 100) .invalidScore
      require (cooldownInRange cooldownSecs) .invalidCooldown)
    (do
      require (!(← stored .inst .pendingPolicyBundle)) .paramChangeAlreadyPending
      let proposedAt ← now
      store .inst .pendingPolicyBundle {
        bundle := { riskThreshold, cooldownSecs }
        proposedAt
        applyAfter := satAdd64 proposedAt defaultParamChangeDelaySecs })

def applyPolicyBundle : M Unit := do
  let pending ← okOr (← fetch .inst .pendingPolicyBundle) .noPendingUpgrade
  require (pending.applyAfter ≤ (← now)) .upgradeNotReady
  store .inst .riskThreshold pending.bundle.riskThreshold
  store .inst .cooldownSecs pending.bundle.cooldownSecs
  remove .inst .pendingPolicyBundle

/-! ### Thresholds and bands -/

abbrev enableAdaptiveThreshold (targetPercentile minValue maxValue : Nat) : M Unit :=
  asAdmins adminSigners
    (do
      require (50 ≤ targetPercentile ∧ targetPercentile ≤ 99) .invalidPercentile
      require (minValue ≤ maxValue) .invalidThreshold)
    (do
      store .inst .adaptiveThresholdEnabled true
      store .inst .adaptiveThresholdTargetPct targetPercentile
      store .inst .adaptiveThresholdMinValue minValue
      store .inst .adaptiveThresholdMaxValue maxValue)

abbrev disableAdaptiveThreshold : M Unit :=
  asAdmins adminSigners (pure ()) (store .inst .adaptiveThresholdEnabled false)

abbrev getAdaptiveThresholdMinValue : M Nat := fetchOr .inst .adaptiveThresholdMinValue 0
abbrev getAdaptiveThresholdMaxValue : M Nat := fetchOr .inst .adaptiveThresholdMaxValue 100

/-- The source starts from the minimum and never looks at the scores. -/
def recomputeAdaptiveThreshold : M Nat := do
  let minValue ← getAdaptiveThresholdMinValue
  let maxValue ← getAdaptiveThresholdMaxValue
  let newThreshold := min (max minValue minValue) maxValue
  let oldThreshold ← getLastComputedThreshold
  whenever (newThreshold ≠ oldThreshold) (store .inst .lastComputedThreshold newThreshold)
  return newThreshold

abbrev setAssetClassPolicy (class_ : Symbol) (riskThreshold : Nat) : M Unit :=
  asAdmins adminSigners (require (riskThreshold ≤ 100) .invalidScore)
    (store .persistent (.assetClassRiskThreshold class_) riskThreshold)

abbrev setPairAssetClass (assetPair class_ : Symbol) : M Unit :=
  asAdmins adminSigners (pure ()) (store .persistent (.pairAssetClass assetPair) class_)

abbrev setEscalationThreshold (n : Nat) : M Unit :=
  asAdmins adminSigners
    (require (minEscalationThreshold ≤ n ∧ n ≤ maxEscalationThreshold) .invalidThreshold)
    (store .inst .escalationThreshold n)

section

variable (wallet : Address) (assetPair : Symbol)

abbrev resetBreachCount : M Unit :=
  asAdmins adminSigners (pure ()) (remove .persistent (.breachCount wallet assetPair))

/-- Differs from `reset_breach_count` in its event only. -/
abbrev resetBreachCounter : M Unit :=
  asAdmins adminSigners (pure ()) (remove .persistent (.breachCount wallet assetPair))

abbrev setJumpThreshold (threshold : Nat) : M Unit :=
  asAdmins adminSigners (require (threshold ≠ 0 ∧ threshold ≤ 99) .invalidThreshold)
    (store .inst .jumpThreshold threshold)

abbrev setHysteresisMargin (margin : Nat) : M Unit :=
  asSingleAdmin
    (do
      require (margin ≤ maxHysteresisMargin) .invalidHysteresisMargin
      require (margin < (← getRiskThreshold)) .invalidHysteresisMargin)
    (store .inst .hysteresisMargin margin)

abbrev setGlobalMinConfidence (minConfidence : Nat) : M Unit :=
  asSingleAdmin (require (minConfidence ≤ 100) .invalidConfidence)
    (store .inst .globalMinConfidence minConfidence)

/-! ### Rate limits, velocity and floor -/

abbrev setCooldown (secs : Nat) : M Unit :=
  asAdmins adminSigners (require (cooldownInRange secs) .invalidCooldown)
    (store .inst .cooldownSecs secs)

abbrev setPairCooldown (secs : Nat) : M Unit :=
  asAdmins adminSigners (require (cooldownInRange secs) .invalidCooldown)
    (store .inst (.pairCooldown assetPair) secs)

abbrev clearPairCooldown : M Unit :=
  asAdmins adminSigners (pure ()) (remove .inst (.pairCooldown assetPair))

abbrev setAdaptiveRateLimit (enabled : Bool) (varianceScale : Nat) : M Unit :=
  asAdmins adminSigners (pure ()) (store .inst .adaptiveRateLimit { enabled, varianceScale })

abbrev setBurstCapacity (capacity : Nat) : M Unit :=
  asSingleAdmin (pure ()) (store .inst .burstCapacity capacity)

/-- The log keeps the latest entries. -/
def appendRateLimitOverrideLog (entry : RateLimitOverrideEntry) : M Unit := do
  let log ← fetchOr .inst .rateLimitOverrideLog []
  let kept := if log.length ≥ maxRateLimitOverrideLog then log.drop 1 else log
  store .inst .rateLimitOverrideLog (kept ++ [entry])

abbrev overrideRateLimit (justification : Bytes) : M Unit :=
  asAdmins adminSigners (pure ()) do
    let admin ← getAdmin
    remove .persistent (.lastSubmitTime wallet assetPair)
    let justificationHash ← sha256 justification
    appendRateLimitOverrideLog
      { admin, wallet, assetPair, timestamp := ← now, justificationHash }

/-- Unlike the single override, a batch leaves nothing in the log. -/
abbrev batchOverrideRateLimit (entries : List Entry) : M Nat :=
  asAdmins adminSigners (require (entries.length ≤ maxBatchSize) .batchTooLarge) do
    each entries fun entry => remove .persistent (.lastSubmitTime entry.1 entry.2)
    return entries.length

abbrev setScoreVelocityCap (enabled : Bool) (pointsPerHour : Nat) : M Unit :=
  asAdmins adminSigners (pure ()) do
    store .inst .scoreVelocityCapEnabled enabled
    store .inst .scoreVelocityCapPointsPerHour pointsPerHour

abbrev overrideScoreVelocityCap : M Unit :=
  asAdmins adminSigners (pure ()) (store .persistent (.velocityCapOverride wallet assetPair) true)

abbrev setScoreFloorPolicy (enabled : Bool) (highWaterMark floorValue : Nat) : M Unit :=
  asAdmins adminSigners
    (require (minScoreFloorHwm ≤ highWaterMark ∧ highWaterMark ≤ maxScoreFloorHwm ∧
      floorValue < highWaterMark) .invalidThreshold)
    (store .inst .scoreFloorConfig (enabled, highWaterMark, floorValue))

abbrev overrideScoreFloor : M Unit :=
  asAdmins adminSigners (pure ()) (remove .persistent (.historicalMaxScore wallet assetPair))

abbrev setFinalityBuffer (secs : Nat) : M Unit :=
  asAdmins adminSigners (require (secs ≤ maxFinalityBufferSecs) .invalidFinalityBuffer)
    (store .inst .finalityBufferSecs secs)

abbrev setFlashProtectionMode (mode : FlashProtectionMode) : M Unit :=
  asAdmins adminSigners (pure ()) (store .inst .flashProtectionMode mode)

abbrev setHeartbeatAlertThreshold (secs : Nat) : M Unit :=
  asAdmins adminSigners (pure ()) (store .inst .serviceHeartbeatAlertThreshold secs)

/-! ### Weights, decay and statistics -/

abbrev setPairWeight (weight : Nat) : M Unit :=
  asAdmins adminSigners (pure ()) (store .persistent (.pairWeight assetPair) weight)

end

abbrev setPairWeightBatch (entries : List (Symbol × Nat)) : M Unit :=
  asAdmins adminSigners
    (do
      require (!entries.isEmpty) .emptyBatch
      require (entries.length ≤ maxBatchSize) .batchTooLarge)
    (each entries fun entry => store .persistent (.pairWeight entry.1) entry.2)

abbrev bulkResetPairWeight (pairs : List Symbol) : M Unit :=
  asAdmins adminSigners (pure ()) do
    require (!((← getRequireMultisigForDestructive) && adminSigners.length < 2))
      .insufficientAdminSigners
    each pairs fun pair => do
      whenever (← stored .persistent (.pairWeight pair)) (remove .persistent (.pairWeight pair))

abbrev setDestructiveMultisig (required : Bool) : M Unit :=
  asAdmins adminSigners (pure ()) (store .inst .requireDestructiveMultisig required)

/-- At most one point per second: the bound is compared in cross product, and an
overflow counts as too large. -/
def decayRateValid (numerator denominator : Nat) : Bool :=
  denominator ≠ 0 &&
    numerator * maxDecayLambdaDen < u64Bound &&
      numerator * maxDecayLambdaDen ≤ satMul64 maxDecayLambdaNum denominator

abbrev setDecayRate (numerator denominator : Nat) : M Unit :=
  asSingleAdmin
    (do
      require (!(← isPaused)) .contractPaused
      require (decayRateValid numerator denominator) .invalidDecayRate)
    (store .inst .decayRate (numerator, denominator))

def boundariesAscend : Nat → List Nat → Bool
  | _, [] => true
  | prev, b :: rest => b ≠ 0 && b ≤ 100 && prev < b && boundariesAscend b rest

abbrev setClusterBoundaries (boundaries : List Nat) : M Unit :=
  asAdmins adminSigners
    (require (!boundaries.isEmpty && boundariesAscend 0 boundaries) .invalidThreshold)
    (store .inst .clusterBoundaries boundaries)

abbrev setPairVolatilityWindow (secs : Nat) : M Unit :=
  asAdmins adminSigners (require (60 ≤ secs ∧ secs ≤ 604800) .invalidStalenessWindow)
    (store .inst .pairVolatilityWindow secs)

abbrev setHllPrecision (precision : Nat) : M Unit :=
  asAdmins adminSigners
    (require (hllMinPrecision ≤ precision ∧ precision ≤ hllMaxPrecision) .invalidThreshold)
    (store .inst .hllPrecision precision)

abbrev setPrivacyEpsilon (epsilonBps : Nat) : M Unit :=
  asAdmins adminSigners (pure ()) (store .inst .dpEpsilon epsilonBps)

abbrev setPairCorrelation (pairA pairB : Symbol) (corr : Int) : M Unit :=
  asSingleAdmin (pure ()) (store .inst (.pairCorrelation pairA pairB) corr)

abbrev resetPairCorrelation (pairA pairB : Symbol) : M Unit :=
  asSingleAdmin (pure ()) (remove .inst (.welfordCorrState pairA pairB))

abbrev setInterpolationMethod (method : InterpolationMethod) : M Unit :=
  asSingleAdmin (pure ()) (store .inst .interpolationMethod method)

abbrev setMomentumWindow (secs : Nat) : M Unit :=
  asSingleAdmin (pure ()) (store .inst .momentumWindow secs)

abbrev setMomentumAlertThreshold (threshold : Nat) : M Unit :=
  asSingleAdmin (pure ()) (store .inst .momentumAlertThreshold threshold)

/-! ### Consensus -/

abbrev setConsensusConfig (k epsilon : Nat) : M Unit :=
  asSingleAdmin (require (k ≠ 0 ∧ epsilon ≤ 100) .invalidConsensusConfig) do
    store .inst .consensusThresholdK k
    store .inst .consensusEpsilon epsilon

abbrev setAdaptiveEpsilon (enabled : Bool) (scaleFactor : Nat) : M Unit :=
  asSingleAdmin (pure ()) do
    store .inst .adaptiveEpsilonEnabled enabled
    store .inst .adaptiveEpsilonScaleFactor scaleFactor

abbrev setAdaptiveEpsilonBounds (enabled : Bool) (minEpsilon maxEpsilon : Nat) : M Unit :=
  asAdmins adminSigners (pure ()) do
    require (minEpsilon ≤ maxEpsilon) .invalidThreshold
    require (maxEpsilon ≤ defaultRiskThreshold) .invalidThreshold
    require (!(enabled && minEpsilon = 0)) .invalidThreshold
    store .inst .adaptiveEpsilonEnabled enabled
    store .inst .adaptiveEpsilonMin minEpsilon
    store .inst .adaptiveEpsilonMax maxEpsilon

abbrev setRevealWindow (secs : Nat) : M Unit :=
  asSingleAdmin (require (secs ≤ maxRevealWindowSecs) .invalidRevealWindow)
    (store .inst .revealWindowSecs secs)

/-! ### Footprints -/

section Footprints

set_option synthInstance.maxSize 100000000

variable (key : Symbol) (newValue : ParamValue)

instance : Touches (parkParamChange key newValue) [.pendingParamChange] :=
  ⟨by unfold parkParamChange; infer_instance⟩

instance : Touches (storeParamValue key newValue)
    [.upgradeDelay, .stalenessWindow, .riskThreshold, .historyMaxDepth] :=
  ⟨by unfold storeParamValue; infer_instance⟩

instance : Touches (applyParamChange key)
    [.upgradeDelay, .stalenessWindow, .riskThreshold, .historyMaxDepth, .pendingParamChange] :=
  ⟨by unfold applyParamChange; infer_instance⟩

instance : Touches applyPolicyBundle [.riskThreshold, .cooldownSecs, .pendingPolicyBundle] :=
  ⟨by unfold applyPolicyBundle; infer_instance⟩

instance : Touches recomputeAdaptiveThreshold [.lastComputedThreshold] :=
  ⟨by unfold recomputeAdaptiveThreshold; infer_instance⟩

instance (entry : RateLimitOverrideEntry) : Touches (appendRateLimitOverrideLog entry)
    [.rateLimitOverrideLog] :=
  ⟨by unfold appendRateLimitOverrideLog; infer_instance⟩

end Footprints

end LedgerLens
