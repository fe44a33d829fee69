import LedgerLens.Host.Wp
import LedgerLens.Storage.Scores
import LedgerLens.View

/-!
The checks a submission has to pass on every path: ranges and model version,
the cooldown, the velocity cap and the score floor. The source repeats most of
them in each entry point; here each is one definition.
-/

namespace LedgerLens

open Host Host.Prog Storage

/-! ### Switches -/

def ensureActive : M Unit := do
  require (← hasAdmin) .notInitialized
  require (!(← isPaused)) .contractPaused

section

variable (wallet : Address) (assetPair : Symbol)

/-- Pair symbols must fit the nine bytes the hash preimages reserve for them. -/
def assetPairIsBounded : Bool := assetPair.bytes.length ≤ maxAssetPairBytes

def ensureAssetPairBounded : M Unit :=
  require (assetPairIsBounded assetPair) .invalidAttestation

/-- A commitment, when given, is one hash long. -/
def ensureScoreCommitmentBounded (commitment : Option Bytes) : M Unit :=
  require (commitment.elim true fun bytes => bytes.length = maxScoreCommitmentBytes)
    .invalidAttestation

/-! ### Validation -/

/-- The model version must be registered and active, once any is registered. -/
def validateModelVersion (modelVersion : Nat) : M Unit := do
  let versionSet ← getModelVersionSet
  if versionSet.isEmpty then
    pure ()
  else do
    require (modelVersion ∈ versionSet) .modelVersionNotRegistered
    let status ← getModelVersionStatus modelVersion
    if status = some .active then pure ()
    else if status = some .proposed then throw .modelVersionNotReady
    else if status = some .deprecated then throw .modelVersionDeprecated
    else throw .modelVersionNotRegistered

/-- The checks shared by submissions and stored scores. -/
def validateFields (score confidence timestamp modelVersion : Nat) : M Unit := do
  require (score ≤ 100) .invalidScore
  require (confidence ≤ 100) .invalidConfidence
  require (timestamp ≠ 0) .invalidTimestamp
  validateModelVersion modelVersion

def validateNormalizedSubmission (sub : NormalizedSubmission) : M Unit :=
  validateFields sub.score sub.confidence sub.timestamp sub.modelVersion

def validateRiskScore (score : RiskScore) : M Unit :=
  validateFields score.score score.confidence score.timestamp score.modelVersion

/-! ### Cooldown -/

/-- Spread of the scores counted in a histogram, from 0 to 1000. -/
def globalVariance (buckets : List Nat) : Nat :=
  let total := buckets.foldl satAdd64 0
  if total = 0 then 0
  else
    let weightedSum := buckets.zipIdx.foldl
      (fun sum entry => satAdd64 sum (satMul64 (entry.2 * 10 + 5) entry.1)) 0
    let weightedSumSq := buckets.zipIdx.foldl
      (fun sum entry => satAdd64 sum
        (satMul64 (satMul64 (entry.2 * 10 + 5) (entry.2 * 10 + 5)) entry.1)) 0
    let meanScaled := weightedSum * 1000 / total
    let meanSqScaled := meanScaled * meanScaled / 1000
    let esqScaled := weightedSumSq * 1000 / total
    min ((esqScaled - meanSqScaled) / 2500) 1000

def computeGlobalVariance : M Nat := return globalVariance (← getHistogramVec)

/-- The base cooldown, stretched by the spread of the live scores. -/
def stretchCooldown (varianceScale normVar base : Nat) : Nat :=
  min (satMul128 base (1000 + varianceScale * normVar) / 1000) (u64Bound - 1)

def computeEffectiveCooldown (base : Nat) : M Nat := do
  let config ← getAdaptiveRateLimit
  if !config.enabled || config.varianceScale = 0 then
    return base
  else
    let normVar ← computeGlobalVariance
    return stretchCooldown config.varianceScale normVar base

/-- The cooldown in force for a pair. -/
def getEffectiveCooldown : M Nat := do
  computeEffectiveCooldown (← getPairCooldownSecs assetPair)

/-- A submission at time `now` is late enough after the last one. -/
def cooldownElapsed (now lastSubmit cooldown : Nat) : Bool :=
  lastSubmit = 0 || satAdd64 lastSubmit cooldown ≤ now

/-! ### Velocity cap and score floor -/

/-- The change of score is larger than the time since the last submission allows. -/
def velocityExceeded (cap : ScoreVelocityCap) (now lastSubmit previous new : Nat) : Bool :=
  lastSubmit ≠ 0 &&
    max 1 (satMul64 cap.pointsPerHour (now - lastSubmit) / 3600) < absDiff new previous

/-- Whether the velocity cap rejects a new score. A standing override is used up. -/
def velocityCapBlocks (previous : Option Nat) (lastSubmit new : Nat) : M Bool :=
  previous.elim (pure false) fun prev => do
    let cap ← getScoreVelocityCap
    if cap.enabled then
      if (← isVelocityCapOverridden wallet assetPair) then do
        remove .persistent (.velocityCapOverride wallet assetPair)
        return false
      else
        return velocityExceeded cap (← now) lastSubmit prev new
    else
      return false

/-- Once a wallet has scored at the high-water mark, scores under the floor are
rejected. -/
def scoreFloorBlocks (newScore : Nat) : M Bool := do
  let policy ← getScoreFloorPolicy
  if policy.enabled then
    let historicalMax ← getHistoricalMaxScore wallet assetPair
    return historicalMax ≥ policy.highWaterMark && newScore < policy.floorValue
  else
    return false

end

/-! ### Thresholds -/

/-- The adaptive threshold once computed, else the configured one. -/
def getEffectiveThreshold : M Nat := do
  if (← isAdaptiveThresholdEnabled) then
    let lastComputed ← getLastComputedThreshold
    if lastComputed ≠ 0 then return lastComputed else getRiskThreshold
  else
    getRiskThreshold

/-! ### The policies as functions of the state -/

/-- The threshold `getEffectiveThreshold` returns. -/
def effectiveThreshold (w : State) : Nat :=
  let lastComputed := (w.ledger.entry .inst .lastComputedThreshold).getD 0
  if (w.ledger.entry .inst .adaptiveThresholdEnabled).getD false ∧ lastComputed ≠ 0 then
    lastComputed
  else
    (w.ledger.entry .inst .riskThreshold).getD defaultRiskThreshold

@[simp] theorem wp_getEffectiveThreshold {Q : Nat → State → Prop} {env : ContractEnv} {w : State} :
    wp getEffectiveThreshold Q env w ↔ Q (effectiveThreshold w) w := by
  simp only [getEffectiveThreshold, effectiveThreshold, wp_bind, wp_loadOr, wp_ite, wp_pure]
  split_ifs <;> simp_all

@[simp] theorem wp_ensureActive {Q : Unit → State → Prop} {env : ContractEnv} {w : State} :
    wp ensureActive Q env w ↔ (adminOf w).isSome = true ∧ paused w = false ∧ Q () w := by
  simp [ensureActive]

/-! ### Footprints -/

section Footprints

variable (wallet : Address) (assetPair : Symbol)

instance : Touches ensureActive [] := ⟨by unfold ensureActive; infer_instance⟩

instance : Touches (ensureAssetPairBounded assetPair) [] :=
  ⟨by unfold ensureAssetPairBounded; infer_instance⟩

instance (commitment : Option Bytes) : Touches (ensureScoreCommitmentBounded commitment) [] :=
  ⟨by unfold ensureScoreCommitmentBounded; infer_instance⟩

instance (version : Nat) : Touches (validateModelVersion version) [] :=
  ⟨by unfold validateModelVersion; infer_instance⟩

instance (score confidence timestamp version : Nat) :
    Touches (validateFields score confidence timestamp version) [] :=
  ⟨by unfold validateFields; infer_instance⟩

instance (sub : NormalizedSubmission) : Touches (validateNormalizedSubmission sub) [] :=
  ⟨by unfold validateNormalizedSubmission; infer_instance⟩

instance (score : RiskScore) : Touches (validateRiskScore score) [] :=
  ⟨by unfold validateRiskScore; infer_instance⟩

instance : Touches computeGlobalVariance [] := ⟨by unfold computeGlobalVariance; infer_instance⟩

instance (base : Nat) : Touches (computeEffectiveCooldown base) [] :=
  ⟨by unfold computeEffectiveCooldown; infer_instance⟩

instance : Touches (getEffectiveCooldown assetPair) [] :=
  ⟨by unfold getEffectiveCooldown; infer_instance⟩

instance (previous : Option Nat) (lastSubmit new : Nat) :
    Touches (velocityCapBlocks wallet assetPair previous lastSubmit new) [.velocityCapOverride] :=
  ⟨by unfold velocityCapBlocks; infer_instance⟩

instance (newScore : Nat) : Touches (scoreFloorBlocks wallet assetPair newScore) [] :=
  ⟨by unfold scoreFloorBlocks; infer_instance⟩

instance : Touches getEffectiveThreshold [] := ⟨by unfold getEffectiveThreshold; infer_instance⟩

end Footprints

end LedgerLens
