import LedgerLens.Score.Policy

/-!
What a stored score sets in motion: the wallet's aggregate and cluster, the
pair correlations, the Verkle commitment, the breach counter, the risk band,
the trend and the jump statistics, and the service heartbeat.
-/

namespace LedgerLens

open Host Host.Prog Storage

/-! ### Aggregate score -/

abbrev decayFixedPointScale : Nat := 1000000

/-- `exp (-num / den * age)` in fixed point, by its Taylor polynomial of degree
four; zero from the argument 5 on and when the product overflows. -/
def decayFixed (ageSecs lambdaNum lambdaDen : Nat) : Nat :=
  if lambdaNum = 0 then decayFixedPointScale
  else if lambdaDen = 0 ∨ u64Bound ≤ lambdaNum * ageSecs * decayFixedPointScale then 0
  else
    let xScaled := lambdaNum * ageSecs * decayFixedPointScale / lambdaDen
    if 5 * decayFixedPointScale ≤ xScaled then 0
    else
      let x : Int := xScaled
      let s : Int := decayFixedPointScale
      let result := s - x + x * x / (2 * s) - x * x * x / (6 * s * s)
        + x * x * x * x / (24 * s * s * s)
      if result < 0 then 0
      else if s < result then decayFixedPointScale
      else result.toNat

/-- The running totals of `compute_aggregate_score`. -/
structure AggregateTotals where
  index : Nat
  weightedSum : Nat
  weightSum : Nat
  maxPairScore : Nat
  maxPair : Symbol
  benfordFlagCount : Nat
  mlFlagCount : Nat
  lastUpdated : Nat

/-- `checked_*` arithmetic: an overflow is an error value, not a trap. -/
def checkedOr (bound n : Nat) (e : Error) : M Nat := if n < bound then pure n else throw e

section

variable (wallet : Address) (assetPair : Symbol) (previousScore : Option Nat)

/-- Add one pair of the wallet to the totals. -/
def addComponent (decay : Nat × Nat) (totals : AggregateTotals) (pair : Symbol) :
    M AggregateTotals := do
  let component ← okOr (← getScore wallet pair) .scoreNotFound
  let larger := totals.index = 0 ∨ totals.maxPairScore < component.score
  let age := (← now) - component.timestamp
  let decayFactor := decayFixed age decay.1 decay.2
  let weight ← getPairWeight pair
  let scaled ← checkedOr u64Bound (weight * decayFactor) .arithmeticOverflow
  let decayedWeight := scaled / decayFixedPointScale
  let product ← checkedOr u32Bound (decayedWeight % u32Bound * component.score) .arithmeticOverflow
  let weightedSum ← checkedOr u64Bound (totals.weightedSum + product) .arithmeticOverflow
  let weightSum ← checkedOr u64Bound (totals.weightSum + decayedWeight) .arithmeticOverflow
  return {
    index := totals.index + 1
    weightedSum, weightSum
    maxPairScore := if larger then component.score else totals.maxPairScore
    maxPair := if larger then pair else totals.maxPair
    benfordFlagCount := totals.benfordFlagCount + if component.benfordFlag then 1 else 0
    mlFlagCount := totals.mlFlagCount + if component.mlFlag then 1 else 0
    lastUpdated := max totals.lastUpdated component.timestamp }

/-- The decayed, weighted mean over the wallet's pairs. Fails when there is no
pair, when a registered pair has no score, or when all weights decayed away. -/
def computeAggregateScore : M AggregateRiskScore := do
  let pairs ← getWalletPairs wallet
  let firstPair ← okOr pairs.head? .scoreNotFound
  let decay ← getDecayRate
  let totals ← fold (addComponent wallet decay)
    { index := 0, weightedSum := 0, weightSum := 0, maxPairScore := 0, maxPair := firstPair,
      benfordFlagCount := 0, mlFlagCount := 0, lastUpdated := 0 } pairs
  require (totals.weightSum ≠ 0) .scoreNotFound
  return {
    aggregateScore := totals.weightedSum / totals.weightSum % u32Bound
    pairCount := pairs.length
    maxPairScore := totals.maxPairScore
    maxPair := totals.maxPair
    benfordFlagCount := totals.benfordFlagCount
    mlFlagCount := totals.mlFlagCount
    lastUpdated := totals.lastUpdated
    decayLambdaApplied := decay.1 ≠ 0 }

def refreshAggregateCache : M Unit := do
  ifSome (← attempt (computeAggregateScore wallet)).toOption fun aggregate =>
    store .persistent (.aggregateScore wallet) aggregate

/-- The first boundary the aggregate does not exceed, or one past the last. -/
def clusterOf (boundaries : List Nat) (aggregate : Nat) : Nat :=
  boundaries.findIdx fun boundary => aggregate ≤ boundary

def assignWalletCluster : M Unit := do
  let boundaries ← getClusterBoundaries
  whenever (!boundaries.isEmpty) do
    ifSome (← attempt (computeAggregateScore wallet)).toOption fun aggregate => do
      let cluster := clusterOf boundaries aggregate.aggregateScore
      let old ← fetch .inst (.walletCluster wallet)
      whenever (old ≠ some cluster) do
        store .inst (.walletCluster wallet) cluster
        emit (.walletClusterAssigned wallet cluster)

/-! ### Pair correlation -/

/-- Add one observation to an accumulator. The products are `i64` and trap when
they overflow; the sums saturate. -/
def welfordAdd (state : WelfordCorrState) (a b : Nat) : M WelfordCorrState := do
  let aa ← checked (2 ^ 63) (a * a)
  let bb ← checked (2 ^ 63) (b * b)
  let ab ← checked (2 ^ 63) (a * b)
  return {
    n := satAdd32 state.n 1
    sumA := satAddI64 state.sumA a
    sumB := satAddI64 state.sumB b
    sumAa := satAddI64 state.sumAa aa
    sumBb := satAddI64 state.sumBb bb
    sumAb := satAddI64 state.sumAb ab }

/-- Pair the new score with the live score of every other pair of the wallet. -/
def updateWelfordCorrelation (scoreA : Nat) : M Unit := do
  let pairs ← getWalletPairs wallet
  each pairs fun other =>
    whenever (other ≠ assetPair) do
      ifSome (← peekScore wallet other) fun otherRisk => do
        let state ← fetchOr .inst (.welfordCorrState assetPair other)
          { n := 0, sumA := 0, sumB := 0, sumAa := 0, sumBb := 0, sumAb := 0 }
        let updated ← welfordAdd state scoreA otherRisk.score
        store .inst (.welfordCorrState assetPair other) updated

/-! ### Verkle commitment -/

def zero32 : BytesN 32 := ⟨List.replicate 32 0, length_zeros⟩

/-- Clear the three top bits of the last byte. -/
def maskField (bytes : BytesN 32) : BytesN 32 :=
  ⟨bytes.1.set 31 (bytes.1.getD 31 0 &&& 0x1F), by simp [bytes.2]⟩

def xor32 (a b : BytesN 32) : BytesN 32 :=
  ⟨List.zipWith (fun x y => x ^^^ y) a.1 b.1, by simp [a.2, b.2]⟩

/-- Stored bytes are used only when they are one hash long. -/
def bytes32? (bytes : Bytes) : Option (BytesN 32) :=
  if length : bytes.length = 32 then some ⟨bytes, length⟩ else none

/-- A pair symbol cut or padded to nine bytes. -/
def pairBuf : Bytes :=
  assetPair.bytes.take 9 ++ List.replicate (9 - assetPair.bytes.length) 0

def deriveEvaluationPoint : M (BytesN 32) := do
  return maskField (← sha256 ([0x04] ++ wallet.strkey.1 ++ pairBuf assetPair))

def deriveValueElement (score timestamp : Nat) (z : BytesN 32) : M (BytesN 32) := do
  return maskField (← sha256 ([0x05] ++ toLeBytes 4 score ++ toLeBytes 8 timestamp ++ z.1))

def hashLeaf (z v : BytesN 32) : M (BytesN 32) := sha256 ([0x02] ++ z.1 ++ v.1)

def getVerkleCommitmentRaw : M (BytesN 32) := do
  return ((← fetch .inst .verkleCommitment).bind bytes32?).getD zero32

def getVerkleLeaf : M (Option (BytesN 32)) := do
  return (← fetch .persistent (.verkleLeaf wallet assetPair)).bind bytes32?

/-- Take the old leaf out of the accumulator and put the new one in. -/
def updateVerkleCommitment (riskScore : RiskScore) : M Unit := do
  let z ← deriveEvaluationPoint wallet assetPair
  let vNew ← deriveValueElement riskScore.score riskScore.timestamp z
  let leafNew ← hashLeaf z vNew
  let stored ← getVerkleCommitmentRaw
  let accum := (← getVerkleLeaf wallet assetPair).elim stored (xor32 stored)
  let updated ← asks fun env => env.external.updateAccumulator accum z vNew
  store .inst .verkleCommitment updated.1
  store .persistent (.verkleLeaf wallet assetPair) leafNew.1

/-! ### Breach counter and risk band -/

abbrev getBreachCount : M Nat :=
  fetchOr .persistent (.breachCount wallet assetPair) 0

/-- A count of zero is stored as no entry. -/
def setBreachCount (count : Nat) : M Unit :=
  if count = 0 then remove .persistent (.breachCount wallet assetPair)
  else store .persistent (.breachCount wallet assetPair) count

def updateBreachCounter (score riskThreshold : Nat) : M Unit := do
  let escalationN ← getEscalationThreshold
  let count ← getBreachCount wallet assetPair
  if score ≥ riskThreshold then do
    let next := satAdd32 count 1
    setBreachCount wallet assetPair next
    whenever (next = escalationN) do
      emit (.escalationTriggered wallet assetPair next score escalationN)
  else do
    whenever (count ≥ escalationN ∧ escalationN > 0) do
      emit (.escalationResolved wallet assetPair count score)
    setBreachCount wallet assetPair 0

/-- Enter the band at the threshold; leave it only below the threshold minus
the hysteresis margin. -/
def evaluateRiskBand (score riskThreshold : Nat) : M Unit := do
  let inBand ← fetchOr .temporary (.riskBandState wallet assetPair) false
  let margin ← getHysteresisMargin
  let exitThreshold := riskThreshold - margin
  if score ≥ riskThreshold then
    whenever (!inBand) do
      store .temporary (.riskBandState wallet assetPair) true
      store .temporary (.bandEntryTime wallet assetPair) (← now)
      emit (.riskBandEntered wallet assetPair score riskThreshold)
  else
    whenever (inBand ∧ score < exitThreshold) do
      remove .temporary (.riskBandState wallet assetPair)
      remove .temporary (.bandEntryTime wallet assetPair)
      emit (.riskBandCleared wallet assetPair score exitThreshold)

/-! ### Trend and jumps -/

/-- The trend after a change from `prev` to `new`. -/
def nextTrend (state : ScoreTrend) (prev new : Nat) : ScoreTrend :=
  if new = prev then { trend := 0, consecutive := 0 }
  else
    let trend : Int := if new > prev then 1 else -1
    { trend, consecutive := if state.trend = trend then satAdd32 state.consecutive 1 else 1 }

def emitScoreDelta (newScore : Nat) : M Unit := do
  let state ← fetchOr .persistent (.trendState wallet assetPair) { trend := 0, consecutive := 0 }
  let next := previousScore.elim { trend := 0, consecutive := 0 } fun prev =>
    nextTrend state prev newScore
  store .persistent (.trendState wallet assetPair) next
  emit (.scoreDelta wallet assetPair (previousScore.getD 0) newScore
    (previousScore.elim 0 (absDiff newScore)) next.trend next.consecutive)

/-- Keep the largest jump seen. -/
def recordJumpStats (jump timestamp : Nat) : M Unit := do
  let current ← fetch .persistent (.jumpStats wallet assetPair)
  whenever (current.elim true fun stats => jump > stats.maxJump) do
    store .persistent (.jumpStats wallet assetPair) { maxJump := jump, atTimestamp := timestamp }

def emitScoreJumpAnomaly (newScore modelVersion : Nat) : M Unit :=
  ifSome previousScore fun prev => do
    let jumpThreshold ← getJumpThreshold
    whenever (absDiff newScore prev > jumpThreshold) do
      let timestamp ← now
      emit (.scoreJumpAnomaly wallet assetPair prev newScore ((newScore : Int) - prev)
        modelVersion timestamp)
      recordJumpStats wallet assetPair (absDiff newScore prev) timestamp

end

/-! ### Service heartbeat -/

def recordServiceActivity : M Unit := do
  let time ← now
  whenever (← isSilentAlertEmitted) do
    let lastActiveAt ← getLastServiceActivity
    emit (.serviceResumed lastActiveAt (time - lastActiveAt))
    remove .inst .serviceSilentAlertEmitted
  store .inst .lastServiceActivityAt time

/-! ### Footprints -/

section Footprints

set_option synthInstance.maxSize 100000000

variable (wallet : Address) (assetPair : Symbol)

instance (bound n : Nat) (e : Error) : Touches (checkedOr bound n e) [] :=
  ⟨by unfold checkedOr; infer_instance⟩

instance (decay : Nat × Nat) (totals : AggregateTotals) :
    Touches (addComponent wallet decay totals assetPair) [] :=
  ⟨by unfold addComponent; infer_instance⟩

instance : Touches (computeAggregateScore wallet) [] :=
  ⟨by unfold computeAggregateScore; infer_instance⟩

instance : Touches (refreshAggregateCache wallet) [.aggregateScore] :=
  ⟨by unfold refreshAggregateCache; infer_instance⟩

instance : Touches (assignWalletCluster wallet) [.walletCluster] :=
  ⟨by unfold assignWalletCluster; infer_instance⟩

instance (state : WelfordCorrState) (a b : Nat) : Touches (welfordAdd state a b) [] :=
  ⟨by unfold welfordAdd; infer_instance⟩

instance (scoreA : Nat) : Touches (updateWelfordCorrelation wallet assetPair scoreA)
    [.welfordCorrState] :=
  ⟨by unfold updateWelfordCorrelation; infer_instance⟩

instance : Touches (deriveEvaluationPoint wallet assetPair) [] :=
  ⟨by unfold deriveEvaluationPoint; infer_instance⟩

instance (score timestamp : Nat) (z : BytesN 32) :
    Touches (deriveValueElement score timestamp z) [] :=
  ⟨by unfold deriveValueElement; infer_instance⟩

instance (z v : BytesN 32) : Touches (hashLeaf z v) [] := ⟨by unfold hashLeaf; infer_instance⟩

instance : Touches getVerkleCommitmentRaw [] := ⟨by unfold getVerkleCommitmentRaw; infer_instance⟩

instance : Touches (getVerkleLeaf wallet assetPair) [] := ⟨by unfold getVerkleLeaf; infer_instance⟩

instance (riskScore : RiskScore) : Touches (updateVerkleCommitment wallet assetPair riskScore)
    [.verkleCommitment, .verkleLeaf] :=
  ⟨by unfold updateVerkleCommitment; infer_instance⟩

instance (count : Nat) : Touches (setBreachCount wallet assetPair count) [.breachCount] :=
  ⟨by unfold setBreachCount; infer_instance⟩

instance (score threshold : Nat) : Touches (updateBreachCounter wallet assetPair score threshold)
    [.breachCount] :=
  ⟨by unfold updateBreachCounter; infer_instance⟩

instance (score threshold : Nat) : Touches (evaluateRiskBand wallet assetPair score threshold)
    [.riskBandState, .bandEntryTime] :=
  ⟨by unfold evaluateRiskBand; infer_instance⟩

instance (previous : Option Nat) (new : Nat) :
    Touches (emitScoreDelta wallet assetPair previous new) [.trendState] :=
  ⟨by unfold emitScoreDelta; infer_instance⟩

instance (jump timestamp : Nat) : Touches (recordJumpStats wallet assetPair jump timestamp)
    [.jumpStats] :=
  ⟨by unfold recordJumpStats; infer_instance⟩

instance (previous : Option Nat) (new version : Nat) :
    Touches (emitScoreJumpAnomaly wallet assetPair previous new version) [.jumpStats] :=
  ⟨by unfold emitScoreJumpAnomaly; infer_instance⟩

instance : Touches recordServiceActivity [.serviceSilentAlertEmitted, .lastServiceActivityAt] :=
  ⟨by unfold recordServiceActivity; infer_instance⟩

end Footprints

end LedgerLens
