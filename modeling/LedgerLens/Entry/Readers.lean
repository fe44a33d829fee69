import LedgerLens.Entry.Queries

/-!
Readers of scores. Each of them looks at the embargo of the wallet it is asked
about and at the wallet's delegate in its own way, or not at all: `lookup_score`
follows the delegates for several hops, others for one, and the interpolated score
reads the wallet's entries as they are.
-/

namespace LedgerLens

open Host Host.Prog Storage

/-- The wallet is under an embargo that is still in force. -/
def embargoed (env : ContractEnv) (w : State) (wallet : Address) : Bool :=
  (w.ledger.entry .temporary (.scoreEmbargo wallet)).elim false
    (EmbargoExpiry.activeAt · env.timestamp)

theorem isEmbargoed_run (env : ContractEnv) (w : State) (wallet : Address) :
    isEmbargoed wallet env w = .ok (embargoed env w wallet) w := rfl

/-! ### The score of a wallet -/

/-- Follow the delegates of `current` until one of them has a score. A wallet
met for the second time is an error, the end of the chain or of the depth is
not. -/
def followDelegates (assetPair : Symbol) : Nat → List Address → Address → M (Option RiskScore)
  | 0, _, _ => pure none
  | depth + 1, visited, current => do
    require (current ∉ visited) .cyclicDelegation
    (← getScoreDelegate current).elim (pure none) fun custodian => do
      (← getScore custodian assetPair).elim
        (followDelegates assetPair depth (visited ++ [current]) custodian)
        fun score => pure (some score)

section

variable (wallet : Address) (assetPair : Symbol)

def lookupScore : M (Option RiskScore) := do
  require (!(← isEmbargoed wallet)) .scoreEmbargoed
  (← getScore wallet assetPair).elim (followDelegates assetPair maxDelegationDepth [] wallet)
    fun score => pure (some score)

/-- The entry point `get_score`; `Storage.getScore` is the storage function. -/
def Contract.getScore : M RiskScore := do
  ensureAssetPairBounded assetPair
  checkServiceSilence
  okOr (← lookupScore wallet assetPair) .scoreNotFound

/-- An embargoed wallet is risky; one whose score cannot be found is not. -/
def isScoreRisky : M Bool := do
  checkServiceSilence
  handle (lookupScore wallet assetPair)
    (fun error => pure (error = .scoreEmbargoed))
    fun found => found.elim (pure false) fun score => do
      return score.score ≥ (← getRiskThreshold)

def isWalletSafe : M Bool := do
  return !(← isScoreRisky wallet assetPair)

/-! ### Percentile -/

/-- The entry point `get_score_percentile` reads the counts as `u32`. -/
def getHistogramTotal : M Nat := do
  return (← getHistogramVec).foldl satAdd64 0 % u32Bound

def getHistogramBucket (bucket : Nat) : M Nat := do
  return (← getHistogramVec).getD bucket 0 % u32Bound

def getScorePercentile : M Nat := do
  require (!(← isEmbargoed wallet)) .scoreEmbargoed
  let delegated ← (← getScoreDelegate wallet).elim (pure none) fun custodian =>
    getScore custodian assetPair
  let score ← okOr ((← getScore wallet assetPair).or delegated) .scoreNotFound
  let total ← getHistogramTotal
  require (total ≠ 0) .scoreNotFound
  let cumulative ← fold (fun below bucket => do return satAdd32 below (← getHistogramBucket bucket))
    0 (List.range (bucketOf score.score))
  return min (cumulative * 100) (u32Bound - 1) / max total 1

/-! ### Pages of the history -/

/-- From the index back, up to so many entries. -/
def pageLoop (history : List RiskScore) : Nat → Nat → M (List RiskScore)
  | 0, _ => pure []
  | remaining + 1, idx => do
      let entry ← unwrap history[idx]?
      let rest ← if idx = 0 then pure [] else pageLoop history remaining (idx - 1)
      return entry :: rest

/-- Newest entries first; the offset counts from the newest one. -/
def Storage.getScoreHistoryPaginated (offset limit : Nat) : M (List RiskScore) := do
  let history ← getScoreHistory wallet assetPair
  if offset ≥ history.length then return []
  else pageLoop history (min limit maxHistoryDepth) (history.length - 1 - offset)

/-! ### Interpolation -/

abbrev interpolationScale : Int := 1000000

/-- The step with the highest threshold not above the elapsed time, the later
one of two equal thresholds. -/
def stepScore (steps : List StepWiseEntry) (elapsed scoreA : Nat) : Int :=
  (steps.foldl (fun (best : Option StepWiseEntry) step =>
    if step.timeThresholdSecs ≤ elapsed &&
        best.all (fun b => b.timeThresholdSecs ≤ step.timeThresholdSecs)
    then some step else best) none).elim (scoreA : Int) fun step => step.scoreValue

/-- The score between two entries of the history, `elapsed` of `dt` seconds
after the first one. -/
def applyCurveInterp (elapsed dt scoreA scoreB : Nat) (curve : DecayCurve) : Nat :=
  let f : Int := elapsed * interpolationScale / dt
  let f2 : Int := f * f / interpolationScale
  let delta : Int := (scoreB : Int) - scoreA
  let result : Int := match curve with
    | .exponential => scoreA + Int.tdiv (f * delta) interpolationScale
    | .quadratic => scoreA + Int.tdiv (f2 * delta) interpolationScale
    | .logarithmic =>
      scoreA + Int.tdiv (max 0 (min (2 * f - f2) interpolationScale) * delta) interpolationScale
    | .stepWise steps => stepScore steps elapsed scoreA
  (max 0 (min result 100)).toNat

/-- The score at a time between the first and the last entry: the first two
neighbours around it decide. -/
def interpolateBetween (timestamp : Nat) (curve : DecayCurve) : List RiskScore → Nat
  | a :: b :: rest =>
    if a.timestamp ≤ timestamp ∧ timestamp ≤ b.timestamp then
      if b.timestamp - a.timestamp = 0 then a.score
      else applyCurveInterp (timestamp - a.timestamp) (b.timestamp - a.timestamp) a.score b.score
        curve
    else interpolateBetween timestamp curve (b :: rest)
  | [last] => last.score
  | [] => 0

/-- The score a history gives at a time: an exact entry, the nearer end, or a
point between two entries. -/
def interpolate (history : List RiskScore) (timestamp : Nat) (curve : DecayCurve) : Nat :=
  match history.find? (fun entry => entry.timestamp = timestamp), history.head?,
      history.getLast? with
  | some exact, _, _ => exact.score
  | none, some first, some last =>
    if timestamp ≤ first.timestamp then first.score
    else if timestamp ≥ last.timestamp then last.score
    else interpolateBetween timestamp curve history
  | none, _, _ => 0

def getInterpolatedScore (timestamp : Nat) : M Nat := do
  let history ← getScoreHistory wallet assetPair
  let curve ← fetchOr .inst .decayCurveConfig .exponential
  return interpolate history timestamp curve

end

end LedgerLens
