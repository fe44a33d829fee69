import LedgerLens.Storage.Config

/-!
Storing a score and the data kept beside it (`storage.rs`): the index of
entries, the history, the counters, the histogram and the sketches. Each
function comes with its footprint.
-/

namespace LedgerLens.Storage

open Host Host.Prog

/-! ### The live score -/

section

variable (wallet : Address) (assetPair : Symbol)

abbrev getScore : M (Option RiskScore) :=
  fetch .persistent (.score wallet assetPair)

/-- `peek_score` differs from `get_score` only in not extending the entry's
time to live. -/
abbrev peekScore : M (Option RiskScore) :=
  getScore wallet assetPair

/-- Move an entry to the back of the index, appending it when there is room. -/
def reindexEntryToBack (entry : Entry) : M Unit := do
  let index ← fetchOr .persistent .scoreEntryIndex []
  if entry ∈ index then
    store .persistent .scoreEntryIndex (index.erase entry ++ [entry])
  else if index.length ≥ maxTrackedScoreEntries then
    pure ()
  else
    store .persistent .scoreEntryIndex (index ++ [entry])

def touchScoreEntry : M Unit := do
  store .persistent (.scoreEntryLastTouchedLedger wallet assetPair) (← ledgerSequence)

def trackScoreEntry : M Unit := do
  reindexEntryToBack (wallet, assetPair)
  touchScoreEntry wallet assetPair

def setScore (score : RiskScore) : M Unit := do
  store .persistent (.score wallet assetPair) score
  trackScoreEntry wallet assetPair

def removeScoreEntry : M Unit := do
  let index ← fetchOr .persistent .scoreEntryIndex []
  whenever ((wallet, assetPair) ∈ index) do
    let rest := index.erase (wallet, assetPair)
    if rest.isEmpty then remove .persistent .scoreEntryIndex
    else store .persistent .scoreEntryIndex rest

abbrev getWalletPairs : M (List Symbol) :=
  fetchOr .persistent (.assetPairs wallet) []

def registerPairForWallet : M Unit := do
  let pairs ← getWalletPairs wallet
  whenever (assetPair ∉ pairs) do
    store .persistent (.assetPairs wallet) (pairs ++ [assetPair])

def removePairForWallet : M Unit := do
  let pairs ← getWalletPairs wallet
  whenever (assetPair ∈ pairs) do
    let rest := pairs.erase assetPair
    if rest.isEmpty then remove .persistent (.assetPairs wallet)
    else store .persistent (.assetPairs wallet) rest

def clearScore : M Unit := do
  remove .persistent (.score wallet assetPair)
  removePairForWallet wallet assetPair
  removeScoreEntry wallet assetPair

/-! ### History and counters -/

abbrev getScoreHistory : M (List RiskScore) :=
  fetchOr .persistent (.scoreHistory wallet assetPair) []

/-- Append to the history and drop the oldest entries beyond the depth. -/
def pushScoreHistory (score : RiskScore) : M Unit := do
  let history ← getScoreHistory wallet assetPair
  let depth ← getHistoryMaxDepth
  let pushed := history ++ [score]
  store .persistent (.scoreHistory wallet assetPair) (pushed.drop (pushed.length - depth))

abbrev getScoreCount : M Nat :=
  fetchOr .persistent (.scoreCount wallet assetPair) 0

def incrementScoreCount : M Unit := do
  let current ← getScoreCount wallet assetPair
  store .persistent (.scoreCount wallet assetPair) (← checked u32Bound (current + 1))

def incrementPairScoreCount : M Unit := do
  let current ← fetchOr .persistent (.pairScoreCount assetPair) 0
  store .persistent (.pairScoreCount assetPair) (← checked u64Bound (current + 1))

def incrementTotalWalletsScored : M Unit := do
  let current ← fetchOr .inst .totalWalletsScored 0
  store .inst .totalWalletsScored (← checked u64Bound (current + 1))

abbrev getLastSubmitTime : M Nat :=
  fetchOr .persistent (.lastSubmitTime wallet assetPair) 0

abbrev isVelocityCapOverridden : M Bool :=
  fetchOr .persistent (.velocityCapOverride wallet assetPair) false

abbrev getHistoricalMaxScore : M Nat :=
  fetchOr .persistent (.historicalMaxScore wallet assetPair) 0

def updateHistoricalMaxScore (score : Nat) : M Unit := do
  let current ← getHistoricalMaxScore wallet assetPair
  whenever (score > current) do
    store .persistent (.historicalMaxScore wallet assetPair) score

end

def updateModelStats (modelVersion score : Nat) : M Unit := do
  let stats ← fetchOr .inst (.modelStats modelVersion)
    { modelVersion, submissionCount := 0, scoreSum := 0, totalSubmissions := 0, averageScore := 0 }
  let submissionCount ← checked u32Bound (stats.submissionCount + 1)
  let scoreSum ← checked u64Bound (stats.scoreSum + score)
  store .inst (.modelStats modelVersion) { stats with submissionCount, scoreSum }
  let versions ← fetchOr .inst .modelVersionIndex []
  whenever (modelVersion ∉ versions ∧ versions.length < maxModelVersions) do
    store .inst .modelVersionIndex (versions ++ [modelVersion])

/-! ### Histogram -/

/-- The bucket of a score: tens, with 100 in the last one. -/
def bucketOf (score : Nat) : Nat := if score ≥ 100 then 9 else score / 10

abbrev getHistogramVec : M (List Nat) := fetchOr .inst .scoreHistogram (List.replicate 10 0)

/-- Take one score out of its bucket. -/
def histogramWithout (histogram : List Nat) (score : Nat) : List Nat :=
  histogram.set (bucketOf score) (histogram.getD (bucketOf score) 0 - 1)

/-- Put one score into its bucket. -/
def histogramWith (histogram : List Nat) (score : Nat) : List Nat :=
  histogram.set (bucketOf score) (satAdd64 (histogram.getD (bucketOf score) 0) 1)

def updateHistogramOnWrite (previousScore : Option Nat) (newScore : Nat) : M Unit := do
  let histogram ← getHistogramVec
  whenever (10 ≤ histogram.length) do
    let cleared := previousScore.elim histogram (histogramWithout histogram)
    store .inst .scoreHistogram (histogramWith cleared newScore)

def updateHistogramOnClear (removedScore : Nat) : M Unit := do
  let histogram ← getHistogramVec
  whenever (10 ≤ histogram.length) do
    store .inst .scoreHistogram (histogramWithout histogram removedScore)

/-! ### Unique-wallet sketch -/

/-- Bit `i` of a hash, most significant first. -/
def hashBit (hash : BytesN 32) (i : Nat) : Nat :=
  (hash.1.getD (i / 8) 0).toNat / 2 ^ (7 - i % 8) % 2

/-- The register of a hash: its first `precision` bits, shifted into a `u32`. -/
def hllRegisterIndex (hash : BytesN 32) (precision : Nat) : Nat :=
  (List.range precision).foldl (fun index bit => (index * 2 + hashBit hash bit) % u32Bound) 0

/-- The rank of a hash: the position of the first one bit from `precision` on. -/
def hllRho (hash : BytesN 32) (precision : Nat) : Nat :=
  ((List.range (256 - precision)).takeWhile fun i => hashBit hash (precision + i) = 0).length + 1

/-- An empty sketch; a shift by 32 or more overflows. -/
def hllNewSketch : M HllSketch := do
  let precision ← getHllPrecision
  if precision < 32 then return { precision, registers := List.replicate (2 ^ precision) 0 }
  else trap

/-- Record a wallet. A stored precision beyond the length of the hash traps. -/
def hllUpdate (assetPair : Symbol) (wallet : Address) : M Unit := do
  let sketch ← (← fetch .persistent (.uniqueWalletsHll assetPair)).elim hllNewSketch pure
  let hash ← sha256 wallet.strkey.1
  if sketch.precision ≤ 256 then
    let index := hllRegisterIndex hash sketch.precision
    let rank := hllRho hash sketch.precision
    ifSome sketch.registers[index]? fun current =>
      whenever (rank > current) do
        store .persistent (.uniqueWalletsHll assetPair)
          { sketch with registers := sketch.registers.set index rank }
  else trap

/-! ### Footprints -/

section Footprints

variable (wallet : Address) (assetPair : Symbol)

instance (entry : Entry) : Touches (reindexEntryToBack entry) [.scoreEntryIndex] :=
  ⟨by unfold reindexEntryToBack; infer_instance⟩

instance : Touches (touchScoreEntry wallet assetPair) [.scoreEntryLastTouchedLedger] :=
  ⟨by unfold touchScoreEntry; infer_instance⟩

instance : Touches (trackScoreEntry wallet assetPair)
    [.scoreEntryIndex, .scoreEntryLastTouchedLedger] :=
  ⟨by unfold trackScoreEntry; infer_instance⟩

instance (score : RiskScore) : Touches (setScore wallet assetPair score)
    [.score, .scoreEntryIndex, .scoreEntryLastTouchedLedger] :=
  ⟨by unfold setScore; infer_instance⟩

instance : Touches (removeScoreEntry wallet assetPair) [.scoreEntryIndex] :=
  ⟨by unfold removeScoreEntry; infer_instance⟩

instance : Touches (registerPairForWallet wallet assetPair) [.assetPairs] :=
  ⟨by unfold registerPairForWallet; infer_instance⟩

instance : Touches (removePairForWallet wallet assetPair) [.assetPairs] :=
  ⟨by unfold removePairForWallet; infer_instance⟩

instance : Touches (clearScore wallet assetPair) [.score, .assetPairs, .scoreEntryIndex] :=
  ⟨by unfold clearScore; infer_instance⟩

instance (score : RiskScore) : Touches (pushScoreHistory wallet assetPair score) [.scoreHistory] :=
  ⟨by unfold pushScoreHistory; infer_instance⟩

instance : Touches (incrementScoreCount wallet assetPair) [.scoreCount] :=
  ⟨by unfold incrementScoreCount; infer_instance⟩

instance : Touches (incrementPairScoreCount assetPair) [.pairScoreCount] :=
  ⟨by unfold incrementPairScoreCount; infer_instance⟩

instance : Touches incrementTotalWalletsScored [.totalWalletsScored] :=
  ⟨by unfold incrementTotalWalletsScored; infer_instance⟩

instance (score : Nat) : Touches (updateHistoricalMaxScore wallet assetPair score)
    [.historicalMaxScore] :=
  ⟨by unfold updateHistoricalMaxScore; infer_instance⟩

instance (version score : Nat) : Touches (updateModelStats version score)
    [.modelStats, .modelVersionIndex] :=
  ⟨by unfold updateModelStats; infer_instance⟩

instance (previous : Option Nat) (new : Nat) : Touches (updateHistogramOnWrite previous new)
    [.scoreHistogram] :=
  ⟨by unfold updateHistogramOnWrite; infer_instance⟩

instance (removed : Nat) : Touches (updateHistogramOnClear removed) [.scoreHistogram] :=
  ⟨by unfold updateHistogramOnClear; infer_instance⟩

instance : Touches hllNewSketch [] := ⟨by unfold hllNewSketch; infer_instance⟩

instance : Touches (hllUpdate assetPair wallet) [.uniqueWalletsHll] :=
  ⟨by unfold hllUpdate; infer_instance⟩

end Footprints

end LedgerLens.Storage
