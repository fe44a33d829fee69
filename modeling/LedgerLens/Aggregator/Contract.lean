import LedgerLens.Host.Runs
import LedgerLens.Records

/-!
The aggregator contract. It keeps a list of shards, which are deployments of the
score contract, and puts their answers together. A call to a shard is a call to
another contract: what comes back is part of the environment, and a failure of
the call does not fail the aggregator.
-/

namespace LedgerLens.Aggregator

open Host Host.Prog

/-! ### Data -/

abbrev maxShards : Nat := 10

abbrev maxAssetPairBytes : Nat := 9

abbrev failureTransport : Nat := 0

abbrev failureContractError : Nat := 1

/-- The errors of the aggregator itself, and those it reports in the words of
the score contract. -/
inductive Error where
  | alreadyInitialized | notInitialized | selfReference | shardAlreadyRegistered
  | shardLimitReached | shardNotRegistered | incompatibleInterface
  | score (error : LedgerLens.Error)
  deriving DecidableEq

inductive DataKey where
  | admin
  | shards
  | lastShardFailure
  | shardHealth (shard : Address)
  | shardCapabilities (shard : Address)
  deriving DecidableEq

/-- The type of the entry under a key. -/
@[reducible] def Val : DataKey → Type
  | .admin => Address
  | .shards => List Address
  | .lastShardFailure => Address × Nat
  | .shardHealth _ => Bool
  | .shardCapabilities _ => List Symbol

inductive Event where
  | shardHealth (shard : Address) (healthy : Bool)

/-- What a `try_` call comes to: a value, a value that does not convert, an
error of the shard, or a failure of the host. -/
inductive CallOutcome (α : Type) where
  | returned (value : α)
  | unreadable
  | failed (error : LedgerLens.Error)
  | unreachable
  deriving DecidableEq

def CallOutcome.isErr {α : Type} : CallOutcome α → Bool
  | .failed _ | .unreachable => true
  | .returned _ | .unreadable => false

/-- What the shards answer. -/
structure Shards where
  supportsInterface : Address → Symbol → CallOutcome Bool
  getArchOwner : Address → CallOutcome (Option Address)
  getMandatoryReviewers : Address → CallOutcome (List Address)
  queryRiskGate : Address → Address → Symbol → Nat → CallOutcome Bool
  getScore : Address → Address → Symbol → CallOutcome RiskScore
  getAggregateScore : Address → Address → CallOutcome AggregateRiskScore

abbrev AggregatorEnv := Env Shards

abbrev State := World DataKey Val Event

abbrev M := Prog AggregatorEnv Error State

/-! ### Capabilities -/

private abbrev capability (chars : List Char)
    (valid : (decide (chars.length ≤ 32) && chars.all symbolChar) = true := by decide) : Symbol :=
  ⟨chars, valid⟩

def requiredShardCapabilities : List Symbol :=
  [capability ['s', 'c', 'o', 'r', 'e'], capability ['g', 'a', 't', 'e'],
    capability ['a', 'g', 'g', 'r'], capability ['a', 'r', 'c', 'h']]

/-- The capabilities a snapshot asks for. -/
def allCapabilities : List Symbol :=
  requiredShardCapabilities ++
    [capability ['f', 'e', 'd', 'e', 'r', 'a', 't', 'e', 'd'],
      capability ['s', 'b', 'r', 'a', 'i', 'n'], capability ['h', 'e', 'a', 'l', 't', 'h'],
      capability ['b', 'a', 't', 'c', 'h', '_', 'a', 't', 't', 'e', 's', 't', 'e', 'd']]

section

variable (shard : Address) (kind : Nat)

/-- The shard reports every required capability, and the two getters that show
its interface do not fail. -/
def shardSupportsRequiredInterface : M Bool := asks fun env =>
  requiredShardCapabilities.all (fun capability =>
    env.external.supportsInterface shard capability = .returned true) &&
  !(env.external.getArchOwner shard).isErr && !(env.external.getMandatoryReviewers shard).isErr

def probeCapabilities : M (List Symbol) := asks fun env =>
  allCapabilities.filter fun capability =>
    env.external.supportsInterface shard capability = .returned true

/-! ### The registry -/

def assetPairIsBounded (assetPair : Symbol) : Bool := assetPair.bytes.length ≤ maxAssetPairBytes

/-- A shard nobody has marked is healthy. -/
def isShardHealthy : M Bool := loadOr .inst (DataKey.shardHealth shard) true

def getShards : M (List Address) := loadOr .inst DataKey.shards []

def requireAdmin : M Unit := do
  requireAuth (← okOr (← load .inst DataKey.admin) .notInitialized)

def initializeContract (admin : Address) : M Unit := do
  require (!(← has .inst DataKey.admin)) .alreadyInitialized
  requireAuth admin
  save .inst .admin admin

def addShard : M Unit := do
  requireAdmin
  require ((← asks Env.self) ≠ shard) .selfReference
  let shards ← getShards
  require (shard ∉ shards) .shardAlreadyRegistered
  require (shards.length < maxShards) .shardLimitReached
  require (← shardSupportsRequiredInterface shard) .incompatibleInterface
  save .inst (.shardCapabilities shard) (← probeCapabilities shard)
  save .inst .shards (shards ++ [shard])

def removeShard : M Unit := do
  requireAdmin
  let shards ← getShards
  require (shard ∈ shards) .shardNotRegistered
  save .inst .shards (shards.filter (· ≠ shard))
  erase .inst (.shardHealth shard)
  erase .inst (.shardCapabilities shard)

def setShardHealth (healthy : Bool) : M Unit := do
  requireAdmin
  require (shard ∈ (← getShards)) .shardNotRegistered
  save .inst (.shardHealth shard) healthy
  emit (.shardHealth shard healthy)

/-! ### Questions to the shards -/

def recordFailure : M Unit :=
  save .inst .lastShardFailure (shard, kind)

end

/-- Ask the healthy shards in turn until one of them does not let the wallet
through. -/
def askShards (wallet : Address) (assetPair : Symbol) (gateThreshold : Nat) :
    List Address → M Bool
  | [] => pure true
  | shard :: rest => do
    if ← isShardHealthy shard then
      match ← asks fun env => env.external.queryRiskGate shard wallet assetPair gateThreshold with
      | .returned true => askShards wallet assetPair gateThreshold rest
      | .returned false => pure false
      | .unreadable | .failed _ | .unreachable =>
        recordFailure shard failureTransport
        pure false
    else askShards wallet assetPair gateThreshold rest

def queryRiskGate (wallet : Address) (assetPair : Symbol) (gateThreshold : Nat) : M Bool := do
  if !assetPairIsBounded assetPair then return false
  else
    let shards ← getShards
    if shards.isEmpty then return false
    else askShards wallet assetPair gateThreshold shards

/-- Keep the answer that ranks highest, the earlier one of equals. A shard whose
call fails is passed over. -/
def takeBest {α : Type} (ask : Shards → Address → CallOutcome α) (rank : α → Nat)
    (best : Option α) (shard : Address) : M (Option α) := do
  if ← isShardHealthy shard then
    match ← asks fun env => ask env.external shard with
    | .returned answer =>
      return if best.all fun b => rank b < rank answer then some answer else best
    | .unreadable =>
      recordFailure shard failureContractError
      return best
    | .failed _ | .unreachable =>
      recordFailure shard failureTransport
      return best
  else return best

def getScore (wallet : Address) (assetPair : Symbol) : M RiskScore := do
  require (assetPairIsBounded assetPair) (.score .invalidAttestation)
  let best ← fold (takeBest (fun shards shard => shards.getScore shard wallet assetPair)
    RiskScore.score) none (← getShards)
  okOr best (.score .scoreNotFound)

def getAggregateScore (wallet : Address) : M AggregateRiskScore := do
  let best ← fold (takeBest (fun shards shard => shards.getAggregateScore shard wallet)
    AggregateRiskScore.aggregateScore) none (← getShards)
  okOr best (.score .scoreNotFound)

/-! ### Calls -/

inductive Call where
  | initializeContract (admin : Address)
  | addShard (shard : Address)
  | removeShard (shard : Address)
  | setShardHealth (shard : Address) (healthy : Bool)
  | queryRiskGate (wallet : Address) (assetPair : Symbol) (gateThreshold : Nat)
  | getScore (wallet : Address) (assetPair : Symbol)
  | getAggregateScore (wallet : Address)

def exec : Call → M Unit
  | .initializeContract admin => initializeContract admin
  | .addShard shard => addShard shard
  | .removeShard shard => removeShard shard
  | .setShardHealth shard healthy => setShardHealth shard healthy
  | .queryRiskGate wallet assetPair gateThreshold => do
    let _ ← queryRiskGate wallet assetPair gateThreshold
  | .getScore wallet assetPair => do let _ ← getScore wallet assetPair
  | .getAggregateScore wallet => do let _ ← getAggregateScore wallet

abbrev Transaction := Tx Shards Call

end LedgerLens.Aggregator
