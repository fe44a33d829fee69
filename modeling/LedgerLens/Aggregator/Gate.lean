import LedgerLens.Aggregator.Contract
import LedgerLens.System.Gate

/-!
The aggregator's risk gate. It is to let a wallet through when there is a
healthy shard and every healthy shard lets it through. Shards that are marked
unhealthy are skipped, and when all of them are, nobody is left to object. The main result is
`queryRiskGate_backed_iff`.
-/

namespace LedgerLens.Aggregator

open Host Host.Prog

/-! ### The registry along runs -/

abbrev shardsOf (w : State) : List Address := (w.ledger.entry .inst .shards).getD []

abbrev healthy (w : State) (shard : Address) : Bool :=
  (w.ledger.entry .inst (.shardHealth shard)).getD true

/-! ### Answers -/

section Answers

variable {env : AggregatorEnv} {w : State} {wallet : Address} {assetPair : Symbol}
  {gateThreshold : Nat}

section

variable (env : AggregatorEnv) (w : State) (wallet : Address) (assetPair : Symbol)
  (gateThreshold : Nat)

/-- The shard is skipped, or lets the wallet through. -/
def Agrees (shard : Address) : Prop :=
  healthy w shard = true →
    env.external.queryRiskGate shard wallet assetPair gateThreshold = .returned true

/-- The loop always returns, and with `true` when all shards agree. -/
theorem askShards_returns (shards : List Address) :
    ∃ answer, (askShards wallet assetPair gateThreshold shards env w).value? = some answer ∧
      (answer = true ↔ ∀ shard ∈ shards, Agrees env w wallet assetPair gateThreshold shard) := by
  induction shards with
  | nil => exact ⟨true, rfl, by simp⟩
  | cons shard rest ih =>
    have asked : isShardHealthy shard env w = .ok (healthy w shard) w := rfl
    have answered : (asks fun env => env.external.queryRiskGate shard wallet assetPair
        gateThreshold : M _) env w =
          .ok (env.external.queryRiskGate shard wallet assetPair gateThreshold) w := rfl
    obtain ⟨answer, returned, meaning⟩ := ih
    unfold askShards
    rw [run_bind_of_ok asked]
    cases fit : healthy w shard with
    | false =>
      refine ⟨answer, returned, meaning.trans ?_⟩
      simp [Agrees, fit]
    | true =>
      rw [if_pos rfl, run_bind_of_ok answered]
      cases reply : env.external.queryRiskGate shard wallet assetPair gateThreshold with
      | returned passes =>
        cases passes with
        | true =>
          refine ⟨answer, returned, meaning.trans ?_⟩
          simp [Agrees, reply]
        | false => exact ⟨false, rfl, by simp [Agrees, fit, reply]⟩
      | unreadable => exact ⟨false, rfl, by simp [Agrees, fit, reply]⟩
      | failed error => exact ⟨false, rfl, by simp [Agrees, fit, reply]⟩
      | unreachable => exact ⟨false, rfl, by simp [Agrees, fit, reply]⟩

/-- The gate always answers. It opens for a short pair name when there are
shards and all of them agree. -/
theorem queryRiskGate_returns :
    ∃ answer, (queryRiskGate wallet assetPair gateThreshold env w).value? = some answer ∧
      (answer = true ↔ assetPairIsBounded assetPair = true ∧ shardsOf w ≠ [] ∧
        ∀ shard ∈ shardsOf w, Agrees env w wallet assetPair gateThreshold shard) := by
  have lists : getShards env w = .ok (shardsOf w) w := rfl
  unfold queryRiskGate
  cases bounded : assetPairIsBounded assetPair with
  | false => exact ⟨false, rfl, by simp⟩
  | true =>
    rw [if_neg (by simp), run_bind_of_ok lists]
    by_cases empty : shardsOf w = []
    · rw [empty]
      exact ⟨false, rfl, by simp⟩
    · obtain ⟨answer, returned, meaning⟩ :=
        askShards_returns env w wallet assetPair gateThreshold (shardsOf w)
      refine ⟨answer, ?_, meaning.trans (by simp [empty])⟩
      rw [if_neg (by simpa using empty)]
      exact returned

end

/-- Of the aggregator's answers, the gate is open only on the word of a healthy
shard exactly where a healthy shard is left to ask, or the gate is closed before
it asks. -/
theorem queryRiskGate_backed_iff (env : AggregatorEnv) (w : State) (wallet : Address)
    (assetPair : Symbol) (gateThreshold : Nat) :
    ((queryRiskGate wallet assetPair gateThreshold env w).value? = some true →
        (∃ shard ∈ shardsOf w, healthy w shard = true) ∧
          ∀ shard ∈ shardsOf w, healthy w shard = true →
            env.external.queryRiskGate shard wallet assetPair gateThreshold = .returned true) ↔
      assetPairIsBounded assetPair = false ∨ shardsOf w = [] ∨
        ∃ shard ∈ shardsOf w, healthy w shard = true := by
  obtain ⟨answer, returned, meaning⟩ :=
    queryRiskGate_returns env w wallet assetPair gateThreshold
  rw [returned]
  constructor
  · intro backed
    by_contra unasked
    push Not at unasked
    obtain ⟨bounded, registered, skipped⟩ := unasked
    -- with every shard skipped there is nobody to disagree
    have open_ : answer = true := by
      refine meaning.mpr ⟨by simpa using bounded, registered, fun shard listed fit => ?_⟩
      exact absurd fit (skipped shard listed)
    obtain ⟨⟨shard, listed, fit⟩, _⟩ := backed (congrArg some open_)
    exact skipped shard listed fit
  · intro covered isTrue
    obtain ⟨bounded, registered, agree⟩ := meaning.mp (Option.some.inj isTrue)
    refine ⟨?_, agree⟩
    rcases covered with long | none | fit
    · simp [long] at bounded
    · exact absurd none registered
    · exact fit

/-- A shard that lets nobody through. -/
def sampleShards : Shards where
  supportsInterface _ _ := .returned true
  getArchOwner _ := .returned none
  getMandatoryReviewers _ := .returned []
  queryRiskGate _ _ _ _ := .returned false
  getScore _ _ _ := .unreachable
  getAggregateScore _ _ := .unreachable

def sampleEnv : AggregatorEnv := { LedgerLens.sampleEnv [account 1] with external := sampleShards }

/-- Account 1 sets the aggregator up with account 5 as its only shard, and marks
it unhealthy. -/
def quarantined : State :=
  run exec { ledger := .empty, balance := fun _ _ => 0, authorized := [], events := [] }
    [⟨sampleEnv, .initializeContract (account 1)⟩, ⟨sampleEnv, .addShard (account 5)⟩,
      ⟨sampleEnv, .setShardHealth (account 5) false⟩]

/-- With its only shard unhealthy the aggregator lets everybody through. -/
theorem queryRiskGate_open_when_quarantined :
    shardsOf quarantined = [account 5] ∧ healthy quarantined (account 5) = false ∧
      (queryRiskGate (account 9) samplePair 75 sampleEnv quarantined).value? = some true := by
  decide +kernel

end Answers

end LedgerLens.Aggregator
