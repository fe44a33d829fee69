import LedgerLens.System.Lookups

/-!
The risk gate. A consumer that is let through expects a score behind the
answer: low enough, sure enough, and of a wallet that is neither embargoed nor
in the risk band. The gate checks the wallet it is asked about when it answers
from its own ledger, the custodian it may answer for not at all, and nothing
beside the score when it is paused and answers from the failover contract. The main result is
`gateSound_iff`.
-/

namespace LedgerLens

open Host Host.Prog Host.Chain Storage

/-! ### The entry points -/

/-- The entry points of the gate: the plain one, the one with a floor of its
own, the one under a read quota and the one against prepaid credits. -/
inductive GateEntry where
  | plain
  | withConfidence (minConfidence : Nat)
  | metered (consumer : Address)
  | prepaid (consumer : Address)

namespace GateEntry

def minConfidence : GateEntry → Nat
  | withConfidence floor => floor
  | plain | metered _ | prepaid _ => 0

def query (wallet : Address) (pair : Symbol) (gateThreshold : Nat) : GateEntry → M Bool
  | plain => queryRiskGate wallet pair gateThreshold
  | withConfidence floor => queryRiskGateWithConfidence wallet pair gateThreshold floor
  | metered consumer => queryRiskGateMetered consumer wallet pair gateThreshold
  | prepaid consumer =>
    RentRelayCredits.queryRiskGateMetered consumer wallet pair gateThreshold

end GateEntry

/-! ### What an answer rests on -/

abbrev globalMinConfidence (w : State) : Nat := (w.ledger.entry .inst .globalMinConfidence).getD 0

/-- The score an answer is based on and its owner: a fresh score of the failover
contract while paused, otherwise the wallet's score or its delegate's. -/
def GateBasis (env : ContractEnv) (w : State) (wallet : Address) (pair : Symbol)
    (owner : Address) (score : RiskScore) : Prop :=
  if paused w then
    owner = wallet ∧ ∃ secondary, w.ledger.entry .inst .failoverContract = some secondary ∧
      env.external.getScoreOpt secondary wallet pair = some score ∧
        env.timestamp - score.timestamp ≤ failoverStalenessWindow
  else ∃ n ≤ 1, ScoreFound w pair n wallet owner score

/-- The confidence a score needs. -/
abbrev confidenceFloor (w : State) (minConfidence : Nat) : Nat :=
  max minConfidence (globalMinConfidence w)

/-- What lets a query through. -/
structure LetThrough (env : ContractEnv) (w : State) (wallet : Address) (pair : Symbol)
    (gateThreshold minConfidence : Nat) : Prop where
  checked : paused w = false →
    embargoed env w wallet = false ∧ inRiskBand w wallet pair = false
  basis : ∃ owner score, GateBasis env w wallet pair owner score ∧
    score.score < gateThreshold ∧ confidenceFloor w minConfidence ≤ score.confidence

section Paths

variable {env : ContractEnv} {w w' : State} {wallet : Address} {pair : Symbol}
  {gateThreshold minConfidence : Nat}

theorem passesGate_iff {risk : RiskScore} {floor : Nat} :
    passesGate risk gateThreshold floor = true ↔
      risk.score < gateThreshold ∧ floor ≤ risk.confidence := by
  simp [passesGate]

section

variable (env : ContractEnv) (w : State) (wallet : Address) (pair : Symbol)
  (gateThreshold floor : Nat)

/-- What the gate answers from its own ledger. -/
def localAnswer : Bool :=
  !embargoed env w wallet && !inRiskBand w wallet pair &&
    (nearScore w wallet pair).any (passesGate · gateThreshold floor)

theorem localGate_run :
    localGate wallet pair gateThreshold floor env w =
      .ok (localAnswer env w wallet pair gateThreshold floor) w := by
  have banded : fetchOr .temporary (.riskBandState wallet pair) false env w =
      .ok (inRiskBand w wallet pair) w := rfl
  have scored (a : Address) : peekScore a pair env w = .ok (liveScore w a pair) w := rfl
  have asks : getScoreDelegate wallet env w = .ok (delegateOf w wallet) w := rfl
  unfold localGate localAnswer nearScore
  rw [run_bind_of_ok (isEmbargoed_run env w wallet)]
  cases embargoed env w wallet with
  | true => rfl
  | false =>
    rw [if_neg Bool.false_ne_true, run_bind_of_ok banded]
    cases inRiskBand w wallet pair with
    | true => rfl
    | false =>
      rw [if_neg Bool.false_ne_true, run_bind_of_ok (scored wallet)]
      cases liveScore w wallet pair with
      | some risk => rfl
      | none =>
        rw [Option.elim_none, run_bind_of_ok asks]
        cases delegateOf w wallet with
        | none => rfl
        | some custodian =>
          rw [Option.elim_some, run_bind_of_ok (scored custodian)]
          cases held : liveScore w custodian pair <;> simp [held]

/-- What the gate answers from the failover contract. -/
def failoverAnswer : Bool :=
  (w.ledger.entry .inst .failoverContract).any fun secondary =>
    (env.external.getScoreOpt secondary wallet pair).any fun risk =>
      env.timestamp - risk.timestamp ≤ failoverStalenessWindow &&
        passesGate risk gateThreshold floor

theorem failoverGate_run :
    failoverGate wallet pair gateThreshold floor env w =
      .ok (failoverAnswer env w wallet pair gateThreshold floor) w := by
  have asks : fetch .inst .failoverContract env w =
      .ok (w.ledger.entry .inst .failoverContract) w := rfl
  unfold failoverGate failoverAnswer
  rw [run_bind_of_ok asks]
  cases w.ledger.entry .inst .failoverContract with
  | none => rfl
  | some secondary =>
    simp only [Option.elim_some, Option.any_some, run_bind, run_asks, run_pure]
    cases env.external.getScoreOpt secondary wallet pair <;> rfl

end

theorem failoverGate_letsThrough (isPaused : paused w = true)
    (passed : failoverGate wallet pair gateThreshold (confidenceFloor w minConfidence) env w =
      .ok true w') : LetThrough env w wallet pair gateThreshold minConfidence := by
  rw [failoverGate_run] at passed
  have answer : failoverAnswer env w wallet pair gateThreshold
      (confidenceFloor w minConfidence) = true := (Outcome.ok.inj passed).1
  simp only [failoverAnswer, Option.any_eq_true, Bool.and_eq_true, decide_eq_true_eq,
    passesGate_iff] at answer
  obtain ⟨secondary, isSecondary, score, held, fresh, low, sure⟩ := answer
  refine ⟨fun open_ => by simp [open_] at isPaused, wallet, score, ?_, low, sure⟩
  unfold GateBasis
  rw [if_pos isPaused]
  exact ⟨rfl, secondary, isSecondary, held, fresh⟩

theorem localGate_letsThrough (open_ : paused w = false)
    (passed : localGate wallet pair gateThreshold (confidenceFloor w minConfidence) env w =
      .ok true w') : LetThrough env w wallet pair gateThreshold minConfidence := by
  rw [localGate_run] at passed
  have answer : localAnswer env w wallet pair gateThreshold (confidenceFloor w minConfidence) =
      true := (Outcome.ok.inj passed).1
  simp only [localAnswer, Bool.and_eq_true, Bool.not_eq_true', Option.any_eq_true,
    passesGate_iff] at answer
  obtain ⟨⟨notEmbargoed, outside⟩, score, near, low, sure⟩ := answer
  obtain ⟨n, hops, owner, found⟩ := nearScore_eq_some_iff.mp near
  refine ⟨fun _ => ⟨notEmbargoed, outside⟩, owner, score, ?_, low, sure⟩
  unfold GateBasis
  rw [if_neg (by simp [open_])]
  exact ⟨n, hops, found⟩

/-! ### What the entry points leave alone -/

/-- Everything a query may write. -/
abbrev gateTags : List Tag :=
  [.authorizations, .consumerVolumeWindow, .gateCreditBalance, .gateCreditLiabilityTotal,
    .gateCreditRevenue, .serviceSilentAlertEmitted, .consumerReadQuota, .gateReadLedger]

theorem LetThrough.of_only (only : Only placeTag gateTags w w')
    (passes : LetThrough env w' wallet pair gateThreshold minConfidence) :
    LetThrough env w wallet pair gateThreshold minConfidence := by
  have sameScores : liveScore w' = liveScore w := liveScore_of_only only (by decide)
  have sameDelegates : delegateOf w' = delegateOf w := delegateOf_of_only only (by decide)
  have sameEmbargoes : embargoed env w' = embargoed env w := embargoed_of_only only (by decide)
  have sameBand : inRiskBand w' = inRiskBand w := inRiskBand_of_only only (by decide)
  have samePause : paused w' = paused w := by
    unfold paused
    rw [only.entry .inst .paused (by decide)]
  have sameFailover := only.entry .inst .failoverContract (by decide)
  have sameFloor : globalMinConfidence w' = globalMinConfidence w := by
    unfold globalMinConfidence
    rw [only.entry .inst .globalMinConfidence (by decide)]
  obtain ⟨checked, owner, score, basis, low, sure⟩ := passes
  rw [sameEmbargoes, sameBand, samePause] at checked
  rw [confidenceFloor, sameFloor] at sure
  refine ⟨checked, owner, score, ?_, low, sure⟩
  unfold GateBasis ScoreFound at basis ⊢
  rwa [samePause, sameFailover, sameScores, sameDelegates] at basis

/-- Steps that stay within these places do not change what a query is let
through for. -/
theorem LetThrough.of_bind {α : Type} {m : M α} {f : α → M Bool}
    [keeps : Keeps (Only placeTag gateTags) m]
    (rest : ∀ a w₁, f a env w₁ = .ok true w' →
      LetThrough env w₁ wallet pair gateThreshold minConfidence)
    (passed : (m >>= f) env w = .ok true w') :
    LetThrough env w wallet pair gateThreshold minConfidence := by
  obtain ⟨a, w₁, head, tail⟩ := bind_ok.mp passed
  exact (rest a w₁ tail).of_only (keeps.ok head)

/-- The part of the gate behind the allowlist and the quota. -/
theorem admitted_letsThrough {admitted : Bool}
    (passed : (if !admitted ∨ gateThreshold > 100 ∨ minConfidence > 100 then return false
      else do
        let floor := max minConfidence (← fetchOr .inst .globalMinConfidence 0)
        if (← isPaused) then failoverGate wallet pair gateThreshold floor
        else localGate wallet pair gateThreshold floor : M Bool) env w = .ok true w') :
    LetThrough env w wallet pair gateThreshold minConfidence := by
  split at passed
  · cases passed
  · simp only [bind_ok, loadOr_ok] at passed
    obtain ⟨_, _, ⟨rfl, rfl⟩, isPaused, _, ⟨held, rfl⟩, passed⟩ := passed
    cases isPaused with
    | true => exact failoverGate_letsThrough held passed
    | false => exact localGate_letsThrough held passed

theorem queryRiskGateForConsumer_letsThrough {consumer : Address} {metered : Bool}
    (passed : queryRiskGateForConsumer consumer wallet pair gateThreshold minConfidence metered
      env w = .ok true w') : LetThrough env w wallet pair gateThreshold minConfidence := by
  unfold queryRiskGateForConsumer at passed
  split at passed
  · cases passed
  · refine LetThrough.of_bind (fun _ w₁ passed => ?_) passed
    refine LetThrough.of_bind (fun strict w₂ passed => ?_) passed
    refine LetThrough.of_bind (fun callers w₃ passed => ?_) passed
    split at passed
    · cases passed
    · split at passed <;>
        exact LetThrough.of_bind (fun admitted w₄ passed => admitted_letsThrough passed) passed

/-- Whatever the entry point, a query is let through for the same reasons. -/
theorem GateEntry.letsThrough {entry : GateEntry}
    (passed : entry.query wallet pair gateThreshold env w = .ok true w') :
    LetThrough env w wallet pair gateThreshold entry.minConfidence := by
  have withConfidence {minConfidence : Nat} {w : State}
      (passed : queryRiskGateWithConfidence wallet pair gateThreshold minConfidence env w =
        .ok true w') :
      LetThrough env w wallet pair gateThreshold minConfidence :=
    queryRiskGateForConsumer_letsThrough passed
  cases entry with
  | plain =>
    change queryRiskGate wallet pair gateThreshold env w = .ok true w' at passed
    unfold queryRiskGate at passed
    split at passed
    · cases passed
    · refine LetThrough.of_bind (fun _ w₁ passed => ?_) passed
      exact LetThrough.of_bind (fun _ w₂ passed => withConfidence passed) passed
  | withConfidence floor => exact withConfidence passed
  | metered consumer =>
    exact LetThrough.of_bind (fun _ w₁ passed => queryRiskGateForConsumer_letsThrough passed) passed
  | prepaid consumer =>
    refine LetThrough.of_bind (fun _ w₁ passed => ?_) passed
    refine LetThrough.of_bind (fun _ w₂ passed => ?_) passed
    refine LetThrough.of_bind (fun _ w₃ passed => ?_) passed
    exact LetThrough.of_bind (fun _ w₄ passed => withConfidence passed) passed

end Paths

/-! ### What an answer promises -/

/-- The wallet is neither embargoed nor in the risk band, and neither is the
owner of the score behind the answer, which is low and sure enough. -/
structure GateSound (env : ContractEnv) (w : State) (wallet : Address) (pair : Symbol)
    (gateThreshold minConfidence : Nat) : Prop where
  notEmbargoed : embargoed env w wallet = false
  outsideBand : inRiskBand w wallet pair = false
  basis : ∃ owner score, GateBasis env w wallet pair owner score ∧
    score.score < gateThreshold ∧ confidenceFloor w minConfidence ≤ score.confidence ∧
      embargoed env w owner = false ∧ inRiskBand w owner pair = false

/-- While paused, the wallet is neither embargoed nor in the risk band; otherwise
the custodian it has to fall back on is not. -/
def GateCovered (env : ContractEnv) (w : State) (wallet : Address) (pair : Symbol) : Prop :=
  if paused w then embargoed env w wallet = false ∧ inRiskBand w wallet pair = false
  else ∀ custodian, liveScore w wallet pair = none → delegateOf w wallet = some custodian →
    embargoed env w custodian = false ∧ inRiskBand w custodian pair = false

section Sound

variable {env : ContractEnv} {w : State} {wallet : Address} {pair : Symbol}
  {gateThreshold : Nat}

/-- Of a query that is let through, the answer keeps its promise exactly when
what the gate does not check happens to hold. -/
theorem gateSound_iff {entry : GateEntry}
    (passed : (entry.query wallet pair gateThreshold env w).value? = some true) :
    GateSound env w wallet pair gateThreshold entry.minConfidence ↔
      GateCovered env w wallet pair := by
  obtain ⟨w', passed⟩ := Outcome.exists_of_value? passed
  obtain ⟨checked, owner, score, basis, low, sure⟩ := entry.letsThrough passed
  unfold GateCovered
  cases isPaused : paused w with
  | true =>
    rw [if_pos rfl]
    constructor
    · intro sound
      exact ⟨sound.notEmbargoed, sound.outsideBand⟩
    · rintro ⟨notEmbargoed, outsideBand⟩
      refine ⟨notEmbargoed, outsideBand, owner, score, basis, low, sure, ?_⟩
      unfold GateBasis at basis
      rw [if_pos isPaused] at basis
      rw [basis.1]
      exact ⟨notEmbargoed, outsideBand⟩
  | false =>
    have byFound (owner : Address) (score : RiskScore) :
        GateBasis env w wallet pair owner score ↔
          ∃ n ≤ 1, ScoreFound w pair n wallet owner score := by
      unfold GateBasis
      rw [if_neg (by simp [isPaused])]
    obtain ⟨notEmbargoed, outsideBand⟩ := checked isPaused
    rw [if_neg Bool.false_ne_true]
    constructor
    · rintro ⟨_, _, owner, score, basis, _, _, clear⟩ custodian unscored delegate
      obtain ⟨n, _, found⟩ := (byFound owner score).mp basis
      cases found with
      | here held => simp [unscored] at held
      | there _ step rest =>
        obtain rfl : custodian = _ := Option.some.inj (delegate.symm.trans step)
        cases rest with
        | here _ => exact clear
        | there _ _ _ => omega
    · intro covered
      refine ⟨notEmbargoed, outsideBand, owner, score, basis, low, sure, ?_⟩
      obtain ⟨n, _, found⟩ := (byFound owner score).mp basis
      cases found with
      | here _ => exact ⟨notEmbargoed, outsideBand⟩
      | there unscored step rest =>
        cases rest with
        | here _ => exact covered owner unscored step
        | there _ _ _ => omega

/-- As `scoredCustodian`, with an embargo on account 13, whose score account 12
relies on. -/
def embargoedCustodian : State :=
  step exec scoredCustodian (soleSample (.setScoreEmbargo (account 13) none))

/-- The gate lets account 12 through on the score of an embargoed custodian. -/
theorem gate_open_on_embargoed_custodian :
    (GateEntry.plain.query (account 12) samplePair 75 (sampleEnv []) embargoedCustodian).value? =
        some true ∧
      (nearScore embargoedCustodian (account 12) samplePair =
        liveScore embargoedCustodian (account 13) samplePair ∧
          embargoed (sampleEnv []) embargoedCustodian (account 13) = true) := by
  decide +kernel

/-- The same query before the embargo keeps its promise. -/
theorem gateSound_of_custodian :
    (GateEntry.plain.query (account 12) samplePair 75 (sampleEnv []) scoredCustodian).value? =
        some true ∧
      GateSound (sampleEnv []) scoredCustodian (account 12) samplePair 75 0 := by
  have passed : (GateEntry.plain.query (account 12) samplePair 75 (sampleEnv [])
      scoredCustodian).value? = some true := by decide +kernel
  have isOpen : paused scoredCustodian = false := by decide +kernel
  have delegate : delegateOf scoredCustodian (account 12) = some (account 13) := by decide +kernel
  refine ⟨passed, (gateSound_iff passed).mpr ?_⟩
  unfold GateCovered
  rw [if_neg (by simp [isOpen])]
  intro custodian _ isDelegate
  obtain rfl : account 13 = custodian := Option.some.inj (delegate.symm.trans isDelegate)
  decide +kernel

end Sound

end LedgerLens
