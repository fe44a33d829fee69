import LedgerLens.System.Delegation

/-!
The readers that resolve delegation. `is_wallet_safe` answers from a lookup and
takes a failed one for a good sign; `get_effective_score` and
`get_score_percentile` follow one hop where `get_score` follows several. The main results are
`isWalletSafe_sound_iff` and `readersAgree_iff`.
-/

namespace LedgerLens

open Host Host.Prog Host.Chain Storage

/-! ### Readings -/

/-- The alert about a silent service is the only thing a reader leaves behind. -/
theorem checkServiceSilence_returns (env : ContractEnv) (w : State) :
    ∃ w', checkServiceSilence env w = .ok () w' ∧
      Only placeTag [.serviceSilentAlertEmitted] w w' := by
  have returns : wp checkServiceSilence (fun _ _ => True) env w := by
    simp [checkServiceSilence]
  obtain ⟨⟨⟩, w', ran, _⟩ := returns
  exact ⟨w', ran, Footprint.keeps.ok ran⟩

abbrev riskThreshold (w : State) : Nat :=
  (w.ledger.entry .inst .riskThreshold).getD defaultRiskThreshold

section Readings

variable {env : ContractEnv} {w w' : State} {ts : List Tag}

theorem liveScore_of_only (only : Only placeTag ts w w') (free : Tag.score ∉ ts) :
    liveScore w' = liveScore w :=
  funext fun _ => funext fun _ => only.entry _ _ free

theorem delegateOf_of_only (only : Only placeTag ts w w') (free : Tag.scoreDelegate ∉ ts) :
    delegateOf w' = delegateOf w :=
  funext fun _ => only.entry _ _ free

theorem embargoed_of_only (only : Only placeTag ts w w') (free : Tag.scoreEmbargo ∉ ts) :
    embargoed env w' = embargoed env w := by
  funext wallet
  unfold embargoed
  rw [only.entry .temporary (.scoreEmbargo wallet) free]

theorem inRiskBand_of_only (only : Only placeTag ts w w') (free : Tag.riskBandState ∉ ts) :
    inRiskBand w' = inRiskBand w := by
  funext wallet pair
  unfold inRiskBand
  rw [only.entry .temporary (.riskBandState wallet pair) free]

end Readings

/-! ### Lookups -/

section Lookups

variable {env : ContractEnv} {w w' : State} {wallet : Address} {pair : Symbol}

/-- A score lies near enough for a lookup. -/
def Resolvable (w : State) (wallet : Address) (pair : Symbol) : Prop :=
  ∃ n ≤ maxDelegationDepth, ∃ owner score, ScoreFound w pair n wallet owner score

/-- The four ways a lookup ends. -/
theorem lookupScore_cases (env : ContractEnv) (w : State) (wallet : Address)
    (pair : Symbol) :
    (embargoed env w wallet = true ∧ lookupScore wallet pair env w = .err .scoreEmbargoed w) ∨
    (embargoed env w wallet = false ∧
      ((∃ n ≤ maxDelegationDepth, ∃ owner score, ScoreFound w pair n wallet owner score ∧
          lookupScore wallet pair env w = .ok (some score) w) ∨
        (¬ Resolvable w wallet pair ∧
          ((Revisits (delegateOf w) maxDelegationDepth wallet ∧
              lookupScore wallet pair env w = .err .cyclicDelegation w) ∨
            (¬ Revisits (delegateOf w) maxDelegationDepth wallet ∧
              lookupScore wallet pair env w = .ok none w))))) := by
  cases embargo : embargoed env w wallet with
  | true => exact .inl ⟨rfl, lookupScore_of_embargoed embargo⟩
  | false =>
    refine .inr ⟨rfl, ?_⟩
    by_cases resolvable : Resolvable w wallet pair
    · obtain ⟨n, near, owner, score, found⟩ := resolvable
      exact .inl ⟨n, near, owner, score, found, lookupScore_found embargo near found⟩
    · refine .inr ⟨resolvable, lookupScore_missing embargo fun n near owner score found => ?_⟩
      exact resolvable ⟨n, near, owner, score, found⟩

/-- A lookup depends on the embargo, on the delegates and on what is found
along them. -/
theorem lookupScore_result_congr (embargoes : embargoed env w' wallet = embargoed env w wallet)
    (delegates : delegateOf w' = delegateOf w)
    (same : ∀ n ≤ maxDelegationDepth, ∀ owner score,
      ScoreFound w' pair n wallet owner score ↔ ScoreFound w pair n wallet owner score) :
    (lookupScore wallet pair env w').result = (lookupScore wallet pair env w).result := by
  rcases lookupScore_cases env w wallet pair with
    ⟨embargo, looked⟩ | ⟨open_, ⟨n, near, owner, score, found, looked⟩ | ⟨missing, rest⟩⟩
  · rw [looked, lookupScore_of_embargoed (embargoes.trans embargo)]
    rfl
  · rw [looked, lookupScore_found (embargoes.trans open_) near
      ((same n near owner score).mpr found)]
    rfl
  · have missing' : ∀ n ≤ maxDelegationDepth, ∀ o s, ¬ ScoreFound w' pair n wallet o s :=
      fun n near owner score found =>
        missing ⟨n, near, owner, score, (same n near owner score).mp found⟩
    rcases rest with ⟨again, looked⟩ | ⟨clear, looked⟩ <;>
      rcases lookupScore_missing (embargoes.trans open_) missing' with
        ⟨again', looked'⟩ | ⟨clear', looked'⟩
    · rw [looked, looked']
      rfl
    · exact absurd (delegates ▸ again) clear'
    · exact absurd (delegates ▸ again') clear
    · rw [looked, looked']
      rfl

/-- The alert a reader may raise does not change what is looked up. -/
theorem lookupScore_result_of_silence (only : Only placeTag [.serviceSilentAlertEmitted] w w') :
    (lookupScore wallet pair env w').result = (lookupScore wallet pair env w).result := by
  have scores : liveScore w' = liveScore w := liveScore_of_only only (by decide)
  have delegates : delegateOf w' = delegateOf w := delegateOf_of_only only (by decide)
  refine lookupScore_result_congr (by rw [embargoed_of_only only (by decide)]) delegates ?_
  intro n near owner score
  unfold ScoreFound
  rw [scores, delegates]

end Lookups

/-! ### Safe wallets -/

section Safe

variable {env : ContractEnv} {w : State} {wallet : Address} {pair : Symbol}

/-- What `is_wallet_safe` makes of a lookup: only an embargo is held against a
wallet without a score. -/
def safeAnswer (threshold : Nat) : Except Error (Option RiskScore) → Bool
  | .ok found => found.elim true fun score => score.score < threshold
  | .error error => error ≠ .scoreEmbargoed

theorem isWalletSafe_value (env : ContractEnv) (w : State) (wallet : Address)
    (pair : Symbol) :
    (isWalletSafe wallet pair env w).value? =
      (lookupScore wallet pair env w).result.map (safeAnswer (riskThreshold w)) := by
  obtain ⟨w', silent, only⟩ := checkServiceSilence_returns env w
  have threshold : riskThreshold w' = riskThreshold w := by
    unfold riskThreshold
    rw [only.entry .inst .riskThreshold (by decide)]
  rw [← lookupScore_result_of_silence only, ← threshold]
  unfold isWalletSafe isScoreRisky
  simp only [bind_assoc]
  rw [run_bind_of_ok silent, run_bind, handle]
  rcases lookupScore_cases env w' wallet pair with
    ⟨_, looked⟩ | ⟨_, ⟨_, _, _, score, _, looked⟩ | ⟨_, ⟨_, looked⟩ | ⟨_, looked⟩⟩⟩
  · rw [looked]
    rfl
  · rw [looked]
    change some (!decide (score.score ≥ riskThreshold w')) =
      some (decide (score.score < riskThreshold w'))
    rw [← decide_not]
    exact congrArg some (decide_eq_decide.mpr Nat.not_le)
  · rw [looked]
    rfl
  · rw [looked]
    rfl

/-- The delegates of the wallet come back to one they have passed, however late. -/
def CyclicChain (w : State) (wallet : Address) : Prop :=
  ∃ depth, Revisits (delegateOf w) depth wallet

/-- What it means that a wallet is reported safe. -/
structure SafeIsSound (env : ContractEnv) (w : State) (wallet : Address) (pair : Symbol) :
    Prop where
  scored : (isWalletSafe wallet pair env w).value? = some true →
    ∃ score, (lookupScore wallet pair env w).result = some (.ok (some score)) ∧
      score.score < riskThreshold w
  resolvable : (isWalletSafe wallet pair env w).value? = some true →
    Resolvable w wallet pair
  unembargoed : (isWalletSafe wallet pair env w).value? = some true →
    embargoed env w wallet = false
  acyclic : (isWalletSafe wallet pair env w).value? = some true → ¬ CyclicChain w wallet

/-- The report is sound for embargoed wallets, which are not reported safe, and for those whose
score can be found, unless it is low and their delegates run in a cycle that the lookup does
not come to. Any other wallet is reported safe without a score. -/
theorem isWalletSafe_sound_iff (env : ContractEnv) (w : State) (wallet : Address)
    (pair : Symbol) :
    SafeIsSound env w wallet pair ↔ embargoed env w wallet = true ∨
      ∃ n ≤ maxDelegationDepth, ∃ owner score, ScoreFound w pair n wallet owner score ∧
        (CyclicChain w wallet → riskThreshold w ≤ score.score) := by
  have value := isWalletSafe_value env w wallet pair
  rcases lookupScore_cases env w wallet pair with
    ⟨embargo, looked⟩ | ⟨open_, ⟨n, near, owner, score, found, looked⟩ | ⟨missing, rest⟩⟩
  · have refused : (isWalletSafe wallet pair env w).value? ≠ some true := by
      simp [value, looked, Outcome.result, safeAnswer]
    exact ⟨fun _ => .inl embargo, fun _ => ⟨fun safe => absurd safe refused,
      fun safe => absurd safe refused, fun safe => absurd safe refused,
      fun safe => absurd safe refused⟩⟩
  · have resolvable : Resolvable w wallet pair := ⟨n, near, owner, score, found⟩
    have safe : (isWalletSafe wallet pair env w).value? = some true ↔
        score.score < riskThreshold w := by
      simp [value, looked, Outcome.result, safeAnswer]
    constructor
    · intro sound
      refine .inr ⟨n, near, owner, score, found, fun cyclic => not_lt.mp fun low => ?_⟩
      exact sound.acyclic (safe.mpr low) cyclic
    · rintro (embargo | ⟨m, _, o, s, found', high⟩)
      · rw [open_] at embargo
        cases embargo
      · obtain ⟨rfl, rfl, rfl⟩ := found.unique found'
        exact ⟨fun reported => ⟨score, by rw [looked]; rfl, safe.mp reported⟩,
          fun _ => resolvable, fun _ => open_,
          fun reported cyclic => absurd (high cyclic) (not_le.mpr (safe.mp reported))⟩
  · have safe : (isWalletSafe wallet pair env w).value? = some true := by
      rcases rest with ⟨_, looked⟩ | ⟨_, looked⟩ <;>
        simp [value, looked, Outcome.result, safeAnswer]
    constructor
    · exact fun sound => absurd (sound.resolvable safe) missing
    · rintro (embargo | ⟨m, near, o, s, found, _⟩)
      · rw [open_] at embargo
        cases embargo
      · exact absurd ⟨m, near, o, s, found⟩ missing

/-- A wallet with a low score and the first of seven that delegate in a cycle. -/
def scoredInCycle : State :=
  run exec deployed
    [submitSample (account 11) 20,
      delegateTx 11 12, delegateTx 12 13, delegateTx 13 14, delegateTx 14 15, delegateTx 15 16,
      delegateTx 16 17, delegateTx 17 11]

/-- A wallet nobody has scored is reported safe, and so is one in a cycle. -/
theorem isWalletSafe_of_unscored :
    (isWalletSafe (account 9) samplePair (sampleEnv []) deployed).value? = some true ∧
      (lookupScore (account 9) samplePair (sampleEnv []) deployed).value? = some none ∧
      ¬ SafeIsSound (sampleEnv []) scoredInCycle (account 11) samplePair := by
  refine ⟨by decide +kernel, by decide +kernel, fun sound => ?_⟩
  refine sound.acyclic (by decide +kernel) ⟨8, 7, by decide, 0, by decide, account 11, ?_, rfl⟩
  decide +kernel

end Safe

/-! ### One hop -/

section OneHop

variable {env : ContractEnv} {w : State} {wallet : Address} {pair : Symbol}
  {score : RiskScore}

/-- The wallet's own score, or that of its delegate. -/
def nearScore (w : State) (wallet : Address) (pair : Symbol) : Option RiskScore :=
  (liveScore w wallet pair).or
    ((delegateOf w wallet).bind fun custodian => liveScore w custodian pair)

theorem nearScore_eq_some_iff :
    nearScore w wallet pair = some score ↔
      ∃ n ≤ 1, ∃ owner, ScoreFound w pair n wallet owner score := by
  unfold nearScore
  constructor
  · intro near
    cases own : liveScore w wallet pair with
    | some s =>
      rw [own] at near
      cases near
      exact ⟨0, Nat.zero_le _, wallet, .here own⟩
    | none =>
      rw [own, Option.none_or, Option.bind_eq_some_iff] at near
      obtain ⟨custodian, step, held⟩ := near
      exact ⟨1, Nat.le_refl _, custodian, .there own step (.here held)⟩
  · rintro ⟨n, near, owner, found⟩
    cases found with
    | here held => rw [held, Option.some_or]
    | there missing step rest =>
      cases rest with
      | here held => rw [missing, step, Option.none_or, Option.bind_some, held]
      | there _ _ _ => omega

theorem decayFixed_le (age num den : Nat) : decayFixed age num den ≤ decayFixedPointScale := by
  unfold decayFixed
  dsimp only
  split
  · exact Nat.le_refl _
  · split
    · exact Nat.zero_le _
    · split
      · exact Nat.zero_le _
      · split
        · exact Nat.zero_le _
        · split
          · exact Nat.le_refl _
          · omega

/-- The score after decay, as `get_effective_score` reports it. -/
def decayedScore (env : ContractEnv) (w : State) (score : RiskScore) : Nat :=
  let decay := (w.ledger.entry .inst .decayRate).getD (0, 1)
  if decay.1 ≠ 0 then
    score.score * decayFixed (env.timestamp - score.timestamp) decay.1 decay.2 /
      decayFixedPointScale % u32Bound
  else score.score

/-- The readers that look one hop ahead start alike: the embargo, then the
wallet's score or its delegate's. -/
theorem readNear_run {α : Type} (env : ContractEnv) (w : State) (wallet : Address)
    (pair : Symbol) (goOn : RiskScore → M α) :
    (do
      require (!(← isEmbargoed wallet)) .scoreEmbargoed
      let delegated ← (← getScoreDelegate wallet).elim (pure none) fun custodian =>
        getScore custodian pair
      let score ← okOr ((← getScore wallet pair).or delegated) .scoreNotFound
      goOn score : M α) env w =
      if embargoed env w wallet then .err .scoreEmbargoed w
      else (nearScore w wallet pair).elim (.err .scoreNotFound w)
        fun score => goOn score env w := by
  have delegated : ((delegateOf w wallet).elim (pure none) fun custodian =>
      getScore custodian pair : M _) env w =
        .ok ((delegateOf w wallet).bind fun custodian => liveScore w custodian pair) w := by
    cases delegateOf w wallet <;> rfl
  have asks : getScoreDelegate wallet env w = .ok (delegateOf w wallet) w := rfl
  have scored : getScore wallet pair env w = .ok (liveScore w wallet pair) w := rfl
  rw [run_bind_of_ok (isEmbargoed_run env w wallet)]
  cases embargo : embargoed env w wallet with
  | true => rfl
  | false =>
    have passes : (require (!false) .scoreEmbargoed : M Unit) env w = .ok () w := rfl
    rw [run_bind_of_ok passes, run_bind_of_ok asks, run_bind_of_ok delegated, run_bind_of_ok scored]
    change (okOr (nearScore w wallet pair) .scoreNotFound >>= goOn) env w = _
    cases nearScore w wallet pair <;> rfl

/-- Without a finality depth and an oracle, the effective score is the near
score after decay. -/
theorem getEffectiveScore_run (final : (w.ledger.entry .inst .finalityDepth).getD 0 = 0)
    (noOracle : w.ledger.entry .inst (.registeredOracle pair) = none)
    (fits : ∀ score, nearScore w wallet pair = some score → score.score < u32Bound) :
    getEffectiveScore wallet pair env w =
      if embargoed env w wallet then .err .scoreEmbargoed w
      else (nearScore w wallet pair).elim (.err .scoreNotFound w) fun score =>
        .ok { originalScore := score.score
              effectiveScore := decayedScore env w score
              originalConfidence := score.confidence
              confidenceFloor := 0
              delegatedTo := none } w := by
  unfold getEffectiveScore
  rw [readNear_run]
  congr 1
  cases near : nearScore w wallet pair with
  | none => rfl
  | some score =>
    rw [Option.elim_some, Option.elim_some]
    have confirmed : confirmedScore wallet pair score env w = .ok score w := by
      simp [confirmedScore, ok_iff_wp, final]
    have noOverflow (num den : Nat) :
        score.score * decayFixed (env.timestamp - score.timestamp) num den < u64Bound := by
      have small := fits score near
      have factor := decayFixed_le (env.timestamp - score.timestamp) num den
      calc score.score * decayFixed (env.timestamp - score.timestamp) num den
          ≤ u32Bound * decayFixedPointScale := Nat.mul_le_mul (Nat.le_of_lt small) factor
        _ < u64Bound := by decide
    have floor : oracleConfidenceFloor pair env w = .ok 0 w := by
      simp [oracleConfidenceFloor, ok_iff_wp, noOracle]
    rw [run_bind_of_ok confirmed, ok_iff_wp]
    simp only [wp_bind, wp_asks, wp_loadOr, wp_ite, wp_pure]
    simp [wp, floor, decayedScore, checkedOr, noOverflow]
    split
    · next still => exact fun decays => absurd still decays
    · next decays => exact fun still => absurd still decays

/-- The number of scores the histogram counts. -/
def histogramTotal (w : State) : Nat :=
  ((w.ledger.entry .inst .scoreHistogram).getD (List.replicate 10 0)).foldl satAdd64 0

/-- The percentile is not found without a near score, and when the total, cut
to 32 bits, is zero. -/
theorem getScorePercentile_notFound_iff :
    (getScorePercentile wallet pair env w).result = some (.error .scoreNotFound) ↔
      embargoed env w wallet = false ∧
        (nearScore w wallet pair = none ∨ histogramTotal w % u32Bound = 0) := by
  unfold getScorePercentile
  rw [readNear_run]
  cases embargoed env w wallet with
  | true => simp [Outcome.result]
  | false =>
    cases nearScore w wallet pair with
    | none => simp [Outcome.result]
    | some score =>
      have total : getHistogramTotal env w = .ok (histogramTotal w % u32Bound) w := rfl
      rw [if_neg Bool.false_ne_true, Option.elim_some, run_bind_of_ok total]
      by_cases empty : histogramTotal w % u32Bound = 0
      · simp [empty, require, run_bind, Outcome.result]
      · have counted : (require (histogramTotal w % u32Bound ≠ 0) .scoreNotFound : M Unit) env w =
            .ok () w := by
          simp [require, empty]
        obtain ⟨below, summed⟩ := fold_of_total (r := env) (s := w)
          (f := fun below bucket => do return satAdd32 below (← getHistogramBucket bucket))
          (fun below bucket => ⟨_, rfl⟩) 0 (List.range (bucketOf score.score))
        rw [run_bind_of_ok counted, run_bind_of_ok summed]
        simp [empty, Outcome.result]

end OneHop

/-! ### Agreement of the readers -/

section Agreement

variable {env : ContractEnv} {w : State} {wallet : Address} {pair : Symbol}

/-- What `get_score` makes of a lookup. -/
def scoreAnswer : Except Error (Option RiskScore) → Except Error RiskScore
  | .ok found => found.elim (.error .scoreNotFound) .ok
  | .error error => .error error

theorem contract_getScore_result (env : ContractEnv) (w : State) (wallet : Address)
    (pair : Symbol) :
    (Contract.getScore wallet pair env w).result =
      if assetPairIsBounded pair then
        (lookupScore wallet pair env w).result.map scoreAnswer
      else some (.error .invalidAttestation) := by
  unfold Contract.getScore ensureAssetPairBounded
  cases bounded : assetPairIsBounded pair with
  | false => rfl
  | true =>
    obtain ⟨w', silent, only⟩ := checkServiceSilence_returns env w
    have passes : (require true .invalidAttestation : M Unit) env w = .ok () w := rfl
    rw [if_pos rfl, run_bind_of_ok passes, run_bind_of_ok silent, run_bind,
      ← lookupScore_result_of_silence only]
    rcases lookupScore wallet pair env w' with ⟨_ | score, w''⟩ | ⟨error, w''⟩ | _ <;> rfl

/-- `get_score`, `get_effective_score` and `get_score_percentile` agree on
whether there is a score and on what it is. -/
@[mk_iff readersAgree_def]
structure ReadersAgree (env : ContractEnv) (w : State) (wallet : Address) (pair : Symbol) :
    Prop where
  effective : ∀ score,
    (Contract.getScore wallet pair env w).result = some (.ok score) →
      ∃ e, (getEffectiveScore wallet pair env w).result = some (.ok e) ∧
        e.originalScore = score.score ∧ e.originalConfidence = score.confidence
  scored : ∀ e, (getEffectiveScore wallet pair env w).result = some (.ok e) →
    ∃ score, (Contract.getScore wallet pair env w).result = some (.ok score)
  percentile :
    (getScorePercentile wallet pair env w).result = some (.error .scoreNotFound) →
      (Contract.getScore wallet pair env w).result = some (.error .scoreNotFound) ∨
        histogramTotal w = 0

/-- The score, if there is one, is the wallet's own or its delegate's, and the
histogram's total is not a multiple of `2 ^ 32`. Without a score the delegates
do not come back to a wallet, or the histogram is empty. -/
def WithinOneHop (w : State) (wallet : Address) (pair : Symbol) : Prop :=
  if assetPairIsBounded pair then
    ((nearScore w wallet pair).isSome ∧
        (histogramTotal w % u32Bound = 0 → histogramTotal w = 0)) ∨
      (¬ Resolvable w wallet pair ∧
        (Revisits (delegateOf w) maxDelegationDepth wallet → histogramTotal w = 0))
  else nearScore w wallet pair = none ∧ histogramTotal w = 0

theorem nearScore_resolvable {score : RiskScore} (near : nearScore w wallet pair =
    some score) : Resolvable w wallet pair := by
  obtain ⟨n, hops, owner, found⟩ := nearScore_eq_some_iff.mp near
  exact ⟨n, hops.trans (by decide), owner, score, found⟩

theorem readersAgree_of_embargoed (embargo : embargoed env w wallet = true) :
    ReadersAgree env w wallet pair := by
  have failed : ∀ score, (Contract.getScore wallet pair env w).result ≠ some (.ok score) := by
    intro score
    rw [contract_getScore_result, lookupScore_of_embargoed embargo]
    split <;> simp [Outcome.result, scoreAnswer]
  have refused : (getEffectiveScore wallet pair env w).result = some
    (.error .scoreEmbargoed) := by
    unfold getEffectiveScore
    rw [readNear_run, if_pos embargo]
    rfl
  refine ⟨fun score ran => absurd ran (failed score), fun e ran =>
    ?_, fun missed => ?_⟩
  · rw [refused] at ran
    cases ran
  · rw [getScorePercentile_notFound_iff, embargo] at missed
    cases missed.1

/-- Under an embargo all readers refuse. Otherwise they agree when the score is
one hop away at most, or missing to all of them in the same way. -/
theorem readersAgree_iff (final : (w.ledger.entry .inst .finalityDepth).getD 0 = 0)
    (noOracle : w.ledger.entry .inst (.registeredOracle pair) = none)
    (fits : ∀ score, nearScore w wallet pair = some score → score.score < u32Bound) :
    ReadersAgree env w wallet pair ↔
      embargoed env w wallet = true ∨ WithinOneHop w wallet pair := by
  cases embargo : embargoed env w wallet with
  | true => simp [readersAgree_of_embargoed embargo]
  | false =>
    have effective : getEffectiveScore wallet pair env w = _ :=
      getEffectiveScore_run final noOracle fits
    rw [embargo, if_neg Bool.false_ne_true] at effective
    simp only [readersAgree_def, getScorePercentile_notFound_iff, contract_getScore_result,
      effective, embargo, Bool.false_eq_true, false_or, true_and, WithinOneHop]
    cases assetPairIsBounded pair with
    | false => cases nearScore w wallet pair <;> simp [Outcome.result]
    | true =>
      rcases lookupScore_cases env w wallet pair with
        ⟨refused, _⟩ | ⟨_, ⟨n, hops, owner, score, found, looked⟩ | ⟨missing, rest⟩⟩
      · exact absurd refused (by simp [embargo])
      · have resolvable : Resolvable w wallet pair := ⟨n, hops, owner, score, found⟩
        cases near : nearScore w wallet pair with
        | none => simp [looked, Outcome.result, scoreAnswer, resolvable]
        | some nearest =>
          obtain ⟨m, _, owner', found'⟩ := nearScore_eq_some_iff.mp near
          obtain ⟨_, _, rfl⟩ := found.unique found'
          simp [looked, Outcome.result, scoreAnswer, resolvable]
      · have near : nearScore w wallet pair = none := by
          cases held : nearScore w wallet pair with
          | none => rfl
          | some score => exact absurd (nearScore_resolvable held) missing
        rcases rest with ⟨again, looked⟩ | ⟨clear, looked⟩
        · simp [looked, near, Outcome.result, scoreAnswer, missing, again]
        · simp [looked, near, Outcome.result, scoreAnswer, missing, clear]

/-- Account 13 has a score, account 12 delegates to it and account 11 to account 12. -/
def scoredCustodian : State :=
  run exec deployed
    [submitSample (account 13) 50,
     delegateTx 12 13, delegateTx 11 12]

/-- Two hops away `get_score` finds the score and `get_effective_score` does not. -/
theorem readers_disagree_of_two_hops :
    (Contract.getScore (account 11) samplePair (sampleEnv []) scoredCustodian).value?.map
        RiskScore.score = some 50 ∧
      (getEffectiveScore (account 11) samplePair (sampleEnv []) scoredCustodian).value? = none := by
  decide +kernel

/-- One hop away they agree. -/
theorem readersAgree_of_one_hop :
    (nearScore scoredCustodian (account 12) samplePair).isSome = true ∧
      ReadersAgree (sampleEnv []) scoredCustodian (account 12) samplePair := by
  have near : (nearScore scoredCustodian (account 12) samplePair).isSome = true := by
    decide +kernel
  have small : (nearScore scoredCustodian (account 12) samplePair).all
      (fun score => score.score < u32Bound) = true := by decide +kernel
  refine ⟨near, (readersAgree_iff ?_ ?_ fun score held => ?_).mpr (.inr ?_)⟩
  · decide +kernel
  · decide +kernel
  · rw [held] at small
    exact of_decide_eq_true small
  · exact .inl ⟨near, by decide +kernel⟩

end Agreement

end LedgerLens
