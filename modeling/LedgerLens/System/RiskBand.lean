import LedgerLens.Host.Invariants
import LedgerLens.System.Limits
import LedgerLens.System.Lookups

/-!
The risk band and its hysteresis. A wallet enters the band at the risk threshold
and leaves it below the threshold less the margin, a subtraction that stops at
zero. The margin is checked against the threshold when it is set, the threshold
is not checked against the margin when it is applied. The main result is `margin_below_threshold`.
-/

namespace LedgerLens

open Host Host.Prog Storage

/-! ### The band -/

abbrev hysteresisMargin (w : State) : Nat := (w.ledger.entry .inst .hysteresisMargin).getD 0

/-- The two settings and who is in the band. -/
structure Banding where
  margin : Nat
  threshold : Nat
  inBand : Entry → Bool

def bandingIn (ledger : Ledger DataKey Val) : Banding where
  margin := (ledger.entry .inst .hysteresisMargin).getD 0
  threshold := (ledger.entry .inst .riskThreshold).getD defaultRiskThreshold
  inBand entry := (ledger.entry .temporary (.riskBandState entry.1 entry.2)).getD false

/-- Whether a wallet is in the band once a score is held against a threshold. -/
def bandAfter (threshold margin points : Nat) (inBand : Bool) : Bool :=
  if threshold ≤ points then true else inBand && !decide (points < threshold - margin)

namespace Banding

variable (b : Banding) (threshold : Nat) (entry : Entry)

def setBand (inBand : Bool) : Banding := { b with inBand := Function.update b.inBand entry inBand }

def score (points : Nat) : Banding :=
  b.setBand entry (bandAfter threshold b.margin points (b.inBand entry))

/-- Several scores, one after the other. -/
def scoreAll (scores : List (Entry × Nat)) : Banding :=
  scores.foldl (fun b scored => b.score threshold scored.1 scored.2) b

theorem setBand_self : b.setBand entry (b.inBand entry) = b := by
  rw [setBand, Function.update_eq_self]

variable {b threshold entry}

theorem bandAfter_zero {margin : Nat} (below : margin < threshold) (inBand : Bool) :
    bandAfter threshold margin 0 inBand = false := by
  have positive : ¬ threshold ≤ 0 := by omega
  have exits : 0 < threshold - margin := by omega
  simp [bandAfter, positive, exits]

theorem margin_scoreAll (scores : List (Entry × Nat)) :
    (b.scoreAll threshold scores).margin = b.margin := by
  induction scores generalizing b with
  | nil => rfl
  | cons scored rest ih => exact ih

theorem inBand_scoreAll_of_others {scores : List (Entry × Nat)}
    (others : ∀ scored ∈ scores, scored.1 ≠ entry) :
    (b.scoreAll threshold scores).inBand entry = b.inBand entry := by
  induction scores generalizing b with
  | nil => rfl
  | cons scored rest ih =>
    have later := ih (b := b.score threshold scored.1 scored.2)
      fun other listed => others other (List.mem_cons_of_mem _ listed)
    refine later.trans ?_
    exact Function.update_of_ne (others scored List.mem_cons_self).symm _ _

/-- The last score for an entry decides. -/
theorem inBand_scoreAll_last {earlier later : List (Entry × Nat)}
    (below : b.margin < threshold) (others : ∀ scored ∈ later, scored.1 ≠ entry) :
    (b.scoreAll threshold (earlier ++ (entry, 0) :: later)).inBand entry = false := by
  have split : b.scoreAll threshold (earlier ++ (entry, 0) :: later) =
      ((b.scoreAll threshold earlier).score threshold entry 0).scoreAll threshold later := by
    unfold scoreAll
    rw [List.foldl_append]
    rfl
  rw [split, inBand_scoreAll_of_others others]
  refine (Function.update_self ..).trans (bandAfter_zero ?_ _)
  rwa [margin_scoreAll]

end Banding

@[reducible] def Tag.isBanding : Tag → Bool
  | .hysteresisMargin | .riskThreshold | .riskBandState => true
  | _ => false

def SameBanding (w w' : State) : Prop := bandingIn w'.ledger = bandingIn w.ledger

instance : About SameBanding Tag.isBanding where
  of_only ts w w' free only := by
    have same := (inferInstance : About (Same Tag.isBanding) _).of_only ts free only
    unfold SameBanding bandingIn
    congr 1
    · rw [same.entry .inst .hysteresisMargin rfl]
    · rw [same.entry .inst .riskThreshold rfl]
    · funext entry
      rw [same.entry .temporary (.riskBandState entry.1 entry.2) rfl]

instance : IsTrans State SameBanding where
  trans _ _ _ first second := second.trans first

/-- The bands are as given. -/
def Banded (b : Banding) (_ : ContractEnv) (w : State) : Prop := bandingIn w.ledger = b

instance (b : Banding) : CarriedBy (Banded b) SameBanding where
  forth same banded := same.trans banded

section Writes

variable {env : ContractEnv} {w : State} (wallet : Address) (pair : Symbol)

theorem bandingIn_put_band (ledger : Ledger DataKey Val) (v : Option Bool) :
    bandingIn (ledger.put .temporary (.riskBandState wallet pair) v) =
      (bandingIn ledger).setBand (wallet, pair) (v.getD false) := by
  unfold bandingIn Banding.setBand
  congr 1
  exact ledger.family_put .temporary
    (fun entry : Entry => DataKey.riskBandState entry.1 entry.2)
    (by rintro ⟨⟩ ⟨⟩ ⟨⟩; rfl) (fun _ read => read.getD false) (wallet, pair) v

theorem evaluateRiskBand_banding (points threshold : Nat) :
    wlp (evaluateRiskBand wallet pair points threshold)
      (fun _ w' => bandingIn w'.ledger =
        (bandingIn w.ledger).score threshold (wallet, pair) points) env w := by
  unfold evaluateRiskBand Banding.score bandAfter
  rw [wlp_bind, wlp_loadOr, wlp_bind, wlp_loadOr, wlp_ite]
  have self := (bandingIn w.ledger).setBand_self (wallet, pair)
  change if threshold ≤ points then
    wlp (whenever (!(bandingIn w.ledger).inBand (wallet, pair)) _) _ _ _
    else wlp (whenever (decide ((bandingIn w.ledger).inBand (wallet, pair) ∧
      points < threshold - (bandingIn w.ledger).margin)) _) _ _ _
  cases inBand : (bandingIn w.ledger).inBand (wallet, pair) with
  | true =>
    rw [inBand] at self
    split
    · exact (wlp_pure ()).mpr self.symm
    · next low =>
      by_cases exits : points < threshold - (bandingIn w.ledger).margin
      · rw [decide_eq_true ⟨rfl, exits⟩, wlp_whenever, if_pos rfl, wlp_bind, wlp_erase]
        refine wlp_mono (wlp_of_keeps (R := SameBanding)) fun _ w' same => ?_
        rw [same, bandingIn_put_band, decide_eq_true exits]
        rfl
      · rw [decide_eq_false (fun both => exits both.2), decide_eq_false exits]
        exact (wlp_pure ()).mpr self.symm
  | false =>
    rw [inBand] at self
    split
    · rw [Bool.not_false, wlp_whenever, if_pos rfl, wlp_bind, wlp_save]
      refine wlp_mono (wlp_of_keeps (R := SameBanding)) fun _ w' same => ?_
      rw [same, bandingIn_put_band]
      rfl
    · rw [decide_eq_false (fun both => Bool.false_ne_true both.1)]
      exact (wlp_pure ()).mpr self.symm

theorem reactToScore_banding {b : Banding} (score : RiskScore) (previous : Option Nat)
    (threshold : Nat) (banded : Banded b env w) :
    wlp (reactToScore wallet pair score previous threshold)
      (fun _ w' => Banded (b.score threshold (wallet, pair) score.score) env w') env w := by
  unfold reactToScore
  refine wlp_carry banded fun _ _ banded => wlp_carry banded fun _ w₁ banded => ?_
  refine wlp_seq (evaluateRiskBand_banding wallet pair score.score threshold) ?_
  intro _ w₂ scored
  rw [show bandingIn w₁.ledger = b from banded] at scored
  exact fun _ _ ran => CarriedBy.forth (I := Banded _) (r := env) (Keeps.ok ran) scored

/-- A single submission is held against the configured threshold. -/
theorem writeScoreWithRateLimit_banding {b : Banding} (score : RiskScore)
    (banded : Banded b env w) :
    wlp (writeScoreWithRateLimit wallet pair score)
      (fun _ w' => Banded (b.score b.threshold (wallet, pair) score.score) env w') env w := by
  unfold writeScoreWithRateLimit
  iterate 12 refine wlp_carry banded fun _ _ banded => ?_
  refine wlp_carry banded fun _ w₁ banded => ?_
  rw [wlp_bind, wlp_loadOr]
  have threshold : (w₁.ledger.entry .inst .riskThreshold).getD defaultRiskThreshold =
      b.threshold := congrArg Banding.threshold banded
  rw [threshold]
  exact reactToScore_banding wallet pair score _ _ banded

theorem writeBatchEntry_banding {b : Banding} (threshold : Nat) (ns : NormalizedSubmission)
    (previous : Option Nat) (banded : Banded b env w) :
    wlp (writeBatchEntry threshold ns previous)
      (fun _ w' => Banded (b.score threshold (ns.wallet, ns.assetPair) ns.score) env w') env w := by
  unfold writeBatchEntry
  iterate 7 refine wlp_carry banded fun _ _ banded => ?_
  refine wlp_carry banded fun _ w₁ banded => ?_
  exact reactToScore_banding ns.wallet ns.assetPair ns.toRiskScore _ _ banded

end Writes

/-! ### Submissions -/

@[reducible] def Tag.isBandingPolicy : Tag → Bool
  | .hysteresisMargin | .riskThreshold | .riskBandState | .finalityBufferSecs
  | .adaptiveThresholdEnabled | .lastComputedThreshold => true
  | _ => false

/-- The bands are as given, and what decides how a submission is held against them. -/
structure Poised (b : Banding) (buffer effective : Nat) (env : ContractEnv) (w : State) : Prop where
  banded : Banded b env w
  buffered : (w.ledger.entry .inst .finalityBufferSecs).getD 0 = buffer
  effective : effectiveThreshold w = effective

instance (b : Banding) (buffer effective : Nat) :
    CarriedBy (Poised b buffer effective) (Same Tag.isBandingPolicy) where
  forth {env w w'} same poised := by
    have threshold := same.entry .inst .riskThreshold rfl
    have sameBanding : SameBanding w w' := by
      unfold SameBanding bandingIn
      congr 1
      · rw [same.entry .inst .hysteresisMargin rfl]
      · rw [threshold]
      · funext entry
        rw [same.entry .temporary (.riskBandState entry.1 entry.2) rfl]
    refine ⟨sameBanding.trans poised.banded, ?_, ?_⟩
    · rw [same.entry .inst .finalityBufferSecs rfl]
      exact poised.buffered
    · unfold effectiveThreshold
      rw [same.entry .inst .adaptiveThresholdEnabled rfl,
        same.entry .inst .lastComputedThreshold rfl, threshold]
      exact poised.effective

section Submissions

variable {env : ContractEnv} {w : State} {b : Banding} {buffer effective : Nat}

theorem finalizeScoreSubmission_banding (signers : List Address) (ns : NormalizedSubmission)
    (poised : Poised b 0 effective env w) :
    wlp (finalizeScoreSubmission signers ns)
      (fun _ w' => Banded (b.score b.threshold (ns.wallet, ns.assetPair) ns.score) env w')
      env w := by
  unfold finalizeScoreSubmission landScore
  refine wlp_carry poised fun _ _ poised => wlp_carry poised fun _ w₁ poised => ?_
  rw [wlp_bind, wlp_loadOr, poised.buffered]
  refine wlp_carry poised fun _ _ poised => wlp_carry poised fun _ w₂ poised => ?_
  rw [wlp_ite, if_pos rfl]
  refine wlp_seq (writeScoreWithRateLimit_banding ns.wallet ns.assetPair ns.toRiskScore
    poised.banded) fun _ w₃ banded => ?_
  exact fun _ _ ran => CarriedBy.forth (I := Banded _) (r := env) (Keeps.ok ran) banded

theorem submitScore_banding (signers : List Address) (sub : ScoreSubmission)
    (input : Option ScoreAttestationInput) (poised : Poised b 0 effective env w) :
    wlp (submitScore signers sub input)
      (fun _ w' => Banded (b.score b.threshold (sub.wallet, sub.assetPair) sub.score) env w')
      env w := by
  unfold submitScore
  refine wlp_carry poised fun _ _ poised => wlp_carry poised fun _ _ poised => ?_
  refine wlp_carry poised fun _ w₁ poised => ?_
  exact finalizeScoreSubmission_banding signers _ poised

/-- What the accepted entries of a batch do to the bands. -/
def Rebands (env : ContractEnv) (threshold : Nat) (w w' : State) (accepted : List ScoreSubmission) :
    Prop :=
  ∀ b, Banded b env w → Banded (b.scoreAll threshold
    (accepted.map fun sub => ((sub.wallet, sub.assetPair), sub.score))) env w'

theorem Rebands.append {threshold : Nat} {w₁ w₂ : State} {first second : List ScoreSubmission}
    (before : Rebands env threshold w w₁ first) (after : Rebands env threshold w₁ w₂ second) :
    Rebands env threshold w w₂ (first ++ second) := by
  intro b banded
  rw [List.map_append, Banding.scoreAll, List.foldl_append]
  exact after _ (before b banded)

theorem judgeValidEntry_banding (threshold : Nat) (ns : NormalizedSubmission)
    (banded : Banded b env w) :
    wlp (judgeValidEntry threshold ns)
      (fun verdict w' => Banded (if verdict.accepted then
        b.score threshold (ns.wallet, ns.assetPair) ns.score else b) env w') env w := by
  unfold judgeValidEntry
  iterate 3 refine wlp_carry banded fun _ _ banded => ?_
  rw [wlp_ite]
  split
  · exact (wlp_pure _).mpr banded
  · refine wlp_carry banded fun blocked _ banded => ?_
    rw [wlp_ite]
    split
    · exact (wlp_pure _).mpr banded
    · refine wlp_carry banded fun _ _ banded => wlp_carry banded fun _ w₁ banded => ?_
      rw [wlp_ite]
      split
      · exact (wlp_pure _).mpr banded
      · refine wlp_seq (writeBatchEntry_banding threshold ns _ banded) fun _ _ scored => ?_
        exact (wlp_pure _).mpr scored

theorem judgeEntry_rebands (threshold : Nat) (sub : ScoreSubmission) (w : State) :
    wlp (judgeEntry threshold sub)
      (fun verdict w' =>
        Rebands env threshold w w' (if verdict.accepted then [sub] else [])) env w := by
  intro verdict w' ran b banded
  refine wlp_mono (Q := fun verdict w' => Banded (b.scoreAll threshold
    ((if verdict.accepted then [sub] else []).map fun sub =>
      ((sub.wallet, sub.assetPair), sub.score))) env w') (P := fun verdict w' =>
        Banded (if verdict.accepted then
          b.score threshold (sub.wallet, sub.assetPair) sub.score else b) env w') ?_ ?_
    verdict w' ran
  · unfold judgeEntry
    rw [wlp_ite]
    split
    · exact (wlp_pure _).mpr banded
    · refine wlp_carry banded fun paused w₁ banded => ?_
      rw [wlp_ite]
      split
      · exact (wlp_pure _).mpr banded
      · refine wlp_handle (fun e w₂ failed => ?_) ?_
        · exact (wlp_pure _).mpr (CarriedBy.forth (r := env) (Keeps.err failed) banded)
        · intro _ w₂ valid
          exact judgeValidEntry_banding threshold sub.normalize
            (CarriedBy.forth (r := env) (Keeps.ok valid) banded)
  · intro verdict w' banded
    cases accepted : verdict.accepted with
    | false =>
      rw [accepted] at banded
      exact banded
    | true =>
      rw [accepted] at banded
      exact banded

theorem getEffectiveThreshold_run (env : ContractEnv) (w : State) :
    getEffectiveThreshold env w = .ok (effectiveThreshold w) w := by
  have returns : wp getEffectiveThreshold (fun t v => t = effectiveThreshold w ∧ v = w) env w :=
    wp_getEffectiveThreshold.mpr ⟨rfl, rfl⟩
  obtain ⟨_, _, ran, rfl, rfl⟩ := returns
  exact ran

theorem submitScoresBatch_banding (subs : List ScoreSubmission)
    (poised : Poised b buffer effective env w) : wlp (submitScoresBatch subs)
      (fun result w' => Banded (b.scoreAll effective
        ((acceptedEntries subs result.results).map fun sub =>
          ((sub.wallet, sub.assetPair), sub.score))) env w') env w := by
  unfold submitScoresBatch
  iterate 6 refine wlp_carry poised fun _ _ poised => ?_
  refine wlp_carry poised fun _ w₁ poised => ?_
  rw [wlp_bind_of_ok (getEffectiveThreshold_run env w₁), poised.effective]
  refine wlp_seq (batchLoop_does (R := Rebands env effective) (fun _ _ banded => banded)
    Rebands.append (judgeEntry_rebands effective) subs w₁) ?_
  rintro progress w₂ ⟨_, rebands⟩
  refine wlp_carry (rebands b poised.banded) fun _ w₃ banded => ?_
  exact (wlp_pure _).mpr banded

end Submissions

/-! ### Runs -/

/-- A threshold is applied only when it is above the margin. -/
def KeepsMargin (w : State) (tx : Transaction) : Prop :=
  match tx.call with
  | .user (.applyParamChange key) => key = symbolRiskThr →
      ∀ pending ∈ w.ledger.entry .inst (.pendingParamChange key),
        ∀ points, pending.newValue = .u32 points → hysteresisMargin w < points
  | .user .applyPolicyBundle =>
    ∀ pending ∈ w.ledger.entry .inst .pendingPolicyBundle,
      hysteresisMargin w < pending.bundle.riskThreshold
  | _ => True

/-- A single submission is written at once; a batch is held against a threshold above the margin. -/
def HeldAtOnce (w : State) (tx : Transaction) : Prop :=
  match tx.call with
  | .user (.submitScore ..) => (w.ledger.entry .inst .finalityBufferSecs).getD 0 = 0
  | .user (.submitScoresBatch _) => hysteresisMargin w < effectiveThreshold w
  | _ => True

/-- Who gets a score of zero accepted is not in the band afterwards. In a batch the last entry
accepted for the wallet and pair counts. -/
def LeavesBand (w : State) (tx : Transaction) : Prop :=
  match tx.call with
  | .user (.submitScore _ sub _) => Returns exec w tx → sub.score = 0 →
      inRiskBand (step exec w tx) sub.wallet sub.assetPair = false
  | .user (.submitScoresBatch subs) =>
    ∀ result, (submitScoresBatch subs tx.env { w with authorized := [] }).value? =
      some result → ∀ earlier sub later,
        acceptedEntries subs result.results = earlier ++ sub :: later → sub.score = 0 →
        (∀ other ∈ later, (other.wallet, other.assetPair) ≠ (sub.wallet, sub.assetPair)) →
        inRiskBand (step exec w tx) sub.wallet sub.assetPair = false
  | _ => True

@[reducible] def Tag.isMargin : Tag → Bool
  | .hysteresisMargin | .riskThreshold => true
  | _ => false

section Runs

variable {env : ContractEnv} {w w' : State} {call : Call}

theorem applyParamChange_margin {key : Symbol} (below : hysteresisMargin w < riskThreshold w)
    (keeps : KeepsMargin w ⟨env, .user (.applyParamChange key)⟩)
    (ran : applyParamChange key env w = .ok () w') : hysteresisMargin w' < riskThreshold w' := by
  unfold applyParamChange storeParamValue at ran
  simp [ok_iff_wp] at ran
  obtain ⟨proposal, pending, _, ran⟩ := ran
  cases value : proposal.newValue with
  | u32 points =>
    simp [value, ParamValue.u32?] at ran
    split at ran
    · next isThreshold =>
      have above := keeps isThreshold proposal pending points value
      subst ran
      simpa [hysteresisMargin, riskThreshold, Ledger.entry_put_of_ne] using above
    · obtain ⟨_, rfl⟩ := ran
      simpa [hysteresisMargin, riskThreshold, Ledger.entry_put_of_ne] using below
  | u64 secs =>
    simp [value, ParamValue.u32?, ParamValue.u64?] at ran
    split at ran
    · subst ran
      simpa [hysteresisMargin, riskThreshold, Ledger.entry_put_of_ne] using below
    · obtain ⟨_, rfl⟩ := ran
      simpa [hysteresisMargin, riskThreshold, Ledger.entry_put_of_ne] using below

theorem applyPolicyBundle_margin (keeps : KeepsMargin w ⟨env, .user .applyPolicyBundle⟩)
    (ran : applyPolicyBundle env w = .ok () w') : hysteresisMargin w' < riskThreshold w' := by
  unfold applyPolicyBundle at ran
  simp [ok_iff_wp] at ran
  obtain ⟨proposal, pending, _, rfl⟩ := ran
  simpa [hysteresisMargin, riskThreshold, Ledger.entry_put_of_ne] using keeps proposal pending

theorem setHysteresisMargin_margin {margin : Nat}
    (ran : setHysteresisMargin margin env w = .ok () w') :
    hysteresisMargin w' < riskThreshold w' := by
  obtain ⟨v, v', checked, ⟨sameLedger, _⟩, stored⟩ := asSingleAdmin_ok ran
  obtain ⟨_, v₁, bounded, checked⟩ := bind_ok.mp checked
  obtain ⟨_, rfl⟩ := require_ok.mp bounded
  obtain ⟨threshold, v₂, found, checked⟩ := bind_ok.mp checked
  obtain ⟨rfl, rfl⟩ := loadOr_ok.mp found
  obtain ⟨below, rfl⟩ := require_ok.mp checked
  obtain rfl := save_ok.mp stored
  have below : margin < riskThreshold w := of_decide_eq_true below
  simpa [hysteresisMargin, riskThreshold, Ledger.entry_put_of_ne, sameLedger] using below

theorem exec_margin (below : hysteresisMargin w < riskThreshold w)
    (keeps : KeepsMargin w ⟨env, call⟩) (ran : exec call env w = .ok () w') :
    hysteresisMargin w' < riskThreshold w' := by
  have unchanged (free : (footprint call).all (fun t => !t.isMargin) = true) :
      hysteresisMargin w' < riskThreshold w' := by
    have same : Same Tag.isMargin w w' := About.of_all free ((exec_keeps call).ok ran)
    unfold hysteresisMargin riskThreshold
    rw [same.entry .inst .hysteresisMargin rfl, same.entry .inst .riskThreshold rfl]
    exact below
  rcases call with call | ⟨signers, call⟩ | call
  · cases call
    case applyParamChange key => exact applyParamChange_margin below keeps ran
    case applyPolicyBundle => exact applyPolicyBundle_margin keeps ran
    all_goals exact unchanged rfl
  · exact unchanged (by cases call <;> rfl)
  · cases call
    case setHysteresisMargin margin => exact setHysteresisMargin_margin ran
    all_goals exact unchanged rfl

theorem step_margin {tx : Transaction} (below : hysteresisMargin w < riskThreshold w)
    (keeps : KeepsMargin w tx) :
    hysteresisMargin (step exec w tx) < riskThreshold (step exec w tx) := by
  by_cases returns : Returns exec w tx
  · exact exec_margin (w := { w with authorized := [] }) below keeps returns.ok
  · rwa [step_of_not_returns returns]

theorem step_leavesBand {tx : Transaction} (below : hysteresisMargin w < riskThreshold w)
    (held : HeldAtOnce w tx) : LeavesBand w tx := by
  obtain ⟨env, call⟩ := tx
  rcases call with call | ⟨signers, call⟩ | call
  · cases call
    case submitScore signers sub input =>
      intro returns isZero
      have poised : Poised (bandingIn w.ledger) 0 (effectiveThreshold w) env
          { w with authorized := [] } := ⟨rfl, held, rfl⟩
      have banded := submitScore_banding signers sub input poised () _ returns.ok
      change (bandingIn (step exec w _).ledger).inBand (sub.wallet, sub.assetPair) = false
      rw [show bandingIn (step exec w _).ledger = _ from banded, isZero]
      exact (Function.update_self ..).trans (Banding.bandAfter_zero below _)
    case submitScoresBatch subs =>
      intro result ran earlier sub later accepted isZero others
      obtain ⟨w', ran⟩ := Outcome.exists_of_value? ran
      have poised : Poised (bandingIn w.ledger) _ (effectiveThreshold w) env
          { w with authorized := [] } := ⟨rfl, rfl, rfl⟩
      have banded := submitScoresBatch_banding subs poised result w' ran
      dsimp only at banded
      have ended : step exec w ⟨env, .user (.submitScoresBatch subs)⟩ = w' :=
        invoke_of_ok (bind_ok.mpr ⟨result, w', ran, rfl⟩)
      rw [ended]
      change (bandingIn w'.ledger).inBand (sub.wallet, sub.assetPair) = false
      rw [accepted, List.map_append, List.map_cons, isZero] at banded
      rw [show bandingIn w'.ledger = _ from banded]
      refine Banding.inBand_scoreAll_last held fun scored listed => ?_
      obtain ⟨other, isLater, rfl⟩ := List.mem_map.mp listed
      exact others other isLater
    all_goals trivial
  · trivial
  · trivial

end Runs

/-- As long as thresholds are applied above the margin, the margin is below the threshold, and a
score of zero that is held against it at once takes its wallet out of the band. -/
theorem margin_below_threshold (balance : Balances) (txs : List Transaction)
    (along : Along exec KeepsMargin (genesis balance) txs) :
    hysteresisMargin (run exec (genesis balance) txs) <
        riskThreshold (run exec (genesis balance) txs) ∧
      ∀ tx, HeldAtOnce (run exec (genesis balance) txs) tx →
        LeavesBand (run exec (genesis balance) txs) tx := by
  have below : hysteresisMargin (run exec (genesis balance) txs) <
      riskThreshold (run exec (genesis balance) txs) :=
    run_invariant (I := fun w => hysteresisMargin w < riskThreshold w)
      (fun _ _ below keeps => step_margin below keeps)
      (show 0 < defaultRiskThreshold by decide) along
  exact ⟨below, fun tx held => step_leavesBand below held⟩

/-- A score of 80 with a margin of 10 under the threshold of 75. -/
def sampleBand : List Transaction :=
  [initSample, soleSample (.setHysteresisMargin 10), submitSample (account 3) 80]

def inSampleBand : State := run exec blank sampleBand

def sampleExit : Transaction :=
  ⟨sampleAfter [account 2] 172800,
    .user (.submitScore [] (sampleSubmission (account 3) 0) none)⟩

theorem margin_below_threshold_sample :
    inRiskBand inSampleBand (account 3) samplePair = true ∧
      inRiskBand (step exec inSampleBand sampleExit) (account 3) samplePair = false := by
  have along : Along exec KeepsMargin blank sampleBand :=
    ⟨trivial, trivial, trivial, trivial⟩
  have leaves : HeldAtOnce inSampleBand sampleExit → LeavesBand inSampleBand sampleExit :=
    (margin_below_threshold (fun _ _ => 0) sampleBand along).2 sampleExit
  have unbuffered : (inSampleBand.ledger.entry .inst .finalityBufferSecs).getD 0 = 0 := by
    decide +kernel
  have returns : Returns exec inSampleBand sampleExit := by decide +kernel
  refine ⟨by decide +kernel, ?_⟩
  -- the state is no longer looked into
  generalize inSampleBand = w at leaves unbuffered returns ⊢
  exact leaves unbuffered returns rfl

/-- A day later the threshold is down to 5. -/
def lowered : State :=
  run exec inSampleBand
    [⟨sampleEnv [account 1], .admins [account 1] (.setRiskThreshold 5)⟩,
      ⟨sampleAfter [] 86400, .user (.applyParamChange symbolRiskThr)⟩]

/-- The margin is not below it, and a score of zero is accepted but leaves the wallet in the
band. -/
theorem zero_stays_in_band :
    riskThreshold lowered = 5 ∧ hysteresisMargin lowered = 10 ∧
      (liveScore (step exec lowered sampleExit) (account 3) samplePair).map RiskScore.score =
        some 0 ∧
      inRiskBand (step exec lowered sampleExit) (account 3) samplePair = true := by
  refine ⟨?_, ?_, ?_, ?_⟩ <;> decide +kernel

end LedgerLens
