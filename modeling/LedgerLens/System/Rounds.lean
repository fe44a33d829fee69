import LedgerLens.Score.Book
import LedgerLens.System.Votes

/-!
What the votes of a consensus round settle on, as a function of the votes and the
state before the round. A reveal settles on the weighted mean of the votes around
the lower median (`wlp_revealConsensus`), a direct round on the lower median of
the votes that are no outliers (`wlp_submitConsensusScore`).
-/

namespace LedgerLens

open Host Host.Prog Storage

/-- The quorum and the tolerance in force. -/
def thresholdOf (w : State) : Nat :=
  (w.ledger.entry .inst .consensusThresholdK).getD defaultConsensusThresholdK

def epsilonOf (w : State) : Nat :=
  (w.ledger.entry .inst .consensusEpsilon).getD defaultConsensusEpsilon

def multiplierOf (w : State) : Nat := (w.ledger.entry .inst .iqrRejectionMultiplier).getD 150

@[reducible] def Tag.isBallot : Tag → Bool
  | .consensusThresholdK | .consensusEpsilon | .iqrRejectionMultiplier | .signerAccuracy => true
  | _ => false

@[reducible] def Tag.isRound : Tag → Bool
  | .servicePubKey | .pendingServicePubKey | .revokedKey | .contractVersion
  | .consensusThresholdK | .consensusEpsilon | .iqrRejectionMultiplier | .signerAccuracy => true
  | _ => false

section Rounds

section

variable (env : ContractEnv) (w : State) (wallet : Address) (pair : Symbol) (timestamp : Nat)
  (subs : List ModelSubmission)

/-- The votes a round accepts, in the state before it. -/
def acceptedVotes : List ModelSubmission :=
  subs.filter (voteAccepted env w wallet pair timestamp)

/-- The votes a reveal rests on. -/
def revealBasis : List ModelSubmission :=
  agreeing (epsilonOf w) (acceptedVotes env w wallet pair timestamp subs)

/-- The votes a direct round rests on. -/
def directBasis : List ModelSubmission :=
  survivors (multiplierOf w) (acceptedVotes env w wallet pair timestamp subs)

/-- The score that a reveal settles on. -/
def revealedScore : Option RiskScore :=
  (meanScore w (revealBasis env w wallet pair timestamp subs)).map fun score =>
    consensusRiskScore (revealBasis env w wallet pair timestamp subs) score timestamp

/-- The score that a direct round settles on. -/
def directScore : Option RiskScore :=
  (medianScore (directBasis env w wallet pair timestamp subs)).map fun score =>
    consensusRiskScore (directBasis env w wallet pair timestamp subs) score timestamp

end

variable {env : ContractEnv} {w w₁ : State} {wallet : Address} {pair : Symbol}
  {timestamp : Nat} {subs : List ModelSubmission} {nonces : List Nat}

theorem map_fst_filter_zip {α β : Type} (p : α → Bool) {as : List α} {bs : List β}
    (sameLength : as.length = bs.length) :
    ((as.zip bs).filter fun pair => p pair.1).map Prod.fst = as.filter p := by
  have filtered := List.filter_map (f := Prod.fst) (p := p) (l := as.zip bs)
  rw [List.map_fst_zip sameLength.le] at filtered
  exact filtered.symm

/-- A round starts from the state before it, as far as it reads it. -/
theorem Same.round (same : Same Tag.isRound w w₁) :
    SameVerifier env w w₁ ∧ Same Tag.isBallot w w₁ := by
  refine ⟨.of_same (same.mono ?_), same.mono ?_⟩
  · rintro ⟨⟩ <;> first | exact fun _ => rfl | exact nofun
  · rintro ⟨⟩ <;> first | exact fun _ => rfl | exact nofun

theorem acceptedVotes_congr (same : SameVerifier env w w₁) :
    acceptedVotes env w₁ wallet pair timestamp subs =
      acceptedVotes env w wallet pair timestamp subs :=
  congrArg (subs.filter ·) (funext (voteAccepted_congr same))

theorem mem_acceptedVotes {vote : ModelSubmission}
    (accepted : vote ∈ acceptedVotes env w wallet pair timestamp subs) :
    vote ∈ subs ∧ voteInRange vote = true := by
  obtain ⟨listed, passed⟩ := List.mem_filter.mp accepted
  exact ⟨listed, (Bool.and_eq_true_iff.mp passed).1⟩

theorem score_le_of_inRange {vote : ModelSubmission} (inRange : voteInRange vote = true) :
    vote.score ≤ 100 :=
  of_decide_eq_true (Bool.and_eq_true_iff.mp inRange).1

theorem meanScore_congr (same : Same Tag.isBallot w w₁) (votes : List ModelSubmission) :
    meanScore w₁ votes = meanScore w votes := by
  have weight (vote : ModelSubmission) : voteWeight w₁ vote = voteWeight w vote := by
    unfold voteWeight
    rw [same.entry _ (.signerAccuracy _) rfl]
  have sums : weightedSums w₁ votes = weightedSums w votes := by
    simp only [weightedSums, funext₂ fun sums vote =>
      show addWeighted w₁ sums vote = addWeighted w sums vote by simp only [addWeighted, weight]]
  unfold meanScore
  rw [sums]

/-- A reveal settles on the mean of its basis, in a state whose ballots are those before it. -/
theorem wlp_revealConsensus {Q : Unit → State → Prop} (signers : List Address)
    (settles : ∀ score w₁, Same Tag.isBallot w w₁ → Undisturbed w w₁ →
      thresholdOf w ≤ (revealBasis env w wallet pair timestamp subs).length →
      meanScore w (revealBasis env w wallet pair timestamp subs) = some score →
      wlp (do
        store .inst .lastGlobalSubmissionTime (← now)
        writeScoreWithRateLimit wallet pair
          (consensusRiskScore (revealBasis env w wallet pair timestamp subs) score
            timestamp)
        emit (.consensusScoreSubmitted wallet pair score
          (revealBasis env w wallet pair timestamp subs).length (epsilonOf w))
        each (revealBasis env w wallet pair timestamp subs) (penalizeModel score))
        Q env w₁) :
    wlp (revealConsensus signers wallet pair subs nonces timestamp) Q env w := by
  unfold revealConsensus
  refine wlp_seq (wlp_and (wlp_of_keeps (R := Same Tag.isRound))
    (wlp_of_keeps (R := Undisturbed))) fun _ w₁ ⟨same₁, beside₁⟩ => ?_
  refine wlp_seq (wlp_and (wlp_of_keeps (R := Same Tag.isRound))
    (wlp_of_keeps (R := Undisturbed))) fun _ w₂ ⟨same₂, beside₂⟩ => ?_
  obtain ⟨verifier, ballot⟩ : SameVerifier env w w₂ ∧ Same Tag.isBallot w w₂ :=
    Same.round (IsTrans.trans _ _ _ same₁ same₂)
  rw [wlp_bind, wlp_require]
  intro _
  rw [wlp_bind, wlp_require]
  intro paired
  rw [wlp_bind, wlp_require]
  intro _
  refine wlp_seq (wlp_and (keepRevealed_spec (subs.zip nonces) w₂)
    (wlp_and (wlp_of_keeps (R := Same Tag.isBallot)) (wlp_of_keeps (R := Undisturbed)))) ?_
  rintro _ w₃ ⟨⟨rfl, _⟩, ballot₃, beside₃⟩
  have ballot : Same Tag.isBallot w w₃ := IsTrans.trans _ _ _ ballot ballot₃
  have accepted : subs.filter (voteAccepted env w₂ wallet pair timestamp) =
      acceptedVotes env w wallet pair timestamp subs := acceptedVotes_congr verifier
  dsimp only
  rw [map_fst_filter_zip (voteAccepted env w₂ wallet pair timestamp)
    (of_decide_eq_true paired), accepted]
  rw [wlp_bind, wlp_require]
  intro _
  rw [wlp_bind, wlp_okOr]
  intro median isMedian
  -- the votes around the median are what the score rests on
  have isBasis : (acceptedVotes env w wallet pair timestamp subs).filter
      (fun vote => median - epsilonOf w ≤ vote.score &&
        vote.score ≤ min (satAdd32 median (epsilonOf w)) 100) =
      revealBasis env w wallet pair timestamp subs := by
    unfold revealBasis agreeing
    rw [isMedian]
    rfl
  rw [wlp_bind, wlp_loadOr, wlp_bind, wlp_loadOr, ballot.entry _ .consensusEpsilon rfl,
    ballot.entry _ .consensusThresholdK rfl, ← epsilonOf, ← thresholdOf]
  rw [isBasis, wlp_bind, wlp_require]
  intro quorum
  rw [wlp_bind]
  rintro _ _ ran
  rw [weightedMeanScore_eq, meanScore_congr ballot] at ran
  cases ran
  rw [wlp_bind, wlp_okOr]
  intro score isMean
  refine settles score w₃ ballot ?_ (of_decide_eq_true quorum) isMean
  exact IsTrans.trans _ _ _ beside₁ (IsTrans.trans _ _ _ beside₂ beside₃)

/-- A direct round settles on the median of its basis. -/
theorem wlp_submitConsensusScore {Q : Unit → State → Prop} (signers : List Address)
    (settles : ∀ score w₁, Same Tag.isBallot w w₁ → Undisturbed w w₁ →
      medianScore (directBasis env w wallet pair timestamp subs) = some score →
      wlp (do
        store .inst .lastGlobalSubmissionTime (← now)
        writeScoreWithRateLimit wallet pair
          (consensusRiskScore (directBasis env w wallet pair timestamp subs) score
            timestamp)
        each (directBasis env w wallet pair timestamp subs) fun vote =>
          updateSignerAccuracy vote.model (absDiff score vote.score)) Q env w₁) :
    wlp (submitConsensusScore signers wallet pair subs timestamp) Q env w := by
  unfold submitConsensusScore
  refine wlp_seq (wlp_and (wlp_of_keeps (R := Same Tag.isRound))
    (wlp_of_keeps (R := Undisturbed))) fun _ w₁ ⟨same₁, beside₁⟩ => ?_
  refine wlp_seq (wlp_and (wlp_of_keeps (R := Same Tag.isRound))
    (wlp_of_keeps (R := Undisturbed))) fun _ w₂ ⟨same₂, beside₂⟩ => ?_
  obtain ⟨verifier, ballot⟩ : SameVerifier env w w₂ ∧ Same Tag.isBallot w w₂ :=
    Same.round (IsTrans.trans _ _ _ same₁ same₂)
  rw [wlp_bind, wlp_require]
  intro _
  rw [wlp_bind, wlp_require]
  intro _
  rw [wlp_bind, wlp_load]
  refine wlp_seq (wlp_and (keepDirect_spec subs w₂)
    (wlp_and (wlp_of_keeps (R := Same Tag.isBallot)) (wlp_of_keeps (R := Undisturbed)))) ?_
  rintro _ w₃ ⟨rfl, ballot₃, beside₃⟩
  have ballot : Same Tag.isBallot w w₃ := IsTrans.trans _ _ _ ballot ballot₃
  have accepted : subs.filter (voteAccepted env w₂ wallet pair timestamp) =
      acceptedVotes env w wallet pair timestamp subs := acceptedVotes_congr verifier
  have multiplier : multiplierOf w₃ = multiplierOf w := by
    unfold multiplierOf
    rw [ballot.entry _ .iqrRejectionMultiplier rfl]
  rw [accepted, wlp_bind, wlp_require]
  intro _
  refine wlp_seq (wlp_and (rejectOutliers_spec _)
    (wlp_and (wlp_of_keeps (R := Same Tag.isBallot)) (wlp_of_keeps (R := Undisturbed)))) ?_
  rintro _ w₄ ⟨rfl, ballot₄, beside₄⟩
  rw [← multiplierOf, multiplier, ← directBasis, wlp_bind, wlp_okOr]
  intro score isMedian
  refine settles score w₄ (IsTrans.trans _ _ _ ballot ballot₄) ?_ isMedian
  exact IsTrans.trans _ _ _ (IsTrans.trans _ _ _ beside₁ beside₂)
    (IsTrans.trans _ _ _ beside₃ beside₄)

end Rounds

end LedgerLens
