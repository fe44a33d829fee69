import LedgerLens.Host.OrderStatistics
import LedgerLens.System.Keys

/-!
The votes of a consensus round: which of them the two entry points keep, and what
they agree on, as functions of the votes and the state before the call.
-/

namespace LedgerLens

open Host Host.Prog Storage

/-! ### Verified votes -/

/-- What the check of an attestation looks at is the same at this time. -/
structure SameVerifier (env : ContractEnv) (w w' : State) : Prop where
  registered : (keyRing w').active.isSome = (keyRing w).active.isSome
  ring : (keyRing w').atTime env.timestamp = (keyRing w).atTime env.timestamp
  revoked : revoked env w' = revoked env w
  version : w'.ledger.entry .inst .contractVersion = w.ledger.entry .inst .contractVersion

@[reducible] def Tag.isVerifier : Tag → Bool
  | .servicePubKey | .pendingServicePubKey | .revokedKey | .contractVersion => true
  | _ => false

section Verify

variable {env : ContractEnv} {w w' w'' : State}

theorem SameVerifier.of_same (same : Same Tag.isVerifier w w') : SameVerifier env w w' := by
  have ring : keyRing w' = keyRing w := by
    unfold keyRing
    rw [same.entry _ .servicePubKey rfl, same.entry _ .pendingServicePubKey rfl]
  refine ⟨by rw [ring], by rw [ring], ?_, same.entry _ .contractVersion rfl⟩
  funext key
  unfold LedgerLens.revoked
  rw [same.entry _ (.revokedKey _) rfl]

theorem SameVerifier.trans (first : SameVerifier env w w') (second : SameVerifier env w' w'') :
    SameVerifier env w w'' where
  registered := second.registered.trans first.registered
  ring := second.ring.trans first.ring
  revoked := second.revoked.trans first.revoked
  version := second.version.trans first.version

theorem KeyRing.atTime_atTime (ring : KeyRing) (time : Nat) :
    (ring.atTime time).atTime time = ring.atTime time := by
  rcases ring with ⟨active, _ | ⟨key, expiry⟩⟩
  · rfl
  · unfold KeyRing.atTime
    dsimp only
    by_cases late : time > expiry
    · simp [late]
    · simp [late]

/-- Promoting a key whose overlap has passed changes no verdict. -/
theorem sameVerifier_resolveOverlap (registered : (keyRing w).active.isSome = true) :
    SameVerifier env w (resolveOverlap env w) where
  registered := by
    rw [keyRing_resolveOverlap, registered]
    rcases (keyRing w).atTime_cases env.timestamp with same | ⟨key, expiry, _, promoted⟩
    · rw [same, registered]
    · rw [promoted]
      rfl
  ring := by rw [keyRing_resolveOverlap, KeyRing.atTime_atTime]
  revoked := funext (revoked_resolveOverlap env w)
  version := by
    unfold resolveOverlap
    split
    · split
      · simp [Ledger.entry_put_of_ne]
      · rfl
    · rfl

/-- The digest of an attestation and the signature to check, before the keys are looked at. -/
def attestedDigest (ns : NormalizedSubmission) (attestation : Option ScoreAttestation) :
    M (BytesN 32 × BytesN 65) := do
  let attestation ← okOr attestation .invalidAttestation
  require (attestation.contractVersion = (← getContractVersion)) .invalidAttestation
  let digest ← computeCommitment ns.wallet ns.assetPair ns.score ns.benfordFlag ns.mlFlag
    ns.timestamp ns.confidence ns.modelVersion attestation.contractId attestation.contractVersion
  require (digest = attestation.commitment) .invalidAttestation
  return (digest, attestation.signature)

theorem verifyAttestation_eq (ns : NormalizedSubmission) (attestation : Option ScoreAttestation) :
    verifyAttestation ns attestation =
      attestedDigest ns attestation >>= fun signed => verifySignature signed.1 signed.2 := by
  simp only [verifyAttestation, attestedDigest, bind_assoc, pure_bind]

instance (ns : NormalizedSubmission) (attestation : Option ScoreAttestation) :
    Touches (attestedDigest ns attestation) [] :=
  ⟨by unfold attestedDigest; infer_instance⟩

theorem sameVerifier_of_only (only : Only placeTag [] w w') : SameVerifier env w w' :=
  .of_same (About.of_only [] (fun _ listed => absurd listed List.not_mem_nil) only)

/-- However the check of an attestation ends, it changes no verdict. -/
theorem verifyAttestation_ends {ns : NormalizedSubmission} {attestation : Option ScoreAttestation}
    (registered : (keyRing w).active.isSome = true) {x : Except Error Unit}
    (ended : attempt (verifyAttestation ns attestation) env w = .ok x w') :
    SameVerifier env w w' := by
  rw [attempt_ok, verifyAttestation_eq, run_bind] at ended
  cases prepared : attestedDigest ns attestation env w with
  | ok signed w₁ =>
    have before : SameVerifier env w w₁ := sameVerifier_of_only (Keeps.ok prepared)
    have still : (keyRing w₁).active.isSome = true := before.registered.trans registered
    simp only [prepared, verifySignature_run] at ended
    refine (before.trans (sameVerifier_resolveOverlap still)).trans (sameVerifier_of_only ?_)
    rcases ended with ⟨u, ran, _⟩ | ⟨e, failed, _⟩
    · exact Keeps.ok ran
    · exact Keeps.err failed
  | err e w₁ =>
    simp only [prepared, reduceCtorEq, false_and, exists_false, false_or,
      Outcome.err.injEq] at ended
    obtain ⟨_, ⟨_, rfl⟩, _⟩ := ended
    exact sameVerifier_of_only (Keeps.err prepared)
  | trap => simp [prepared] at ended

/-- The verdict on an attestation depends on what the check looks at. -/
theorem verifyAttestation_congr (same : SameVerifier env w w') (ns : NormalizedSubmission)
    (attestation : ScoreAttestation) :
    (verifyAttestation ns (some attestation) env w').isOk =
      (verifyAttestation ns (some attestation) env w).isOk := by
  have signed (digest : BytesN 32) (sig : BytesN 65) :
      wp (verifySignature digest sig) (fun _ _ => True) env w' ↔
        wp (verifySignature digest sig) (fun _ _ => True) env w := by
    rw [← isOk_iff_wp, ← isOk_iff_wp, verifySignature_isOk, verifySignature_isOk, same.ring,
      same.revoked]
  rw [Bool.eq_iff_iff, isOk_iff_wp, isOk_iff_wp]
  simp only [verifyAttestation, computeCommitment, wp_bind, wp_okOr, wp_loadOr, wp_require,
    wp_asks, same.version, signed]

end Verify

/-- A service key is registered. -/
abbrev registered (w : State) : Bool := (w.ledger.entry .inst .servicePubKey).isSome

/-- The vote is in range, and verifies under the service key if there is one. -/
def voteAccepted (env : ContractEnv) (w : State) (wallet : Address) (pair : Symbol)
    (timestamp : Nat) (vote : ModelSubmission) : Bool :=
  voteInRange vote && (!registered w ||
    (verifyAttestation (vote.normalize wallet pair timestamp) (some vote.attestation)
      env w).isOk)

section Selection

variable {env : ContractEnv} {w : State} {wallet : Address} {pair : Symbol} {timestamp : Nat}

theorem voteAccepted_congr {w' : State} (same : SameVerifier env w w') (vote : ModelSubmission) :
    voteAccepted env w' wallet pair timestamp vote =
      voteAccepted env w wallet pair timestamp vote := by
  have sameKey : registered w' = registered w := same.registered
  unfold voteAccepted
  rw [sameKey, verifyAttestation_congr same]

theorem voteVerified_spec (vote : ModelSubmission) (inRange : voteInRange vote = true) :
    wlp (voteVerified (registered w) (vote.normalize wallet pair timestamp) vote.attestation)
      (fun passed w' => passed = voteAccepted env w wallet pair timestamp vote ∧
        SameVerifier env w w') env w := by
  unfold voteVerified voteAccepted
  rw [wlp_ite, inRange]
  split
  · next isKey =>
    rw [isKey]
    intro passed w' returned
    obtain ⟨x, w₁, ended, ⟨⟩⟩ := bind_ok.mp returned
    refine ⟨?_, verifyAttestation_ends isKey ended⟩
    rcases attempt_ok.mp ended with ⟨u, ran, rfl⟩ | ⟨e, ran, rfl⟩
    · rw [ran]
      rfl
    · rw [ran]
      rfl
  · next noKey =>
    rw [wlp_pure]
    exact ⟨by simp [noKey], .of_same ⟨fun _ _ _ => rfl, fun _ => rfl, fun _ => rfl⟩⟩

/-- The selection keeps the votes that pass a test which no vote before them changes. -/
theorem wlp_keepVotes {α : Type} {passes : α → M Bool} {votes : List α}
    {I : List α → State → Prop} (test : α → Bool)
    (judged : ∀ done vote w₁, I done w₁ →
      wlp (passes vote) (fun passed w₂ => passed = test vote ∧ I (done ++ [vote]) w₂) env w₁)
    (start : I [] w) :
    wlp (keepVotes passes votes) (fun kept w' => kept = votes.filter test ∧ I votes w') env w := by
  unfold keepVotes
  refine wlp_mono (wlp_fold (I := fun rest kept w' => ∃ done, votes = done ++ rest ∧
    kept = done.filter test ∧ I done w') ?_ votes _ w ⟨[], rfl, rfl, start⟩) ?_
  · rintro vote rest _ w₁ ⟨done, split, rfl, holds⟩
    refine wlp_seq (judged done vote w₁ holds) ?_
    rintro _ w₂ ⟨rfl, holds⟩
    rw [wlp_pure]
    refine ⟨done ++ [vote], by simp [split], ?_, holds⟩
    cases passed : test vote <;> simp [passed]
  · rintro _ w' ⟨done, split, rfl, holds⟩
    rw [List.append_nil] at split
    subst split
    exact ⟨rfl, holds⟩

end Selection

/-! ### Commitments -/

/-- What a model has committed to for an entry. -/
abbrev commitmentOf (w : State) (wallet : Address) (pair : Symbol) (model : Address) :
    Option (BytesN 32) :=
  w.ledger.entry .temporary (.consensusCommitment model wallet pair)

/-- The commitment that a revealed vote opens. -/
def voteHash (env : ContractEnv) (vote : ModelSubmission × Nat) : BytesN 32 :=
  env.crypto.sha256 (toBeBytes 4 vote.1.score ++ toBeBytes 8 vote.2)

/-- The models of the votes that are in range. -/
def voters (votes : List (ModelSubmission × Nat)) : List Address :=
  (votes.filter fun vote => voteInRange vote.1).map fun vote => vote.1.model

/-- The votes in range, of different models, open what their models have committed to; the
commitments are used up. -/
structure Opened (env : ContractEnv) (wallet : Address) (pair : Symbol)
    (votes : List (ModelSubmission × Nat)) (w w' : State) : Prop where
  committed : ∀ vote ∈ votes, voteInRange vote.1 = true →
    commitmentOf w wallet pair vote.1.model = some (voteHash env vote)
  distinct : (voters votes).Nodup
  consumed : ∀ model, commitmentOf w' wallet pair model =
    if model ∈ voters votes then none else commitmentOf w wallet pair model

@[reducible] def Tag.isCommitment : Tag → Bool
  | .consensusCommitment => true
  | _ => false

def SameCommitments (w w' : State) : Prop :=
  ∀ wallet pair model, commitmentOf w' wallet pair model =
    commitmentOf w wallet pair model

instance : About SameCommitments Tag.isCommitment where
  of_only ts w w' free only wallet pair model :=
    only.entry .temporary (.consensusCommitment model wallet pair) fun listed => by
      simpa using free _ listed

instance : IsTrans State SameCommitments where
  trans _ _ _ first second wallet pair model :=
    (second wallet pair model).trans (first wallet pair model)

section Reveal

variable {env : ContractEnv} {w w₁ w₂ : State} {wallet : Address} {pair : Symbol}
  {timestamp : Nat} {done : List (ModelSubmission × Nat)} {vote : ModelSubmission × Nat}

theorem voters_snoc (done : List (ModelSubmission × Nat)) (vote : ModelSubmission × Nat) :
    voters (done ++ [vote]) =
      voters done ++ if voteInRange vote.1 = true then [vote.1.model] else [] := by
  unfold voters
  cases inRange : voteInRange vote.1 <;> simp [inRange]

theorem Opened.nil (w : State) : Opened env wallet pair [] w w :=
  ⟨fun _ listed => absurd listed List.not_mem_nil, List.nodup_nil, fun _ => rfl⟩

theorem Opened.skip (opened : Opened env wallet pair done w w₁)
    (outOfRange : voteInRange vote.1 = false) : Opened env wallet pair (done ++ [vote]) w w₁ := by
  have same : voters (done ++ [vote]) = voters done := by simp [voters_snoc, outOfRange]
  refine ⟨fun other listed inRange => ?_, same ▸ opened.distinct, same ▸ opened.consumed⟩
  rcases List.mem_append.mp listed with before | last
  · exact opened.committed other before inRange
  · rw [List.mem_singleton.mp last, outOfRange] at inRange
    cases inRange

/-- A vote that finds its commitment is the first of its model. -/
theorem Opened.open (opened : Opened env wallet pair done w w₁)
    (inRange : voteInRange vote.1 = true)
    (found : commitmentOf w₁ wallet pair vote.1.model = some (voteHash env vote))
    (usedUp : ∀ model, commitmentOf w₂ wallet pair model =
      if model = vote.1.model then none else commitmentOf w₁ wallet pair model) :
    Opened env wallet pair (done ++ [vote]) w w₂ := by
  have isVoter : voters (done ++ [vote]) = voters done ++ [vote.1.model] := by
    rw [voters_snoc, if_pos inRange]
  rw [opened.consumed] at found
  have isNew : vote.1.model ∉ voters done := by
    intro voted
    rw [if_pos voted] at found
    cases found
  rw [if_neg isNew] at found
  refine ⟨fun other listed otherInRange => ?_, ?_, fun model => ?_⟩
  · rcases List.mem_append.mp listed with before | last
    · exact opened.committed other before otherInRange
    · rw [List.mem_singleton.mp last]
      exact found
  · rw [isVoter]
    refine List.nodup_append.mpr ⟨opened.distinct, List.nodup_singleton _, ?_⟩
    rintro model voted _ last rfl
    exact isNew (List.mem_singleton.mp last ▸ voted)
  · rw [usedUp, opened.consumed, isVoter]
    by_cases last : model = vote.1.model
    · simp [last]
    · simp [last]

theorem revealVote_spec (same : SameVerifier env w w₁)
    (opened : Opened env wallet pair done w w₁) :
    wlp (revealVote wallet pair timestamp vote)
      (fun passed w₂ => passed = voteAccepted env w wallet pair timestamp vote.1 ∧
        SameVerifier env w w₂ ∧ Opened env wallet pair (done ++ [vote]) w w₂) env w₁ := by
  unfold revealVote
  rw [wlp_ite]
  split
  · next outOfRange =>
    rw [wlp_pure]
    have outOfRange : voteInRange vote.1 = false := by simpa using outOfRange
    exact ⟨by rw [voteAccepted, outOfRange]; rfl, same, opened.skip outOfRange⟩
  · next isInRange =>
    have inRange : voteInRange vote.1 = true := by simpa using isInRange
    rw [wlp_bind, wlp_load, wlp_bind, wlp_okOr]
    intro commitment found
    rw [wlp_bind, wlp_asks, wlp_bind, wlp_require]
    intro isHash
    rw [wlp_bind, wlp_erase, wlp_bind, wlp_load]
    obtain rfl : voteHash env vote = commitment := of_decide_eq_true isHash
    -- the commitment is gone before the attestation is looked at
    generalize isErased : ({ w₁ with
      ledger := w₁.ledger.put .temporary
        (.consensusCommitment vote.1.model wallet pair) none } : State) = u
    have sameKeys : SameVerifier env w₁ u := by
      subst u
      refine .of_same ⟨fun d k isVerifier => ?_, fun _ => rfl, fun _ => rfl⟩
      refine Ledger.entry_put_of_ne _ _ fun sameKey => ?_
      rw [sameKey] at isVerifier
      cases isVerifier
    have usedUp (model : Address) : commitmentOf u wallet pair model =
        if model = vote.1.model then none else commitmentOf w₁ wallet pair model := by
      subst u
      split
      · next isModel =>
        rw [isModel]
        exact Ledger.entry_put_self ..
      · next other =>
        refine Ledger.entry_put_of_ne _ _ fun sameKey => other ?_
        cases sameKey
        rfl
    refine wlp_mono (wlp_and (voteVerified_spec vote.1 inRange)
      (wlp_of_keeps (R := SameCommitments))) ?_
    rintro _ w₂ ⟨⟨rfl, verified⟩, commitments⟩
    refine ⟨voteAccepted_congr (same.trans sameKeys) vote.1,
      (same.trans sameKeys).trans verified, ?_⟩
    refine opened.open inRange found fun model => ?_
    exact (commitments wallet pair model).trans (usedUp model)

/-- Which votes a reveal keeps, and what becomes of the commitments. -/
theorem keepRevealed_spec (votes : List (ModelSubmission × Nat)) (w : State) :
    wlp (keepVotes (revealVote wallet pair timestamp) votes)
      (fun kept w' =>
        kept = votes.filter (fun vote => voteAccepted env w wallet pair timestamp vote.1) ∧
          Opened env wallet pair votes w w') env w := by
  refine wlp_mono (wlp_keepVotes (I := fun done w' => SameVerifier env w w' ∧
    Opened env wallet pair done w w')
      (fun vote => voteAccepted env w wallet pair timestamp vote.1)
      (fun done vote w₁ held => ?_)
      ⟨.of_same ⟨fun _ _ _ => rfl, fun _ => rfl, fun _ => rfl⟩, .nil w⟩) ?_
  · exact revealVote_spec held.1 held.2
  · rintro _ w' ⟨rfl, _, opened⟩
    exact ⟨rfl, opened⟩

/-- Which votes a direct consensus keeps. -/
theorem keepDirect_spec (votes : List ModelSubmission) (w : State) :
    wlp (keepVotes (directVote (registered w) wallet pair timestamp) votes)
      (fun kept _ => kept = votes.filter (voteAccepted env w wallet pair
        timestamp)) env w := by
  refine wlp_mono (wlp_keepVotes (I := fun _ w' => SameVerifier env w w')
    (voteAccepted env w wallet pair timestamp) (fun done vote w₁ same =>
      ?_) (.of_same ⟨fun _ _ _ => rfl, fun _ => rfl, fun _ => rfl⟩))
      fun _ _ kept => kept.1
  unfold directVote
  rw [wlp_ite]
  split
  · next outOfRange =>
    rw [wlp_pure]
    exact ⟨by simp_all [voteAccepted], same⟩
  · next inRange =>
    have sameKey : registered w₁ = registered w := same.registered
    rw [← sameKey]
    refine wlp_mono (voteVerified_spec vote (by simpa using inRange)) ?_
    rintro _ w₂ ⟨rfl, verified⟩
    exact ⟨voteAccepted_congr same vote, same.trans verified⟩

end Reveal

/-! ### Agreement -/

section Agreement

variable {env : ContractEnv} {w : State} {votes : List ModelSubmission}

theorem kthValue_eq_orderStat (votes : List ModelSubmission) (value : ModelSubmission → Nat)
    (kth : Nat) : kthValue votes value kth = orderStat (votes.map value) kth := by
  rw [← find?_eq_orderStat, kthValue]
  simp only [List.countP_map, Function.comp_def]

/-- The lower median is an order statistic. -/
theorem medianValue_eq_orderStat (votes : List ModelSubmission) (value : ModelSubmission → Nat) :
    medianValue votes value = orderStat (votes.map value) ((votes.length - 1) / 2) := by
  unfold medianValue
  cases votes with
  | nil => simp [orderStat]
  | cons first rest => exact kthValue_eq_orderStat ..

theorem exists_kthScore {kth : Nat} (inside : kth < votes.length) :
    ∃ vote ∈ votes, kthScore votes kth = some vote.score := by
  have inScores : kth < (votes.map ModelSubmission.score).length := by rwa [List.length_map]
  obtain ⟨score, found⟩ := orderStat_isSome inScores
  obtain ⟨vote, listed, rfl⟩ := List.mem_map.mp (mem_of_orderStat found)
  exact ⟨vote, listed, (kthValue_eq_orderStat ..).trans found⟩

theorem medianScore_le {score : Nat} (inRange : ∀ vote ∈ votes, vote.score ≤ 100)
    (found : medianScore votes = some score) : score ≤ 100 := by
  rw [medianScore, medianValue_eq_orderStat] at found
  obtain ⟨vote, listed, rfl⟩ := List.mem_map.mp (mem_of_orderStat found)
  exact inRange vote listed

/-- The votes near enough to the lower median. -/
def agreeing (epsilon : Nat) (votes : List ModelSubmission) : List ModelSubmission :=
  (medianScore votes).elim [] fun median =>
    votes.filter fun vote =>
      median - epsilon ≤ vote.score && vote.score ≤ min (satAdd32 median epsilon) 100

theorem mem_agreeing {epsilon : Nat} {vote : ModelSubmission}
    (listed : vote ∈ agreeing epsilon votes) :
    vote ∈ votes ∧ ∃ median, medianScore votes = some median ∧
      absDiff vote.score median ≤ epsilon := by
  unfold agreeing at listed
  cases isMedian : medianScore votes with
  | none =>
    rw [isMedian] at listed
    exact absurd listed List.not_mem_nil
  | some median =>
    rw [isMedian] at listed
    obtain ⟨member, bounds⟩ := List.mem_filter.mp listed
    refine ⟨member, median, rfl, ?_⟩
    rw [Bool.and_eq_true, decide_eq_true_eq, decide_eq_true_eq] at bounds
    unfold satAdd32 at bounds
    unfold absDiff
    omega

/-- The weight of a vote before the call. -/
def voteWeight (w : State) (vote : ModelSubmission) : Nat :=
  accuracyWeight (w.ledger.entry .inst (.signerAccuracy vote.model))

/-- The votes as weighted scores. -/
def weightedScores (w : State) (votes : List ModelSubmission) : List (Nat × Nat) :=
  votes.map fun vote => (voteWeight w vote, vote.score)

theorem voteWeight_pos (w : State) (vote : ModelSubmission) : 0 < voteWeight w vote :=
  Nat.lt_of_lt_of_le Nat.zero_lt_one (Nat.le_max_right ..)

theorem voteWeight_le (w : State) (vote : ModelSubmission) : voteWeight w vote ≤ 1000 :=
  Nat.max_le.mpr ⟨Nat.div_le_self .., by decide⟩

theorem totalWeight_pos (w : State) (nonempty : votes ≠ []) :
    0 < totalWeight (weightedScores w votes) := by
  obtain ⟨first, rest, rfl⟩ := List.exists_cons_of_ne_nil nonempty
  exact Nat.lt_of_lt_of_le (voteWeight_pos w first) (Nat.le_add_right ..)

section

variable (env : ContractEnv) (w : State) (votes : List ModelSubmission)

theorem totalWeight_le : totalWeight (weightedScores w votes) ≤ votes.length * 1000 := by
  induction votes with
  | nil => exact Nat.le_refl 0
  | cons first rest ih =>
    have bound := voteWeight_le w first
    simp only [weightedScores, totalWeight, List.map_cons, List.sum_cons, List.length_cons] at ih ⊢
    omega

/-- One more vote in the sums of the weights and of the weighted scores. -/
def addWeighted (sums : Nat × Nat) (vote : ModelSubmission) : Nat × Nat :=
  (satAdd64 sums.1 (voteWeight w vote),
    satAdd64 sums.2 (satMul64 (voteWeight w vote) vote.score))

def weightedSums : Nat × Nat :=
  votes.foldl (addWeighted w) (0, 0)

/-- What the weighted mean of the votes comes to in a state. -/
def meanScore : Option Nat :=
  if votes.isEmpty then none
  else if (weightedSums w votes).1 = 0 then medianScore votes
  else some ((weightedSums w votes).2 / (weightedSums w votes).1 % u32Bound)

theorem weightedMeanScore_eq : weightedMeanScore votes env w = .ok (meanScore w votes) w := by
  have summed : ∀ sums, fold addWeightedVote sums votes env w =
      .ok (votes.foldl (addWeighted w) sums) w := by
    induction votes with
    | nil => exact fun _ => rfl
    | cons first rest ih => exact fun sums => ih _
  unfold weightedMeanScore meanScore
  split
  · rfl
  · rw [run_bind_of_ok (summed (0, 0))]
    unfold weightedSums
    split <;> rfl

end

/-- Within the bounds of the source's types the sums are exact. -/
theorem foldl_weightedSums (inRange : ∀ vote ∈ votes, vote.score ≤ 100) (sums : Nat × Nat)
    (fits : (sums.1 + totalWeight (weightedScores w votes)) * 100 < u64Bound)
    (below : sums.2 ≤ 100 * sums.1) :
    votes.foldl (addWeighted w) sums =
      (sums.1 + totalWeight (weightedScores w votes),
        sums.2 + weightedSum (weightedScores w votes)) := by
  induction votes generalizing sums with
  | nil => rfl
  | cons first rest ih =>
    have le : voteWeight w first * first.score ≤ voteWeight w first * 100 :=
      Nat.mul_le_mul_left _ (inRange first List.mem_cons_self)
    have total : totalWeight (weightedScores w (first :: rest)) =
        voteWeight w first + totalWeight (weightedScores w rest) := List.sum_cons
    have sum : weightedSum (weightedScores w (first :: rest)) =
        voteWeight w first * first.score + weightedSum (weightedScores w rest) := List.sum_cons
    rw [total] at fits
    have added : addWeighted w sums first =
        (sums.1 + voteWeight w first, sums.2 + voteWeight w first * first.score) := by
      unfold addWeighted satAdd64 satMul64
      rw [Nat.min_eq_left (by omega), Nat.min_eq_left (b := u64Bound - 1) (by omega),
        Nat.min_eq_left (by omega)]
    rw [List.foldl_cons, added,
      ih (fun vote listed => inRange vote (List.mem_cons_of_mem _ listed)) _
        (by dsimp only; omega) (by dsimp only; omega), total, sum]
    simp only [Nat.add_assoc]

/-- The weighted mean of votes in range. -/
theorem meanScore_eq (nonempty : votes ≠ []) (short : votes.length < u32Bound)
    (inRange : ∀ vote ∈ votes, vote.score ≤ 100) :
    meanScore w votes =
      some (weightedSum (weightedScores w votes) / totalWeight (weightedScores w votes)) := by
  have positive := totalWeight_pos w nonempty
  have small := totalWeight_le w votes
  have mean : weightedSum (weightedScores w votes) / totalWeight (weightedScores w votes) ≤ 100 :=
    weightedMean_le fun vote listed => by
      obtain ⟨voter, member, rfl⟩ := List.mem_map.mp listed
      exact inRange voter member
  have fits : (0 + totalWeight (weightedScores w votes)) * 100 < u64Bound := by
    unfold u32Bound at short
    unfold u64Bound
    omega
  have cut : weightedSum (weightedScores w votes) / totalWeight (weightedScores w votes) <
      u32Bound := Nat.lt_of_le_of_lt mean (by decide)
  have summed : weightedSums w votes = _ := foldl_weightedSums inRange (0, 0) fits (Nat.le_refl 0)
  unfold meanScore
  rw [if_neg (by simpa using nonempty), summed]
  dsimp only
  rw [Nat.zero_add, Nat.zero_add, if_neg (Nat.ne_of_gt positive), Nat.mod_eq_of_lt cut]

/-- The weighted scores never outgrow the weights, saturated or not. -/
theorem weightedSums_le (inRange : ∀ vote ∈ votes, vote.score ≤ 100) :
    (weightedSums w votes).2 ≤ 100 * (weightedSums w votes).1 := by
  have invariant (sums : Nat × Nat) (below : sums.2 ≤ 100 * sums.1) :
      (votes.foldl (addWeighted w) sums).2 ≤
      100 * (votes.foldl (addWeighted w) sums).1 := by
    induction votes generalizing sums with
    | nil => exact below
    | cons first rest ih =>
      refine ih (fun vote listed => inRange vote (List.mem_cons_of_mem _ listed)) _ ?_
      have le : voteWeight w first * first.score ≤ voteWeight w first * 100 :=
        Nat.mul_le_mul_left _ (inRange first List.mem_cons_self)
      unfold addWeighted satAdd64 satMul64
      dsimp only
      omega
  exact invariant (0, 0) (Nat.le_refl 0)

theorem meanScore_le {score : Nat} (inRange : ∀ vote ∈ votes, vote.score ≤ 100)
    (found : meanScore w votes = some score) : score ≤ 100 := by
  unfold meanScore at found
  split at found
  · cases found
  · split at found
    · exact medianScore_le inRange found
    · obtain rfl := Option.some.inj found
      refine (Nat.mod_le ..).trans (Nat.div_le_of_le_mul ?_)
      rw [Nat.mul_comm]
      exact weightedSums_le inRange

/-! ### Outliers -/

/-- How far from the lower median a vote may be, times 100. -/
def outlierFence (multiplier : Nat) (votes : List ModelSubmission) : Nat :=
  multiplier * ((kthScore votes (3 * (votes.length - 1) / 4)).getD 0 -
    (kthScore votes ((votes.length - 1) / 4)).getD 0)

/-- The votes that are no outliers; among few votes none is. -/
def survivors (multiplier : Nat) (votes : List ModelSubmission) : List ModelSubmission :=
  if votes.length < 4 then votes
  else votes.filter fun vote =>
    absDiff vote.score ((medianScore votes).getD 0) * 100 ≤ outlierFence multiplier votes

theorem rejectOutlier_spec (threshold median : Nat) (vote : ModelSubmission) :
    wlp (rejectOutlier threshold median vote)
      (fun passed _ => passed = decide (absDiff vote.score median * 100 ≤ threshold)) env w := by
  unfold rejectOutlier
  rw [wlp_ite]
  split
  · next near =>
    rw [wlp_pure]
    exact (decide_eq_true near).symm
  · next far =>
    refine fun passed w' ran => ?_
    obtain ⟨_, w₁, _, ran⟩ := bind_ok.mp ran
    obtain ⟨_, w₂, _, ⟨⟩⟩ := bind_ok.mp ran
    exact (decide_eq_false far).symm

theorem keepNear_spec (threshold median : Nat) :
    wlp (keepVotes (rejectOutlier threshold median) votes)
      (fun kept _ => kept = votes.filter fun vote => absDiff vote.score median * 100 ≤ threshold)
      env w := by
  have judged (vote : ModelSubmission) (w₁ : State) :
      wlp (rejectOutlier threshold median vote) (fun passed _ =>
        passed = decide (absDiff vote.score median * 100 ≤ threshold) ∧ True) env w₁ :=
    wlp_mono (rejectOutlier_spec threshold median vote) fun _ _ same => ⟨same, trivial⟩
  exact wlp_mono (wlp_keepVotes (I := fun _ _ => True) _ (fun _ vote w₁ _ =>
    judged vote w₁) trivial)
    fun _ _ kept => kept.1

/-- From four votes on there are quartiles, and the median is the score of a vote. -/
theorem exists_quartiles (four : 4 ≤ votes.length) :
    ∃ q1 q3, kthScore votes ((votes.length - 1) / 4) = some q1 ∧
      kthScore votes (3 * (votes.length - 1) / 4) = some q3 ∧
      ∃ middle ∈ votes, kthScore votes ((votes.length - 1) / 2) = some middle.score ∧
        medianScore votes = some middle.score := by
  have first : (votes.length - 1) / 4 < votes.length := by omega
  have third : 3 * (votes.length - 1) / 4 < votes.length := by omega
  have second : (votes.length - 1) / 2 < votes.length := by omega
  obtain ⟨low, _, isLow⟩ := exists_kthScore first
  obtain ⟨high, _, isHigh⟩ := exists_kthScore third
  obtain ⟨middle, listed, isMiddle⟩ := exists_kthScore second
  refine ⟨low.score, high.score, isLow, isHigh, middle, listed, isMiddle, ?_⟩
  rw [← isMiddle, medianScore, medianValue, if_neg]
  · rfl
  · simpa using List.ne_nil_of_mem listed

/-- The median itself is no outlier, so that not all votes are: what is near it is kept, never all
votes for want of any. -/
theorem rejectOutliers_eq (four : 4 ≤ votes.length) {q1 q3 : Nat} {middle : ModelSubmission}
    (isFirst : kthScore votes ((votes.length - 1) / 4) = some q1)
    (isThird : kthScore votes (3 * (votes.length - 1) / 4) = some q3) (listed : middle ∈ votes)
    (isMiddle : kthScore votes ((votes.length - 1) / 2) = some middle.score) :
    rejectOutliers votes env w =
      keepVotes (rejectOutlier ((w.ledger.entry .inst .iqrRejectionMultiplier).getD 150 * (q3 - q1))
        middle.score) votes env w := by
  have read : getIqrRejectionMultiplier env w =
      .ok ((w.ledger.entry .inst .iqrRejectionMultiplier).getD 150) w := rfl
  unfold rejectOutliers
  rw [if_neg (by omega), isFirst, isThird, isMiddle, Option.elim_some, Option.elim_some,
    run_bind_of_ok read,
    Option.elim_some, run_bind]
  cases outcome : keepVotes (rejectOutlier
    ((w.ledger.entry .inst .iqrRejectionMultiplier).getD 150 * (q3 - q1)) middle.score)
      votes env w with
  | err e w' => rfl
  | trap => rfl
  | ok kept w' =>
    have isKept := keepNear_spec _ _ kept w' outcome
    have some : kept ≠ [] := by
      rw [isKept]
      refine List.ne_nil_of_mem (List.mem_filter.mpr ⟨listed, ?_⟩)
      simp [absDiff]
    dsimp only
    rw [if_neg (by simpa using some)]
    rfl

theorem rejectOutliers_spec (votes : List ModelSubmission) :
    wlp (rejectOutliers votes)
      (fun kept _ =>
        kept = survivors ((w.ledger.entry .inst .iqrRejectionMultiplier).getD 150) votes)
      env w := by
  rcases Nat.lt_or_ge votes.length 4 with few | four
  · unfold rejectOutliers survivors
    rw [if_pos few, if_pos few]
    exact (wlp_pure _).mpr rfl
  · obtain ⟨q1, q3, isFirst, isThird, middle, listed, isMiddle, isMedian⟩ := exists_quartiles four
    intro kept w' ran
    rw [rejectOutliers_eq four isFirst isThird listed isMiddle] at ran
    rw [keepNear_spec _ _ kept w' ran]
    unfold survivors outlierFence
    rw [if_neg (Nat.not_lt.mpr four), isFirst, isThird, isMedian]
    rfl

end Agreement

end LedgerLens
