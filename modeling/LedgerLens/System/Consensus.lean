import LedgerLens.System.Journal

/-!
What a consensus round stores, and on whose votes it rests. A reveal stores the
weighted mean of the votes around the lower median; a direct round stores the
lower median of the votes that are no outliers. The main results are `stored_near_iff`,
`reveal_rests_on_commitments` and `based_on_quorum_iff`.
-/

namespace LedgerLens

open Host Host.Prog Storage

section Rounds

variable {env : ContractEnv} {w w₁ w' : State} {wallet : Address} {pair : Symbol}
  {timestamp : Nat} {subs : List ModelSubmission} {nonces : List Nat}

theorem Opened.of_same {votes : List (ModelSubmission × Nat)} (same : SameCommitments w w₁)
    (opened : Opened env wallet pair votes w₁ w') : Opened env wallet pair votes w w' where
  committed vote listed inRange :=
    (same wallet pair _).symm.trans (opened.committed vote listed inRange)
  distinct := opened.distinct
  consumed model := by rw [opened.consumed, same]

theorem Opened.kept {votes : List (ModelSubmission × Nat)} (same : SameCommitments w₁ w')
    (opened : Opened env wallet pair votes w w₁) : Opened env wallet pair votes w w' where
  committed := opened.committed
  distinct := opened.distinct
  consumed model := (same wallet pair model).trans (opened.consumed model)

section

variable (env : ContractEnv) (w : State) (wallet : Address) (pair : Symbol) (timestamp : Nat)
  (subs : List ModelSubmission)

/-- The score a reveal stores. -/
def revealScore (votes : List ModelSubmission) : Nat :=
  weightedSum (weightedScores w votes) / totalWeight (weightedScores w votes)

end

/-- What a successful reveal leaves. -/
structure Revealed (env : ContractEnv) (w w' : State) (wallet : Address) (pair : Symbol)
    (subs : List ModelSubmission) (timestamp : Nat) : Prop where
  nonempty : revealBasis env w wallet pair timestamp subs ≠ []
  quorum : thresholdOf w ≤ (revealBasis env w wallet pair timestamp subs).length
  stored : w'.ledger.entry .persistent (.score wallet pair) =
    some (consensusRiskScore (revealBasis env w wallet pair timestamp subs)
      (revealScore w (revealBasis env w wallet pair timestamp subs)) timestamp)

theorem length_basis_le :
    (revealBasis env w wallet pair timestamp subs).length ≤ subs.length := by
  unfold revealBasis agreeing
  cases medianScore (acceptedVotes env w wallet pair timestamp subs) with
  | none => exact Nat.zero_le _
  | some median => exact (List.length_filter_le ..).trans (List.length_filter_le ..)

set_option synthInstance.maxSize 100000000 in
/-- A reveal opens the votes in range and does not touch a commitment afterwards. -/
theorem revealConsensus_opens (signers : List Address) :
    wlp (revealConsensus signers wallet pair subs nonces timestamp)
      (fun _ w' => subs.length = nonces.length ∧
        Opened env wallet pair (subs.zip nonces) w w') env w := by
  unfold revealConsensus
  refine wlp_seq (wlp_of_keeps (R := SameCommitments)) fun _ w₁ same₁ => ?_
  refine wlp_seq (wlp_of_keeps (R := SameCommitments)) fun _ w₂ same₂ => ?_
  rw [wlp_bind, wlp_require]
  intro _
  rw [wlp_bind, wlp_require]
  intro paired
  rw [wlp_bind, wlp_require]
  intro _
  refine wlp_seq (keepRevealed_spec (subs.zip nonces) w₂) ?_
  rintro _ w₃ ⟨_, opened⟩
  refine wlp_mono (wlp_of_keeps (R := SameCommitments)) fun _ w' same' => ?_
  have same : SameCommitments w w₂ := IsTrans.trans _ _ _ same₁ same₂
  exact ⟨of_decide_eq_true paired, (opened.of_same same).kept same'⟩

theorem inRange_of_mem_basis :
    ∀ vote ∈ revealBasis env w wallet pair timestamp subs, vote.score ≤ 100 :=
  fun _ listed => score_le_of_inRange (mem_acceptedVotes (mem_agreeing listed).1).2

theorem revealConsensus_spec (signers : List Address) (short : subs.length < u32Bound) :
    wlp (revealConsensus signers wallet pair subs nonces timestamp)
      (fun _ w' => Revealed env w w' wallet pair subs timestamp) env w := by
  refine wlp_mono (wlp_and (wlp_revealConsensus signers (Q := fun _ _ =>
    thresholdOf w ≤ (revealBasis env w wallet pair timestamp subs).length ∧
      (meanScore w (revealBasis env w wallet pair timestamp subs)).isSome = true)
    fun score _ _ _ quorum isMean _ _ _ => ⟨quorum, by rw [isMean]; rfl⟩)
    revealConsensus_posted) ?_
  rintro _ w' ⟨⟨quorum, hasMean⟩, posted⟩
  have nonempty : revealBasis env w wallet pair timestamp subs ≠ [] := by
    intro empty
    rw [empty] at hasMean
    cases hasMean
  rw [revealedScore, meanScore_eq nonempty (Nat.lt_of_le_of_lt length_basis_le short)
    inRange_of_mem_basis] at posted
  exact ⟨nonempty, quorum, posted.live_of_direct⟩

theorem submitConsensusScore_spec (signers : List Address) :
    wlp (submitConsensusScore signers wallet pair subs timestamp)
      (fun _ w' => ∃ score,
        medianScore (directBasis env w wallet pair timestamp subs) = some score ∧
          w'.ledger.entry .persistent (.score wallet pair) =
            some (consensusRiskScore (directBasis env w wallet pair timestamp subs)
              score timestamp)) env w := by
  refine wlp_mono (wlp_and (wlp_submitConsensusScore signers (Q := fun _ _ => ∃ score,
    medianScore (directBasis env w wallet pair timestamp subs) = some score)
    fun score _ _ _ isMedian _ _ _ => ⟨score, isMedian⟩) submitConsensusScore_posted) ?_
  rintro _ w' ⟨⟨score, isMedian⟩, posted⟩
  rw [directScore, isMedian] at posted
  exact ⟨score, isMedian, posted.live_of_direct⟩

end Rounds

/-! ### The stored score and the revealed scores -/

section Near

variable (env : ContractEnv) (w w' : State) (wallet : Address) (pair : Symbol)
  (subs : List ModelSubmission) (nonces : List Nat)

/-- The votes in range that open what their models have committed to. -/
def revealedVotes : List (ModelSubmission × Nat) :=
  (subs.zip nonces).filter fun vote =>
    voteInRange vote.1 && commitmentOf w wallet pair vote.1.model = some (voteHash env vote)

/-- A quorum of the revealed scores is within the tolerance of the stored one. -/
def StoredNear : Prop :=
  ∃ stored, w'.ledger.entry .persistent (.score wallet pair) = some stored ∧
    thresholdOf w ≤ (revealedVotes env w wallet pair subs nonces).countP
      fun vote => absDiff vote.1.score stored.score ≤ epsilonOf w

/-- The weighted deviations from a score even out, up to the tolerance. -/
def EvensOut (epsilon : Nat) (weighted : List (Nat × Nat)) (score : Nat) : Prop :=
  -((epsilon * totalWeight weighted : Nat) : Int) ≤ weightedDeviation weighted score ∧
    weightedDeviation weighted score < ((epsilon + 1) * totalWeight weighted : Nat)

instance (epsilon : Nat) (weighted : List (Nat × Nat)) (score : Nat) :
    Decidable (EvensOut epsilon weighted score) :=
  inferInstanceAs (Decidable (_ ∧ _))

instance : Decidable (StoredNear env w w' wallet pair subs nonces) :=
  inferInstanceAs (Decidable (∃ stored ∈ w'.ledger.entry .persistent (.score wallet pair),
    thresholdOf w ≤ (revealedVotes env w wallet pair subs nonces).countP
      fun vote => absDiff vote.1.score stored.score ≤ epsilonOf w))

variable {env w w' wallet pair subs nonces}

/-- The score stored is a mean around the median, not the median: it may be far from some of
the scores that are near the median. -/
theorem stored_near_iff {signers : List Address} {timestamp : Nat}
    (short : subs.length < u32Bound)
    (ran : revealConsensus signers wallet pair subs nonces timestamp env w =
      .ok () w') :
    StoredNear env w w' wallet pair subs nonces ↔
      thresholdOf w ≤ (revealedVotes env w wallet pair subs nonces).countP fun vote =>
        EvensOut (epsilonOf w)
          (weightedScores w (revealBasis env w wallet pair timestamp subs))
          vote.1.score := by
  have revealed := revealConsensus_spec signers short () w' ran
  have positive := totalWeight_pos w revealed.nonempty
  have near (score : Nat) : absDiff score
      (revealScore w (revealBasis env w wallet pair timestamp subs)) ≤ epsilonOf w ↔
      EvensOut (epsilonOf w)
        (weightedScores w (revealBasis env w wallet pair timestamp subs)) score := by
    refine Iff.trans ?_ (weightedMean_near_iff positive score (epsilonOf w))
    unfold absDiff revealScore
    omega
  unfold StoredNear
  rw [revealed.stored]
  simp only [Option.some.injEq, exists_eq_left', consensusRiskScore, near]

/-- A vote, and the commitment its model makes to it. -/
def sampleVote (model : Address) (score : Nat) : ModelSubmission where
  modelVersion := 1
  model := model
  score := score
  confidence := 80
  benfordFlag := false
  mlFlag := false
  attestation := {
    commitment := ⟨List.replicate 32 0, length_zeros⟩
    signature := ⟨List.replicate 65 0, List.length_replicate⟩
    contractId := ⟨List.replicate 32 0, length_zeros⟩
    contractVersion := 1
    nonce := 0 }

def commitSample (vote : ModelSubmission) : Transaction :=
  ⟨hashedEnv [vote.model], .user (.commitConsensus vote.model (account 3) samplePair
    (Sha256.digest (toBeBytes 4 vote.score ++ toBeBytes 8 7)))⟩

/-- The contract once the models have committed to their votes, for a quorum of all of them. -/
def committed (votes : List ModelSubmission) : State :=
  run exec deployed (⟨hashedEnv [account 1], .soleAdmin (.setConsensusConfig votes.length 5)⟩ ::
    votes.map commitSample)

def revealSample (votes : List ModelSubmission) : Transaction :=
  ⟨hashedEnv [account 2], .user (.revealConsensus [] (account 3) samplePair votes
    (votes.map fun _ => 7) 1000000)⟩

/-- The state that the reveal starts from, and the one it leaves. -/
def beforeReveal (votes : List ModelSubmission) : State := { committed votes with authorized := [] }

def afterReveal (votes : List ModelSubmission) : State :=
  step exec (committed votes) (revealSample votes)

/-- Two models that agree. -/
def closeVotes : List ModelSubmission := [sampleVote (account 4) 50, sampleVote (account 5) 54]

/-- Five models whose scores are within 5 of the median, but not of the mean. -/
def wideVotes : List ModelSubmission :=
  [sampleVote (account 4) 45, sampleVote (account 5) 50, sampleVote (account 6) 50,
    sampleVote (account 7) 55, sampleVote (account 8) 55]

theorem stored_near_close :
    Returns exec (committed closeVotes) (revealSample closeVotes) ∧
      (StoredNear (hashedEnv [account 2]) (beforeReveal closeVotes) (afterReveal closeVotes)
          (account 3) samplePair closeVotes (closeVotes.map fun _ => 7) ↔
        thresholdOf (beforeReveal closeVotes) ≤
          (revealedVotes (hashedEnv [account 2]) (beforeReveal closeVotes) (account 3) samplePair
            closeVotes (closeVotes.map fun _ => 7)).countP fun vote =>
              EvensOut (epsilonOf (beforeReveal closeVotes))
                (weightedScores (beforeReveal closeVotes)
                  (revealBasis (hashedEnv [account 2]) (beforeReveal closeVotes) (account 3)
                    samplePair 1000000 closeVotes)) vote.1.score) := by
  have returns : Returns exec (committed closeVotes) (revealSample closeVotes) :=
    returns_of_isOk (by decide +kernel)
  have ran : revealConsensus [] (account 3) samplePair closeVotes (closeVotes.map fun _ => 7)
      1000000 (hashedEnv [account 2]) (beforeReveal closeVotes) =
        .ok () (afterReveal closeVotes) := returns.ok
  exact ⟨returns, stored_near_iff (by decide) ran⟩

/-- The mean of 45, 50, 50, 55 and 55 is 51, and 45 is not within 5 of it. -/
theorem stored_not_near :
    Returns exec (committed wideVotes) (revealSample wideVotes) ∧
      ¬ StoredNear (hashedEnv [account 2]) (beforeReveal wideVotes) (afterReveal wideVotes)
        (account 3) samplePair wideVotes (wideVotes.map fun _ => 7) := by
  decide +kernel

end Near

/-! ### Commitments along a run -/

/-- No commitment is made anew. -/
def CommitsNone (w w' : State) : Prop :=
  ∀ wallet pair model commitment,
    commitmentOf w' wallet pair model = some commitment →
      commitmentOf w wallet pair model = some commitment

instance : About CommitsNone Tag.isCommitment where
  of_only ts _ _ free only wallet pair model _ found := by
    rwa [About.of_only (R := SameCommitments) ts free only wallet pair model] at found

instance : IsTrans State CommitsNone where
  trans _ _ _ first second wallet pair model commitment found :=
    first wallet pair model commitment (second wallet pair model commitment found)

instance (model wallet : Address) (pair : Symbol) :
    Keeps CommitsNone (remove .temporary (.consensusCommitment model wallet pair)) :=
  Keeps.of_update fun w wallet' assetPair' model' commitment found => by
    by_cases sameKey : DataKey.consensusCommitment model' wallet' assetPair' =
        .consensusCommitment model wallet pair
    · cases sameKey
      rw [commitmentOf, Ledger.entry_put_self] at found
      cases found
    · rwa [commitmentOf, Ledger.entry_put_of_ne _ _ sameKey] at found

set_option synthInstance.maxSize 100000000 in
instance (wallet : Address) (pair : Symbol) (timestamp : Nat)
    (vote : ModelSubmission × Nat) : Keeps CommitsNone (revealVote wallet pair timestamp vote) := by
  unfold revealVote
  infer_instance

set_option synthInstance.maxSize 100000000 in
instance (signers : List Address) (wallet : Address) (pair : Symbol)
    (subs : List ModelSubmission) (nonces : List Nat) (timestamp : Nat) :
    Keeps CommitsNone (revealConsensus signers wallet pair subs nonces timestamp) := by
  unfold revealConsensus
  infer_instance

section Runs

variable {w : State} {tx : Transaction} {txs : List Transaction} {model wallet : Address}
  {pair : Symbol} {commitment : BytesN 32}

/-- The transaction makes the commitment, with the authorisation of the model. -/
structure Commits (w : State) (tx : Transaction) (model wallet : Address) (pair : Symbol)
    (commitment : BytesN 32) : Prop where
  isCommit : tx.call = .user (.commitConsensus model wallet pair commitment)
  returns : Returns exec w tx
  signed : tx.env.signed model = true

theorem commitConsensus_spec {env : ContractEnv} :
    wlp (commitConsensus model wallet pair commitment)
      (fun _ w' => env.signed model = true ∧ ∀ wallet' assetPair' model',
        commitmentOf w' wallet' assetPair' model' =
          if (model', wallet', assetPair') = (model, wallet, pair) then some commitment
          else commitmentOf w wallet' assetPair' model') env w := by
  unfold commitConsensus
  refine wlp_seq (wlp_of_keeps (R := SameCommitments)) fun _ w₁ same₁ => ?_
  rw [wlp_bind]
  intro _ w₂ authorized
  obtain ⟨⟨signed, _⟩, rfl⟩ := requireAuth_ok.mp authorized
  rw [wlp_save]
  refine ⟨signed, fun wallet' assetPair' model' => ?_⟩
  split
  · next isKey =>
    cases isKey
    exact Ledger.entry_put_self ..
  · next other =>
    refine (Ledger.entry_put_of_ne _ _ fun sameKey => other ?_).trans (same₁ ..)
    cases sameKey
    rfl

/-- A commitment that was not there before has been made. -/
theorem step_commits (found : commitmentOf (step exec w tx) wallet pair model =
    some commitment)
    (isNew : commitmentOf w wallet pair model ≠ some commitment) :
    Commits w tx model wallet pair commitment := by
  have returns : Returns exec w tx := by
    by_contra failed
    rw [step_of_not_returns failed] at found
    exact isNew found
  rcases tx with ⟨env, call⟩
  have silent (free : (footprint call).all (fun t => !t.isCommitment) = true) :
      Commits w ⟨env, call⟩ model wallet pair commitment := by
    have same : SameCommitments _ _ := About.of_all free ((exec_keeps call).ok returns.ok)
    exact absurd ((same wallet pair model).symm.trans found) isNew
  rcases call with call | ⟨signers, call⟩ | call
  · cases call
    case commitConsensus model' wallet' assetPair' commitment' =>
      obtain ⟨signed, made⟩ := commitConsensus_spec () _ returns.ok
      rw [made] at found
      split at found
      · next isKey =>
        cases isKey
        cases found
        exact ⟨rfl, returns, signed⟩
      · exact absurd found isNew
    case revealConsensus signers wallet' assetPair' subs nonces timestamp =>
      have none : CommitsNone _ _ := Keeps.ok
        (m := revealConsensus signers wallet' assetPair' subs nonces timestamp) returns.ok
      exact absurd (none wallet pair model commitment found) isNew
    all_goals exact silent rfl
  · exact silent (by cases call <;> rfl)
  · exact silent (by cases call <;> rfl)

/-- Some transaction of the run makes the commitment. -/
def CommittedIn (w : State) (txs : List Transaction) (model wallet : Address) (pair : Symbol)
    (commitment : BytesN 32) : Prop :=
  ∃ before tx after, txs = before ++ tx :: after ∧
    Commits (run exec w before) tx model wallet pair commitment

theorem committedIn_of_found (unset : commitmentOf w wallet pair model = none)
    (found : commitmentOf (run exec w txs) wallet pair model = some commitment) :
    CommittedIn w txs model wallet pair commitment := by
  induction txs using List.reverseRecOn with
  | nil => exact absurd (found.symm.trans unset) nofun
  | append_singleton txs tx ih =>
    rw [run_append] at found
    by_cases already : commitmentOf (run exec w txs) wallet pair model = some commitment
    · obtain ⟨before, tx', after, rfl, commits⟩ := ih already
      exact ⟨before, tx', after ++ [tx], by simp, commits⟩
    · exact ⟨txs, tx, [], rfl, step_commits found already⟩

/-- The model makes no commitment in this transaction. -/
def CommitsNothing (model wallet : Address) (pair : Symbol) (w : State) (tx : Transaction) : Prop :=
  ∀ commitment, ¬ Commits w tx model wallet pair commitment

theorem commitment_spent (unset : commitmentOf w wallet pair model = none)
    (along : Along exec (CommitsNothing model wallet pair) w txs) :
    commitmentOf (run exec w txs) wallet pair model = none := by
  refine run_invariant (I := fun w => commitmentOf w wallet pair model = none) ?_ unset along
  intro w tx unset commitsNothing
  by_contra found
  obtain ⟨commitment, found⟩ := Option.ne_none_iff_exists'.mp found
  refine commitsNothing commitment (step_commits found ?_)
  rw [unset]
  exact nofun

end Runs

/-- The votes that a reveal rests on are a selection of the submissions. -/
theorem exists_filter_basis (env : ContractEnv) (w : State) (wallet : Address) (pair : Symbol)
    (timestamp : Nat) (subs : List ModelSubmission) :
    ∃ keep, revealBasis env w wallet pair timestamp subs = subs.filter keep := by
  unfold revealBasis agreeing
  cases medianScore (acceptedVotes env w wallet pair timestamp subs) with
  | none => exact ⟨fun _ => false, by simp⟩
  | some median => exact ⟨_, List.filter_filter⟩

/-- What a reveal rests on: votes of a quorum of different models, each of which opens the
commitment of its model and uses it up, around the lower median of the accepted votes. -/
structure RestsOn (env : ContractEnv) (w w' : State) (wallet : Address) (pair : Symbol)
    (timestamp : Nat) (subs : List ModelSubmission) (nonces : List Nat)
    (votes : List (ModelSubmission × Nat)) : Prop where
  listed : votes.Sublist (subs.zip nonces)
  accepted : ∀ vote ∈ votes, vote.1 ∈ acceptedVotes env w wallet pair timestamp subs
  quorum : thresholdOf w ≤ votes.length
  distinct : (votes.map fun vote => vote.1.model).Nodup
  committed : ∀ vote ∈ votes, commitmentOf w wallet pair vote.1.model =
    some (voteHash env vote)
  consumed : ∀ vote ∈ votes, commitmentOf w' wallet pair vote.1.model = none
  near : ∃ median,
    orderStat ((acceptedVotes env w wallet pair timestamp subs).map
        ModelSubmission.score)
      (((acceptedVotes env w wallet pair timestamp subs).length - 1) / 2) =
        some median ∧
      ∀ vote ∈ votes, absDiff vote.1.score median ≤ epsilonOf w
  stored : ∃ stored, w'.ledger.entry .persistent (.score wallet pair) = some stored ∧
    (∃ low ∈ votes, low.1.score ≤ stored.score) ∧ (∃ high ∈ votes, stored.score ≤ high.1.score) ∧
      orderStat (votes.map fun vote => vote.1.confidence) ((votes.length - 1) / 2) =
        some stored.confidence

section Rests

variable {env : ContractEnv} {w w' : State} {wallet : Address} {pair : Symbol}
  {timestamp : Nat} {subs votes : List ModelSubmission} {nonces : List Nat}

/-- The weighted mean is between the scores it is taken of. -/
theorem revealScore_between (nonempty : votes ≠ []) :
    (∃ low ∈ votes, low.score ≤ revealScore w votes) ∧
      ∃ high ∈ votes, revealScore w votes ≤ high.score := by
  have positive := totalWeight_pos w nonempty
  have bounded (test : Nat → Prop) (holds : ∀ vote ∈ votes, test vote.score) :
      ∀ entry ∈ weightedScores w votes, test entry.2 := by
    intro entry listed
    obtain ⟨vote, member, rfl⟩ := List.mem_map.mp listed
    exact holds vote member
  constructor
  · by_contra! above
    exact Nat.lt_irrefl _ (le_weightedMean positive (bounded _ above))
  · by_contra! below
    obtain ⟨vote, rest, rfl⟩ := List.exists_cons_of_ne_nil nonempty
    have first := below vote List.mem_cons_self
    have mean : revealScore w (vote :: rest) ≤ revealScore w (vote :: rest) - 1 :=
      weightedMean_le (bounded (· ≤ _) fun vote member =>
        Nat.le_sub_one_of_lt (below vote member))
    omega

theorem stored_confidence (score timestamp : Nat) (nonempty : votes ≠ []) :
    orderStat (votes.map ModelSubmission.confidence) ((votes.length - 1) / 2) =
      some (consensusRiskScore votes score timestamp).confidence := by
  have positive := List.length_pos_iff.mpr nonempty
  have inside : (votes.length - 1) / 2 < (votes.map ModelSubmission.confidence).length := by
    rw [List.length_map]
    omega
  obtain ⟨confidence, found⟩ := orderStat_isSome inside
  have isMedian : medianConfidence votes = some confidence :=
    (medianValue_eq_orderStat ..).trans found
  rw [found, consensusRiskScore, isMedian]
  rfl

theorem exists_restsOn (paired : subs.length = nonces.length)
    (opened : Opened env wallet pair (subs.zip nonces) w w')
    (revealed : Revealed env w w' wallet pair subs timestamp) :
    ∃ votes, votes.map Prod.fst = revealBasis env w wallet pair timestamp subs ∧
      RestsOn env w w' wallet pair timestamp subs nonces votes := by
  obtain ⟨keep, isBasis⟩ := exists_filter_basis env w wallet pair timestamp subs
  obtain ⟨nonempty, quorum, stored⟩ := revealed
  refine ⟨(subs.zip nonces).filter fun vote => keep vote.1, ?_⟩
  have isMap := map_fst_filter_zip keep paired
  rw [← isBasis] at isMap
  generalize kept : (subs.zip nonces).filter (fun vote => keep vote.1) = votes at isMap
  have sub : votes.Sublist (subs.zip nonces) := kept ▸ List.filter_sublist
  have inBasis (vote : ModelSubmission × Nat) (listed : vote ∈ votes) :
      vote.1 ∈ revealBasis env w wallet pair timestamp subs :=
    isMap ▸ List.mem_map_of_mem listed
  have inRange (vote : ModelSubmission × Nat) (listed : vote ∈ votes) :
      voteInRange vote.1 = true :=
    (mem_acceptedVotes (mem_agreeing (inBasis vote listed)).1).2
  have isVoter (vote : ModelSubmission × Nat) (listed : vote ∈ votes) :
      vote.1.model ∈ voters (subs.zip nonces) :=
    List.mem_map.mpr ⟨vote, List.mem_filter.mpr ⟨sub.mem listed, inRange vote listed⟩, rfl⟩
  have sameLength : votes.length =
      (revealBasis env w wallet pair timestamp subs).length := by
    rw [← isMap, List.length_map]
  refine ⟨isMap, sub, fun vote listed => (mem_agreeing (inBasis vote listed)).1,
    sameLength ▸ quorum, ?_, ?_, ?_, ?_, ?_⟩
  · -- a selection of the votes in range
    have selected := (sub.filter fun vote => voteInRange vote.1).map fun vote => vote.1.model
    rw [List.filter_eq_self.mpr inRange] at selected
    exact opened.distinct.sublist selected
  · exact fun vote listed => opened.committed vote (sub.mem listed) (inRange vote listed)
  · intro vote listed
    rw [opened.consumed, if_pos (isVoter vote listed)]
  · obtain ⟨first, rest, isCons⟩ := List.exists_cons_of_ne_nil nonempty
    obtain ⟨_, median, isMedian, _⟩ := mem_agreeing (isCons ▸ List.mem_cons_self : first ∈ _)
    refine ⟨median, (medianValue_eq_orderStat ..).symm.trans isMedian, fun vote listed => ?_⟩
    obtain ⟨_, median', isMedian', near⟩ := mem_agreeing (inBasis vote listed)
    obtain rfl : median' = median := Option.some.inj (isMedian'.symm.trans isMedian)
    exact near
  · have back (test : ModelSubmission → Prop) :
        (∃ vote ∈ revealBasis env w wallet pair timestamp subs, test vote) →
          ∃ vote ∈ votes, test vote.1 := by
      rw [← isMap]
      simp only [List.mem_map]
      rintro ⟨_, ⟨vote, listed, rfl⟩, holds⟩
      exact ⟨vote, listed, holds⟩
    obtain ⟨low, high⟩ := revealScore_between (w := w) nonempty
    refine ⟨_, stored, back _ low, back _ high, ?_⟩
    rw [← stored_confidence _ timestamp nonempty, sameLength, ← isMap, List.map_map]
    rfl

end Rests

/-! ### A reveal and the commitments before it -/

/-- What a round rests on does not depend on who has authorised something before it. -/
theorem RestsOn.of_frame {env : ContractEnv} {w w' : State} {wallet : Address} {pair : Symbol}
    {timestamp : Nat} {subs : List ModelSubmission} {nonces : List Nat}
    {votes : List (ModelSubmission × Nat)}
    (rests : RestsOn env { w with authorized := [] } w' wallet pair timestamp subs
      nonces votes) : RestsOn env w w' wallet pair timestamp subs nonces votes := by
  have sameVotes : acceptedVotes env { w with authorized := [] } wallet pair timestamp
      subs = acceptedVotes env w wallet pair timestamp subs :=
    acceptedVotes_congr (.of_same ⟨fun _ _ _ => rfl, nofun, fun _ => rfl⟩)
  obtain ⟨listed, accepted, quorum, distinct, committed, consumed, near, stored⟩ := rests
  rw [sameVotes] at accepted near
  exact ⟨listed, accepted, quorum, distinct, committed, consumed, near, stored⟩

/-- No two votes have the same hash. -/
def SeparatesVotes (env : ContractEnv) : Prop :=
  ∀ a b : Bytes, a.length = 12 → b.length = 12 → env.crypto.sha256 a = env.crypto.sha256 b → a = b

/-- The commitment is one to this score and nonce, and to no other. -/
def CommitmentTo (env : ContractEnv) (vote : ModelSubmission × Nat) (commitment : BytesN 32) :
    Prop :=
  ∀ score < u32Bound, ∀ nonce < u64Bound,
    env.crypto.sha256 (toBeBytes 4 score ++ toBeBytes 8 nonce) = commitment ↔
      score = vote.1.score ∧ nonce = vote.2

theorem commitmentTo_voteHash {env : ContractEnv} (separates : SeparatesVotes env)
    {vote : ModelSubmission × Nat} (scoreFits : vote.1.score < u32Bound)
    (nonceFits : vote.2 < u64Bound) : CommitmentTo env vote (voteHash env vote) := by
  intro score scoreFits' nonce nonceFits'
  constructor
  · intro sameHash
    have same := separates _ _ (by simp) (by simp) sameHash
    obtain ⟨sameScore, sameNonce⟩ := List.append_inj same (by simp)
    exact ⟨toBeBytes_inj scoreFits' scoreFits sameScore, toBeBytes_inj nonceFits'
      nonceFits sameNonce⟩
  · rintro ⟨rfl, rfl⟩
    rfl

/-- As long as the model does not commit again, no vote of it can be revealed. -/
def Spent (w : State) (wallet : Address) (pair : Symbol) (model : Address) : Prop :=
  ∀ txs, Along exec (CommitsNothing model wallet pair) w txs →
    commitmentOf (run exec w txs) wallet pair model = none ∧
      ∀ env signers subs nonces timestamp,
        (∃ vote ∈ subs, voteInRange vote = true ∧ vote.model = model) →
          ¬ Returns exec (run exec w txs)
            ⟨env, .user (.revealConsensus signers wallet pair subs nonces timestamp)⟩

theorem spent_of_unset {w : State} {wallet : Address} {pair : Symbol} {model : Address}
    (unset : commitmentOf w wallet pair model = none) : Spent w wallet pair model := by
  intro txs along
  have spent := commitment_spent unset along
  refine ⟨spent, ?_⟩
  rintro env signers subs nonces timestamp ⟨vote, listed, inRange, rfl⟩ returns
  obtain ⟨paired, opened⟩ := revealConsensus_opens signers () _ returns.ok
  rw [← List.map_fst_zip paired.le] at listed
  obtain ⟨revealed, member, rfl⟩ := List.mem_map.mp listed
  exact absurd ((opened.committed revealed member inRange).symm.trans spent) nofun

/-- A round after the transactions `txs` rests on commitments that were made before it, to
exactly the votes it reveals, and that cannot be revealed again after it. -/
def RestsOnCommitments (w : State) (txs : List Transaction) (w' : State) (env : ContractEnv)
    (wallet : Address) (pair : Symbol) (timestamp : Nat) (subs : List ModelSubmission)
    (nonces : List Nat) : Prop :=
  ∃ votes,
    RestsOn env (run exec w txs) w' wallet pair timestamp subs nonces votes ∧
    ∀ vote ∈ votes,
      (∃ commitment, CommitmentTo env vote commitment ∧
        CommittedIn w txs vote.1.model wallet pair commitment) ∧
      Spent w' wallet pair vote.1.model

/-- Where the hash keeps votes apart, every vote of a reveal was committed to before, by its model,
and the commitment is spent. -/
theorem reveal_rests_on_commitments {balances : Balances}
    {txs : List Transaction} {env : ContractEnv} {signers : List Address} {wallet : Address}
    {pair : Symbol} {subs : List ModelSubmission} {nonces : List Nat} {timestamp : Nat}
    (short : subs.length < u32Bound) (fit : ∀ nonce ∈ nonces, nonce < u64Bound)
    (separates : SeparatesVotes env)
    (returns : Returns exec (run exec (genesis balances) txs)
      ⟨env, .user (.revealConsensus signers wallet pair subs nonces timestamp)⟩) :
    RestsOnCommitments (genesis balances) txs
      (step exec (run exec (genesis balances) txs)
        ⟨env, .user (.revealConsensus signers wallet pair subs nonces timestamp)⟩)
      env wallet pair timestamp subs nonces := by
  obtain ⟨paired, opened⟩ := revealConsensus_opens signers () _ returns.ok
  have revealed := revealConsensus_spec signers short () _ returns.ok
  obtain ⟨votes, _, rests⟩ := exists_restsOn paired opened revealed
  refine ⟨votes, rests.of_frame, fun vote listed => ⟨⟨voteHash env vote, ?_, ?_⟩, ?_⟩⟩
  · have inRange := (mem_acceptedVotes (rests.accepted vote listed)).2
    have small : vote.1.score < u32Bound :=
      Nat.lt_of_le_of_lt (score_le_of_inRange inRange) (by decide)
    exact commitmentTo_voteHash separates small
      (fit _ (List.of_mem_zip (rests.listed.mem listed)).2)
  · exact committedIn_of_found rfl (rests.committed vote listed)
  · exact spent_of_unset (rests.consumed vote listed)

/-- The votes of the sample as they are hashed. -/
def hashedVotes : List Bytes := closeVotes.map fun vote => toBeBytes 4 vote.score ++ toBeBytes 8 7

/-- The hash of the host on these votes; other strings of their length are kept apart. -/
def separatingHash (bytes : Bytes) : BytesN 32 :=
  if bytes ∈ hashedVotes then Sha256.digest bytes
  else ⟨(bytes ++ List.replicate 32 0).take 32, by simp⟩

def separatingEnv (signers : List Address) : ContractEnv :=
  { sampleEnv signers with crypto := { sha256 := separatingHash, recover := fun _ _ _ => none } }

theorem separatesVotes_sample (signers : List Address) :
    SeparatesVotes (separatingEnv signers) := by
  have onVotes : ∀ a ∈ hashedVotes, ∀ b ∈ hashedVotes, Sha256.digest a = Sha256.digest
    b → a = b := by
    decide +kernel
  have apart : ∀ a ∈ hashedVotes, (Sha256.digest a).val.drop 12 ≠ List.replicate 20 0 := by
    decide +kernel
  have padded (b : Bytes) (length : b.length = 12) :
      (b ++ List.replicate 32 0).take 32 = b ++ List.replicate 20 0 := by
    rw [List.take_append, List.take_of_length_le (by omega), length, List.take_replicate]
    rfl
  have split (a b : Bytes) (listed : a ∈ hashedVotes) (length : b.length = 12) :
      (Sha256.digest a).val ≠ (b ++ List.replicate 32 0).take 32 := by
    intro same
    refine apart a listed ?_
    rw [same, padded b length, List.drop_append, List.drop_of_length_le (by omega), length]
    rfl
  intro a b aLength bLength same
  change separatingHash a = separatingHash b at same
  unfold separatingHash at same
  split_ifs at same with aListed bListed bListed
  · exact onVotes a aListed b bListed same
  · exact absurd (congrArg Subtype.val same) (split a b aListed bLength)
  · exact absurd (congrArg Subtype.val same).symm (split b a bListed aLength)
  · have same : (a ++ List.replicate 32 0).take 32 = (b ++ List.replicate 32 0).take 32 :=
      congrArg Subtype.val same
    rw [padded a aLength, padded b bLength] at same
    exact List.append_cancel_right same

def commitRound : List Transaction :=
  ⟨hashedEnv [account 1], .user (.initializeContract (account 1) (account 2))⟩ ::
    closeVotes.map commitSample

theorem reveal_rests_on_commitments_sample : RestsOnCommitments blank commitRound
      (step exec (run exec blank commitRound)
        ⟨separatingEnv [account 2], .user (.revealConsensus [] (account 3) samplePair closeVotes
          [7, 7] 1000000)⟩)
      (separatingEnv [account 2]) (account 3) samplePair 1000000 closeVotes [7, 7] :=
  reveal_rests_on_commitments (by decide) (by decide) (separatesVotes_sample _)
    (returns_of_isOk (by decide +kernel))

/-! ### The quorum of a round -/

/-- How a round is held: by a reveal with these nonces, or directly. -/
inductive Round
  | reveal (nonces : List Nat)
  | direct

namespace Round

def call (signers : List Address) (wallet : Address) (pair : Symbol)
    (subs : List ModelSubmission) (timestamp : Nat) : Round → UserCall
  | reveal nonces => .revealConsensus signers wallet pair subs nonces timestamp
  | direct => .submitConsensusScore signers wallet pair subs timestamp

/-- The valid votes that the filter of the round leaves. -/
def basis (env : ContractEnv) (w : State) (wallet : Address) (pair : Symbol)
    (timestamp : Nat) (subs : List ModelSubmission) : Round → List ModelSubmission
  | reveal _ => revealBasis env w wallet pair timestamp subs
  | direct => directBasis env w wallet pair timestamp subs

end Round

/-- How many models the votes are of. -/
def modelCount (votes : List ModelSubmission) : Nat :=
  (votes.map ModelSubmission.model).dedup.length

/-- The score stored is one of a quorum of models. -/
def BasedOnQuorum (env : ContractEnv) (w w' : State) (wallet : Address) (pair : Symbol)
    (timestamp : Nat) (subs : List ModelSubmission) (round : Round) : Prop :=
  (∃ score, w'.ledger.entry .persistent (.score wallet pair) =
      some (consensusRiskScore (round.basis env w wallet pair timestamp subs)
        score timestamp)) ∧
    thresholdOf w ≤ modelCount (round.basis env w wallet pair timestamp subs)

/-- The vote is accepted, and few votes are or it is near their lower median. -/
def Unexceptional (env : ContractEnv) (w : State) (wallet : Address) (pair : Symbol)
    (timestamp : Nat) (subs : List ModelSubmission) (vote : ModelSubmission) : Prop :=
  voteAccepted env w wallet pair timestamp vote = true ∧
    ((acceptedVotes env w wallet pair timestamp subs).length < 4 ∨
      absDiff vote.score
          ((medianScore (acceptedVotes env w wallet pair timestamp
            subs)).getD 0) * 100 ≤
        outlierFence (multiplierOf w) (acceptedVotes env w wallet pair timestamp subs))

instance (env : ContractEnv) (w : State) (wallet : Address) (pair : Symbol) (timestamp : Nat)
    (subs : List ModelSubmission) (vote : ModelSubmission) :
    Decidable (Unexceptional env w wallet pair timestamp subs vote) :=
  inferInstanceAs (Decidable (_ ∧ _))

section Quorum

variable {env : ContractEnv} {w w' : State} {wallet : Address} {pair : Symbol}
  {timestamp : Nat} {subs : List ModelSubmission} {signers : List Address}

theorem directBasis_eq :
    directBasis env w wallet pair timestamp subs =
      subs.filter (Unexceptional env w wallet pair timestamp subs) := by
  unfold directBasis survivors
  split
  · next few => exact List.filter_congr fun vote _ => by simp [Unexceptional, few]
  · next many =>
    unfold acceptedVotes at many ⊢
    rw [List.filter_filter]
    refine List.filter_congr fun vote _ => ?_
    simp [Unexceptional, acceptedVotes, many, Bool.and_comm]

/-- The votes of a reveal are of different models. -/
theorem modelCount_reveal {nonces : List Nat} (short : subs.length < u32Bound)
    (ran : revealConsensus signers wallet pair subs nonces timestamp env w =
      .ok () w') :
    thresholdOf w ≤ modelCount (revealBasis env w wallet pair timestamp subs) := by
  obtain ⟨paired, opened⟩ := revealConsensus_opens signers () w' ran
  have revealed := revealConsensus_spec signers short () w' ran
  obtain ⟨votes, isBasis, rests⟩ := exists_restsOn paired opened revealed
  have distinct := rests.distinct
  rw [← Function.comp_def ModelSubmission.model Prod.fst, ← List.map_map, isBasis] at distinct
  rw [modelCount, distinct.dedup, List.length_map]
  exact revealed.quorum

/-- A direct round does not look at the threshold: it takes a quorum exactly if it is given one. -/
theorem based_on_quorum_iff (round : Round) (short : subs.length < u32Bound)
    (ran : execUser (round.call signers wallet pair subs timestamp) env w =
      .ok () w') :
    BasedOnQuorum env w w' wallet pair timestamp subs round ↔
      (∃ nonces, round = .reveal nonces) ∨
        thresholdOf w ≤ modelCount (subs.filter
          (Unexceptional env w wallet pair timestamp subs)) := by
  cases round with
  | reveal nonces =>
    have revealed := revealConsensus_spec signers short () w' ran
    exact iff_of_true ⟨⟨_, revealed.stored⟩, modelCount_reveal short ran⟩
      (.inl ⟨nonces, rfl⟩)
  | direct =>
    obtain ⟨score, _, stored⟩ := submitConsensusScore_spec signers () w' ran
    rw [← directBasis_eq]
    constructor
    · exact fun based => .inr based.2
    · rintro (⟨_, ⟨⟩⟩ | enough)
      exact ⟨⟨score, stored⟩, enough⟩

/-- A direct round on these votes, for the default quorum of two. -/
def directSample (votes : List ModelSubmission) : Transaction :=
  ⟨sampleEnv [account 2],
    .user (Round.direct.call [] (account 3) samplePair votes 1000000)⟩

def beforeDirect : State := { deployed with authorized := [] }

def DirectQuorum (votes : List ModelSubmission) : Prop :=
  BasedOnQuorum (sampleEnv [account 2]) beforeDirect (step exec deployed (directSample votes))
    (account 3) samplePair 1000000 votes .direct

theorem based_on_quorum_close :
    Returns exec deployed (directSample closeVotes) ∧
      (DirectQuorum closeVotes ↔
        (∃ nonces, Round.direct = .reveal nonces) ∨
          thresholdOf beforeDirect ≤ modelCount (closeVotes.filter
            (Unexceptional (sampleEnv [account 2]) beforeDirect (account 3) samplePair 1000000
              closeVotes))) := by
  have returns : Returns exec deployed (directSample closeVotes) :=
    returns_of_isOk (by decide +kernel)
  have ran : execUser (Round.direct.call [] (account 3) samplePair closeVotes 1000000)
      (sampleEnv [account 2]) beforeDirect =
        .ok () (step exec deployed (directSample closeVotes)) := returns.ok
  exact ⟨returns, based_on_quorum_iff .direct (by decide) ran⟩

/-- One model is enough for a direct round, under a quorum of two. -/
theorem not_based_on_quorum :
    Returns exec deployed (directSample [sampleVote (account 4) 50]) ∧
      ¬ DirectQuorum [sampleVote (account 4) 50] := by
  have few : ¬ thresholdOf beforeDirect ≤
      modelCount (Round.direct.basis (sampleEnv [account 2]) beforeDirect (account 3) samplePair
        1000000 [sampleVote (account 4) 50]) := by
    decide +kernel
  exact ⟨returns_of_isOk (by decide +kernel), fun based => few based.2⟩

end Quorum

end LedgerLens
