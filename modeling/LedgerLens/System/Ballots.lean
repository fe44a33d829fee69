import LedgerLens.Host.RunningMean
import LedgerLens.System.Consensus

/-!
Who is heard in a consensus round, and how much. Outliers are dropped around the median, which is
none of them; a vote weighs by the mean deviation its signer showed in earlier rounds, of which the
contract keeps a rounded figure. The main results are `kth_score_and_survivors` and
`accuracy_near_mean`.
-/

namespace LedgerLens

open Host Host.Prog Storage

/-! ### Order statistics by index -/

/-- The loops of the source, over indices into the submissions; `none` where one is out of range. -/
def kthScoreForIndices (subs : List ModelSubmission) (indices : List Nat) (kth : Nat) :
    Option (Option Nat) := do
  let scores ← indices.mapM fun i => subs[i]?.map ModelSubmission.score
  return scores.find? fun candidate =>
    scores.countP (· < candidate) ≤ kth && kth < scores.countP (· ≤ candidate)

/-- The submissions at these indices. -/
def selected (subs : List ModelSubmission) (indices : List Nat) : List ModelSubmission :=
  indices.filterMap (subs[·]?)

section Indices

variable {subs : List ModelSubmission} {indices : List Nat}

theorem length_selected (valid : ∀ i ∈ indices, i < subs.length) :
    (selected subs indices).length = indices.length := by
  unfold selected
  induction indices with
  | nil => rfl
  | cons i rest ih =>
    rw [List.filterMap_cons_some (List.getElem?_eq_getElem (valid i List.mem_cons_self)),
      List.length_cons, List.length_cons, ih fun j listed =>
        valid j (List.mem_cons_of_mem i listed)]

theorem mapM_score (valid : ∀ i ∈ indices, i < subs.length) :
    (indices.mapM fun i => subs[i]?.map ModelSubmission.score) =
      some ((selected subs indices).map ModelSubmission.score) := by
  unfold selected
  induction indices with
  | nil => rfl
  | cons i rest ih =>
    have found := List.getElem?_eq_getElem (valid i List.mem_cons_self)
    rw [List.mapM_cons, List.filterMap_cons_some found, found,
      ih fun j listed => valid j (List.mem_cons_of_mem i listed)]
    rfl

/-- The votes kept here stand for the indices the source keeps. -/
theorem kthScoreForIndices_eq (valid : ∀ i ∈ indices, i < subs.length) (kth : Nat) :
    kthScoreForIndices subs indices kth = some
      (kthScore (selected subs indices) kth) := by
  unfold kthScoreForIndices kthScore
  rw [mapM_score valid, kthValue_eq_orderStat, ← find?_eq_orderStat]
  rfl

end Indices

/-! ### Outliers -/

/-- Among what is kept of the votes is the median, and nothing that is far from it. -/
def KeepsMedian (multiplier : Nat) (votes kept : List ModelSubmission) : Prop :=
  ∃ q1 q3 median, kthScore votes ((votes.length - 1) / 4) = some q1 ∧
    kthScore votes (3 * (votes.length - 1) / 4) = some q3 ∧ medianScore votes = some median ∧
    (∃ vote ∈ kept, vote.score = median) ∧
    ∀ vote ∈ kept, vote ∈ votes ∧ absDiff vote.score median ≤ multiplier * (q3 - q1) / 100

section Outliers

variable {votes : List ModelSubmission}

theorem keepsMedian_survivors (four : 4 ≤ votes.length) (multiplier : Nat) :
    KeepsMedian multiplier votes (survivors multiplier votes) := by
  obtain ⟨q1, q3, isFirst, isThird, middle, listed, _, isMedian⟩ := exists_quartiles four
  have isSurvivors : survivors multiplier votes = votes.filter fun vote =>
      absDiff vote.score middle.score * 100 ≤ multiplier * (q3 - q1) := by
    unfold survivors outlierFence
    rw [if_neg (Nat.not_lt.mpr four), isFirst, isThird, isMedian]
    rfl
  rw [isSurvivors]
  refine ⟨q1, q3, middle.score, isFirst, isThird, isMedian, ⟨middle, ?_, rfl⟩, fun vote kept => ?_⟩
  · exact List.mem_filter.mpr ⟨listed, by simp [absDiff]⟩
  · obtain ⟨member, near⟩ := List.mem_filter.mp kept
    exact ⟨member, (Nat.le_div_iff_mul_le (by decide)).mpr (of_decide_eq_true near)⟩

end Outliers

/-- The loops find the entries of the sorted scores. From four accepted votes on, a direct round
keeps exactly what is near the median, the median with it. -/
theorem kth_score_and_survivors (subs : List ModelSubmission) :
    (∀ indices kth, (∀ i ∈ indices, i < subs.length) →
      (selected subs indices).length = indices.length ∧
        kthScoreForIndices subs indices kth = some
          (((selected subs indices).map ModelSubmission.score).mergeSort (· ≤ ·))[kth]?) ∧
    ∀ (env : ContractEnv) (w : State) (wallet : Address) (pair : Symbol) (timestamp : Nat),
      4 ≤ (acceptedVotes env w wallet pair timestamp subs).length →
      (∀ w₁, ∃ threshold median,
        rejectOutliers (acceptedVotes env w wallet pair timestamp subs) env w₁ =
          keepVotes (rejectOutlier threshold median)
            (acceptedVotes env w wallet pair timestamp subs) env w₁) ∧
      ∀ signers w', submitConsensusScore signers wallet pair subs timestamp env w =
          .ok () w' →
        ∃ kept score,
          KeepsMedian (multiplierOf w) (acceptedVotes env w wallet pair timestamp subs)
            kept ∧
          medianScore kept = some score ∧
          w'.ledger.entry .persistent (.score wallet pair) =
            some (consensusRiskScore kept score timestamp) := by
  refine ⟨fun indices kth valid => ⟨length_selected valid, ?_⟩, ?_⟩
  · rw [kthScoreForIndices_eq valid, kthScore, kthValue_eq_orderStat]
    rfl
  intro env w wallet pair timestamp four
  refine ⟨fun w₁ => ?_, fun signers w' ran => ?_⟩
  · obtain ⟨q1, q3, isFirst, isThird, middle, listed, isMiddle, _⟩ := exists_quartiles four
    exact ⟨_, _, rejectOutliers_eq four isFirst isThird listed isMiddle⟩
  · obtain ⟨score, isMedian, stored⟩ := submitConsensusScore_spec signers () w' ran
    exact ⟨_, score, keepsMedian_survivors four (multiplierOf w), isMedian, stored⟩

/-- Three votes near each other, and one far from them. -/
def fourVotes : List ModelSubmission :=
  [sampleVote (account 4) 20, sampleVote (account 5) 22, sampleVote (account 6) 95,
    sampleVote (account 7) 24]

def directRound : Transaction :=
  ⟨sampleEnv [account 2],
    .user (.submitConsensusScore [] (account 3) samplePair fourVotes 1000000)⟩

theorem kth_score_and_survivors_sample :
    kthScoreForIndices fourVotes [0, 2, 3] 1 = some ([20, 95, 24].mergeSort (· ≤ ·))[1]? ∧
      Returns exec deployed directRound ∧
      ∃ kept score, KeepsMedian (multiplierOf deployed) fourVotes kept ∧
        medianScore kept = some score ∧
        (step exec deployed directRound).ledger.entry .persistent (.score (account 3) samplePair) =
          some (consensusRiskScore kept score 1000000) := by
  obtain ⟨entries, rounds⟩ := kth_score_and_survivors fourVotes
  have returns : Returns exec deployed directRound := by decide +kernel
  have accepted : acceptedVotes directRound.env { deployed with authorized := [] } (account 3)
      samplePair 1000000 fourVotes = fourVotes := by
    decide +kernel
  refine ⟨(entries [0, 2, 3] 1 (by decide)).2, returns, ?_⟩
  have settled := (rounds directRound.env { deployed with authorized := [] } (account 3) samplePair
    1000000 (by rw [accepted]; decide)).2 [] (step exec deployed directRound) returns.ok
  rwa [accepted] at settled

/-! ### The records of the signers -/

abbrev accuracyIn (w : State) (signer : Address) : Option SignerAccuracyRecord :=
  w.ledger.entry .inst (.signerAccuracy signer)

/-- A record with one more deviation in it. -/
def SignerAccuracyRecord.next (record : SignerAccuracyRecord) (absDeviation : Nat) :
    SignerAccuracyRecord where
  madScaled := satAdd64 (satMul64 record.madScaled record.count) (satMul64 absDeviation 1000) /
    satAdd32 record.count 1 % u32Bound
  count := satAdd32 record.count 1

def addDeviation (record : Option SignerAccuracyRecord) (absDeviation : Nat) :
    Option SignerAccuracyRecord :=
  some ((record.getD ⟨0, 0⟩).next absDeviation)

/-- Where nothing saturates. -/
theorem SignerAccuracyRecord.next_eq {record : SignerAccuracyRecord} {d : Nat}
    (mad : record.madScaled ≤ 100000) (room : record.count + 1 < u32Bound) (small : d ≤ 100) :
    record.next d =
      ⟨(record.madScaled * record.count + d * 1000) / (record.count + 1), record.count + 1⟩ := by
  have total : record.madScaled * record.count ≤ 100000 * record.count :=
    Nat.mul_le_mul_right _ mad
  have mean : (record.madScaled * record.count + d * 1000) / (record.count + 1) ≤ 100000 :=
    Nat.div_le_of_le_mul (by omega)
  unfold u32Bound at room
  unfold SignerAccuracyRecord.next satAdd32 satAdd64 satMul64 u32Bound u64Bound
  rw [Nat.min_eq_left (a := record.count + 1) (by omega),
    Nat.min_eq_left (a := record.madScaled * record.count) (by omega),
    Nat.min_eq_left (a := d * 1000) (by omega), Nat.min_eq_left (by omega),
    Nat.mod_eq_of_lt (by omega)]

/-- As long as the count does not saturate, the figure is the mean, rounded down each time. -/
theorem record_spec {ds : List Nat} (small : ∀ d ∈ ds, d ≤ 100)
    (room : (ds.foldl SignerAccuracyRecord.next ⟨0, 0⟩).count < u32Bound - 1) :
    (ds.foldl SignerAccuracyRecord.next ⟨0, 0⟩).count = ds.length ∧
      RoundedMean (ds.map (· * 1000)) (ds.foldl SignerAccuracyRecord.next ⟨0, 0⟩).madScaled ∧
      (ds.foldl SignerAccuracyRecord.next ⟨0, 0⟩).madScaled ≤ 100000 := by
  induction ds using List.reverseRecOn with
  | nil => exact ⟨rfl, .nil, Nat.zero_le _⟩
  | append_singleton rest d ih =>
    rw [List.foldl_append, List.foldl_cons, List.foldl_nil] at room ⊢
    have isLast := small d (List.mem_append_right _ List.mem_cons_self)
    have before := ih fun d listed => small d (List.mem_append_left _ listed)
    generalize rest.foldl SignerAccuracyRecord.next ⟨0, 0⟩ = record at room before ⊢
    have counted : min (record.count + 1) (u32Bound - 1) < u32Bound - 1 := room
    obtain ⟨isCount, rounded, mad⟩ := before (by omega)
    have mean := rounded.snoc (d * 1000)
    rw [List.length_map, ← isCount] at mean
    rw [SignerAccuracyRecord.next_eq mad (by omega) isLast, List.map_append, List.length_append,
      isCount]
    refine ⟨rfl, ?_, ?_⟩
    · rw [← isCount]
      exact mean
    · refine Nat.div_le_of_le_mul ?_
      have total : record.madScaled * rest.length ≤ 100000 * rest.length :=
        Nat.mul_le_mul_right _ mad
      omega

theorem foldl_addDeviation (ds : List Nat) (record : Option SignerAccuracyRecord) :
    ds.foldl addDeviation record =
      if ds = [] then record else some (ds.foldl SignerAccuracyRecord.next
        (record.getD ⟨0, 0⟩)) := by
  induction ds generalizing record with
  | nil => rfl
  | cons d rest ih =>
    rw [List.foldl_cons, ih]
    cases rest with
    | nil => rfl
    | cons d' rest => rfl

/-! ### Rounds -/

/-- The deviations of a signer's votes from the score of a round. -/
def deviationsFrom (score : Option Nat) (votes : List ModelSubmission)
    (signer : Address) : List Nat :=
  score.elim [] fun score =>
    (votes.filter fun vote => vote.model = signer).map fun vote => absDiff score vote.score

section Rounds

variable (env : ContractEnv) (w : State) (wallet : Address) (pair : Symbol) (timestamp : Nat)
  (subs : List ModelSubmission) (signer : Address)

def revealDeviations : List Nat :=
  let basis := revealBasis env w wallet pair timestamp subs
  deviationsFrom (meanScore w basis) basis signer

def directDeviations : List Nat :=
  let basis := directBasis env w wallet pair timestamp subs
  deviationsFrom (medianScore basis) basis signer

variable {env w wallet pair timestamp subs signer} {w₁ : State}

theorem deviationsFrom_le {score : Option Nat} {votes : List ModelSubmission}
    (below : ∀ s, score = some s → s ≤ 100) (inRange : ∀ vote ∈ votes, vote.score ≤ 100) :
    ∀ d ∈ deviationsFrom score votes signer, d ≤ 100 := by
  intro d listed
  cases score with
  | none => cases listed
  | some score =>
    obtain ⟨vote, kept, rfl⟩ := List.mem_map.mp listed
    have := inRange vote (List.mem_of_mem_filter kept)
    have := below score rfl
    unfold absDiff
    omega

theorem revealDeviations_le :
    ∀ d ∈ revealDeviations env w wallet pair timestamp subs signer, d ≤ 100 :=
  deviationsFrom_le (fun _ => meanScore_le inRange_of_mem_basis) inRange_of_mem_basis

theorem directDeviations_le :
    ∀ d ∈ directDeviations env w wallet pair timestamp subs signer, d ≤ 100 := by
  have inRange : ∀ vote ∈ directBasis env w wallet pair timestamp subs,
      vote.score ≤ 100 := by
    intro vote listed
    have member : vote ∈ acceptedVotes env w wallet pair timestamp subs := by
      unfold directBasis survivors at listed
      split at listed
      · exact listed
      · exact List.mem_of_mem_filter listed
    exact score_le_of_inRange (mem_acceptedVotes member).2
  exact deviationsFrom_le (fun _ => medianScore_le inRange) inRange

theorem accuracyIn_put (record : Option SignerAccuracyRecord) :
    accuracyIn { w with ledger := w.ledger.put .inst (.signerAccuracy signer) record } =
      Function.update (accuracyIn w) signer record :=
  w.ledger.family_put .inst .signerAccuracy (fun _ _ => DataKey.signerAccuracy.inj)
    (fun _ (record : Option SignerAccuracyRecord) => record) signer record

theorem accuracyIn_of_same (same : Same Tag.isBallot w w₁) : accuracyIn w₁ = accuracyIn w :=
  funext fun signer => same.entry _ (.signerAccuracy signer) rfl

theorem updateSignerAccuracy_spec (d : Nat) :
    wlp (updateSignerAccuracy signer d)
      (fun _ w' => accuracyIn w' =
        Function.update (accuracyIn w) signer (addDeviation (accuracyIn w signer) d)) env w := by
  unfold updateSignerAccuracy
  rw [wlp_bind, wlp_load, wlp_bind, wlp_save, wlp_emit]
  exact accuracyIn_put _

/-- The loop at the end of a round: every vote is recorded for its signer. -/
theorem wlp_each_accuracy {f : ModelSubmission → M Unit} {score : Nat}
    (records : ∀ vote w, wlp (f vote) (fun _ w' => accuracyIn w' = Function.update (accuracyIn w)
      vote.model (addDeviation (accuracyIn w vote.model) (absDiff score vote.score))) env w)
    (votes : List ModelSubmission) :
    wlp (each votes f) (fun _ w' => ∀ signer, accuracyIn w' signer =
      (deviationsFrom (some score) votes signer).foldl addDeviation
        (accuracyIn w signer)) env w := by
  refine wlp_mono (wlp_each (I := fun rest w₁ => ∀ signer,
    (deviationsFrom (some score) rest signer).foldl addDeviation (accuracyIn w₁ signer) =
      (deviationsFrom (some score) votes signer).foldl addDeviation
        (accuracyIn w signer)) ?_ votes w
      fun _ => rfl) fun _ w' done => done
  intro vote rest w₁ soFar
  refine wlp_mono (records vote w₁) fun _ w₂ recorded signer => ?_
  rw [← soFar signer, recorded]
  unfold deviationsFrom Option.elim
  dsimp only
  by_cases same : vote.model = signer
  · subst same
    rw [Function.update_self, List.filter_cons_of_pos (by simp), List.map_cons, List.foldl_cons]
  · rw [Function.update_of_ne (Ne.symm same), List.filter_cons_of_neg (by simpa using same)]

theorem penalizeModel_accuracy (score : Nat) (vote : ModelSubmission) (w : State) :
    wlp (penalizeModel score vote) (fun _ w' => accuracyIn w' = Function.update (accuracyIn w)
      vote.model (addDeviation (accuracyIn w vote.model) (absDiff score vote.score))) env w := by
  unfold penalizeModel
  refine wlp_seq (wlp_of_keeps (R := Same Tag.isBallot)) fun _ w₁ same₁ => ?_
  refine wlp_seq (wlp_of_keeps (R := Same Tag.isBallot)) fun _ w₂ same₂ => ?_
  rw [← accuracyIn_of_same (IsTrans.trans _ _ _ same₁ same₂)]
  exact updateSignerAccuracy_spec _

theorem revealConsensus_accuracy (signers : List Address) (nonces : List Nat) :
    wlp (revealConsensus signers wallet pair subs nonces timestamp)
      (fun _ w' => ∀ signer, accuracyIn w' signer =
        (revealDeviations env w wallet pair timestamp subs signer).foldl addDeviation
          (accuracyIn w signer)) env w := by
  refine wlp_revealConsensus signers fun score w₁ same _ _ isMean => ?_
  rw [wlp_bind, wlp_asks]
  refine wlp_seq (wlp_of_keeps (R := Same Tag.isBallot)) fun _ w₂ same₂ => ?_
  refine wlp_seq (wlp_of_keeps (R := Same Tag.isBallot)) fun _ w₃ same₃ => ?_
  refine wlp_seq (wlp_of_keeps (R := Same Tag.isBallot)) fun _ w₄ same₄ => ?_
  refine wlp_mono (wlp_each_accuracy (penalizeModel_accuracy score) _)
    fun _ w' recorded signer => ?_
  rw [recorded signer, accuracyIn_of_same same₄, accuracyIn_of_same same₃, accuracyIn_of_same same₂,
    accuracyIn_of_same same, revealDeviations, isMean]

theorem submitConsensusScore_accuracy (signers : List Address) :
    wlp (submitConsensusScore signers wallet pair subs timestamp)
      (fun _ w' => ∀ signer, accuracyIn w' signer =
        (directDeviations env w wallet pair timestamp subs signer).foldl addDeviation
          (accuracyIn w signer)) env w := by
  refine wlp_submitConsensusScore signers fun score w₁ same _ isMedian => ?_
  rw [wlp_bind, wlp_asks]
  refine wlp_seq (wlp_of_keeps (R := Same Tag.isBallot)) fun _ w₂ same₂ => ?_
  refine wlp_seq (wlp_of_keeps (R := Same Tag.isBallot)) fun _ w₃ same₃ => ?_
  refine wlp_mono (wlp_each_accuracy (fun _ _ => updateSignerAccuracy_spec _) _)
    fun _ w' recorded signer => ?_
  rw [recorded signer, accuracyIn_of_same same₃, accuracyIn_of_same same₂, accuracyIn_of_same same,
    directDeviations, isMedian]

theorem resetSignerAccuracy_accuracy {signers : List Address} {u : Unit} {w' : State}
    (ran : resetSignerAccuracy signers signer env w = .ok u w') :
    accuracyIn w' = Function.update (accuracyIn w) signer none := by
  obtain ⟨v, v', checked, ⟨ledger, _⟩, changed⟩ := asAdmins_ok ran
  cases checked
  obtain rfl := erase_ok.mp changed
  rw [accuracyIn_put]
  unfold accuracyIn
  rw [ledger]

end Rounds

/-! ### Runs -/

/-- What a transaction adds to the deviations of a signer; `none` where it clears them. -/
def observed (signer : Address) (w : State) (tx : Transaction) : Option (List Nat) :=
  if Returns exec w tx then
    -- no one has authorised anything when a call begins
    let w := { w with authorized := [] }
    match tx.call with
    | .user (.revealConsensus _ wallet pair subs _ timestamp) =>
      some (revealDeviations tx.env w wallet pair timestamp subs signer)
    | .user (.submitConsensusScore _ wallet pair subs timestamp) =>
      some (directDeviations tx.env w wallet pair timestamp subs signer)
    | .admins _ (.resetSignerAccuracy reset) => if reset = signer then none else some []
    | _ => some []
  else some []

def record (ds : List Nat) (more : Option (List Nat)) : List Nat := more.elim [] (ds ++ ·)

/-- The deviations recorded for a signer along a run, since they were last cleared. -/
def recorded (signer : Address) (w : State) (txs : List Transaction) : List Nat :=
  (trace exec (observed signer) w txs).foldl record []

/-- The record of a signer is that of these deviations. -/
structure Records (w : State) (signer : Address) (ds : List Nat) : Prop where
  stored : accuracyIn w signer = ds.foldl addDeviation none
  small : ∀ d ∈ ds, d ≤ 100

theorem Records.append {w w' : State} {signer : Address} {ds more : List Nat}
    (records : Records w signer ds) (small : ∀ d ∈ more, d ≤ 100)
    (stored : accuracyIn w' signer = more.foldl addDeviation (accuracyIn w signer)) :
    Records w' signer (ds ++ more) where
  stored := by rw [stored, records.stored, List.foldl_append]
  small d listed := (List.mem_append.mp listed).elim (records.small d) (small d)

theorem step_records {w : State} {signer : Address} {ds : List Nat} (tx : Transaction)
    (records : Records w signer ds) :
    Records (step exec w tx) signer (record ds (observed signer w tx)) := by
  have unchanged {w' : State} (same : accuracyIn w' signer = accuracyIn w signer) :
      Records w' signer (ds ++ []) := records.append nofun same
  by_cases returns : Returns exec w tx
  swap
  · rw [step_of_not_returns returns, observed, if_neg returns]
    exact unchanged rfl
  rw [observed, if_pos returns]
  have ran := returns.ok
  obtain ⟨env, call⟩ := tx
  have of_free (free : (footprint call).contains .signerAccuracy = false) :
      Records (step exec w ⟨env, call⟩) signer (ds ++ []) := by
    have outside : Tag.signerAccuracy ∉ footprint call := by simpa using free
    exact unchanged (invoke_entry (exec_keeps call) env w .inst outside)
  rcases call with call | ⟨signers, call⟩ | call
  · cases call
    case revealConsensus signers wallet pair subs nonces timestamp =>
      exact records.append revealDeviations_le (revealConsensus_accuracy signers nonces _
        _ ran _)
    case submitConsensusScore signers wallet pair subs timestamp =>
      exact records.append directDeviations_le (submitConsensusScore_accuracy signers _
        _ ran _)
    all_goals exact of_free rfl
  · cases call
    case resetSignerAccuracy reset =>
      have cleared := congrFun (resetSignerAccuracy_accuracy ran) signer
      by_cases same : reset = signer
      · subst same
        rw [Function.update_self] at cleared
        dsimp only
        rw [if_pos rfl]
        exact ⟨cleared, nofun⟩
      · rw [Function.update_of_ne (Ne.symm same)] at cleared
        dsimp only
        rw [if_neg same]
        exact unchanged cleared
    all_goals exact of_free rfl
  · exact of_free (by cases call <;> rfl)

theorem run_records {w : State} {signer : Address} {ds : List Nat} (txs : List Transaction)
    (records : Records w signer ds) :
    Records (run exec w txs) signer ((trace exec (observed signer) w txs).foldl record ds) := by
  induction txs generalizing w ds with
  | nil => exact records
  | cons tx rest ih => exact ih (step_records tx records)

/-- In every reachable state the record of a signer is that of the deviations recorded for it, none
without any: their mean, rounded down once for every one of them. A weighted mean lies between the
scores it is taken of, whatever the records. -/
theorem accuracy_near_mean (balance : Balances) (txs : List Transaction) :
    (∀ signer, Records (run exec (genesis balance) txs) signer
      (recorded signer (genesis balance) txs)) ∧
    (∀ signer record, accuracyIn (run exec (genesis balance) txs) signer = some record →
      record.count < u32Bound - 1 →
      let ds : List Nat := (recorded signer (genesis balance) txs).map (· * 1000)
      record.count = ds.length ∧
        0 ≤ (ds.sum : ℚ) / record.count - record.madScaled ∧
        (ds.sum : ℚ) / record.count - record.madScaled ≤ (record.count - 1) / 2 ∧
        record.madScaled ≤ 100000) ∧
      ∀ env w votes, votes ≠ [] → votes.length < u32Bound → (∀ vote ∈ votes, vote.score ≤ 100) →
        ∃ score, weightedMeanScore votes env w = .ok (some score) w ∧
          (∀ least, (∀ vote ∈ votes, least ≤ vote.score) → least ≤ score) ∧
          ∀ greatest, (∀ vote ∈ votes, vote.score ≤ greatest) → score ≤ greatest := by
  have all (signer : Address) : Records (run exec (genesis balance) txs) signer
      (recorded signer (genesis balance) txs) := run_records txs ⟨rfl, nofun⟩
  refine ⟨all, fun signer stored isStored room => ?_, fun env w votes nonempty short inRange => ?_⟩
  · have records := all signer
    generalize recorded signer (genesis balance) txs = ds at records
    have isRecord := records.stored.symm.trans isStored
    rw [foldl_addDeviation] at isRecord
    split at isRecord
    · cases isRecord
    · next nonempty =>
      obtain rfl := Option.some.inj isRecord
      obtain ⟨count, rounded, mad⟩ := record_spec records.small room
      obtain ⟨below, above⟩ := rounded.error (by simpa using nonempty)
      rw [List.length_map, ← count] at below above
      exact ⟨count.trans (List.length_map _).symm, below, above, mad⟩
  · have bounds (p : Nat → Prop) (holds : ∀ vote ∈ votes, p vote.score) :
        ∀ entry ∈ weightedScores w votes, p entry.2 := by
      intro entry listed
      obtain ⟨vote, member, rfl⟩ := List.mem_map.mp listed
      exact holds vote member
    refine ⟨_, (weightedMeanScore_eq env w votes).trans
      (by rw [meanScore_eq nonempty short inRange]), fun least lower =>
        ?_, fun greatest upper => ?_⟩
    · exact le_weightedMean (totalWeight_pos w nonempty) (bounds (least ≤ ·) lower)
    · exact weightedMean_le (bounds (· ≤ greatest) upper)

/-- A direct round on a new contract. -/
def roundSample : List Transaction := [initSample, directRound]

/-- Of a single deviation the record is exact. -/
theorem accuracy_near_mean_sample :
    accuracyIn (run exec (genesis fun _ _ => 0) roundSample) (account 4) = some ⟨2000, 1⟩ ∧
      recorded (account 4) (genesis fun _ _ => 0) roundSample = [2] ∧
      ((2000 : Nat) : ℚ) / (1 : Nat) - (2000 : Nat) ≤ ((1 : Nat) - 1) / 2 ∧
      ∃ score, weightedMeanScore fourVotes (sampleEnv []) deployed = .ok (some score) deployed ∧
        20 ≤ score ∧ score ≤ 95 := by
  obtain ⟨-, near, means⟩ := accuracy_near_mean (fun _ _ => 0) roundSample
  have isRecord : accuracyIn (run exec (genesis fun _ _ => 0) roundSample) (account 4) =
      some ⟨2000, 1⟩ := by
    decide +kernel
  have isTwo : recorded (account 4) (genesis fun _ _ => 0) roundSample = [2] := by
    decide +kernel
  obtain ⟨-, -, above, -⟩ := near (account 4) _ isRecord (by decide)
  rw [isTwo] at above
  obtain ⟨score, isMean, least, greatest⟩ := means (sampleEnv []) deployed fourVotes (by decide)
    (by decide) (by decide)
  exact ⟨isRecord, isTwo, above, score, isMean, least 20 (by decide),
    greatest 95 (by decide)⟩

end LedgerLens
