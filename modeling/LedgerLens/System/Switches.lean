import LedgerLens.System.Authority
import LedgerLens.System.ScoreFrame

/-!
The switches that are meant to hold scores still: the emergency freeze, the
pause of a single pair and the closing of an epoch. Each write path checks them
on its own, and most of them not all. The main results are `run_liveScore_of_freeze` and
`run_liveScore_of_closed`.
-/

namespace LedgerLens

open Host Host.Prog Storage

/-! ### What the open checks establish -/

section Open

variable {env : ContractEnv} {w w' : State} {pair : Symbol} {u : Unit}

/-- Submissions for the pair are open. -/
structure SubmissionsOpen (w : State) (pair : Symbol) : Prop where
  notFrozen : frozen w = false
  notPaused : paused w = false
  pairNotPaused : pairPaused w pair = false
  inEpoch : epochOpen w = true

theorem ensureSubmissionsOpen_open (ran : ensureSubmissionsOpen pair env w = .ok u w') :
    SubmissionsOpen w pair := by
  simp [ok_iff_wp, ensureSubmissionsOpen, ensureAssetPairBounded] at ran
  obtain ⟨_, _, notFrozen, _, notPaused, pairNotPaused, inEpoch, _⟩ := ran
  exact { notFrozen, notPaused, pairNotPaused, inEpoch }

theorem ensureRelayOpen_open (ran : ensureRelayOpen pair env w = .ok u w') :
    SubmissionsOpen w pair := by
  simp [ok_iff_wp, ensureRelayOpen, ensureAssetPairBounded] at ran
  obtain ⟨_, notFrozen, _, notPaused, pairNotPaused, inEpoch, _⟩ := ran
  exact { notFrozen, notPaused, pairNotPaused, inEpoch }

theorem submitScore_open {signers : List Address} {sub : ScoreSubmission}
    {input : Option ScoreAttestationInput}
    (ran : submitScore signers sub input env w = .ok u w') : SubmissionsOpen w sub.assetPair := by
  obtain ⟨_, _, opened, _⟩ := bind_ok.mp ran
  exact ensureSubmissionsOpen_open opened

theorem relayAttestedScore_open {relayer : Address} {sub : ScoreSubmission}
    {attestation : RelayScoreAttestation} {isNew : Bool}
    (ran : relayAttestedScore relayer sub attestation env w = .ok isNew w') :
    SubmissionsOpen w sub.assetPair := by
  obtain ⟨_, _, opened, _⟩ := bind_ok.mp ran
  exact ensureRelayOpen_open opened

end Open

/-! ### The emergency freeze -/

/-- The call looks at the freeze before it writes a score, or writes none. -/
def honoursFreeze : Call → Bool
  | .user (.submitScore ..) | .user (.relayAttestedScore ..) => true
  | call => Tag.score ∉ footprint call

theorem step_liveScore_of_frozen {w : State} {tx : Transaction} (isFrozen : frozen w = true)
    (honours : honoursFreeze tx.call = true) (wallet : Address) (pair : Symbol) :
    liveScore (step exec w tx) wallet pair = liveScore w wallet pair := by
  obtain ⟨env, call⟩ := tx
  have refused (open_ : frozen w = false) :
      liveScore (step exec w ⟨env, call⟩) wallet pair = liveScore w wallet pair :=
    absurd isFrozen (by simp [open_])
  rcases invoke_cases (exec call) env w with same | ⟨_, ran⟩
  · exact congrArg (liveScore · wallet pair) same
  · dsimp only at honours
    unfold honoursFreeze at honours
    split at honours
    · exact refused (submitScore_open ran).notFrozen
    · obtain ⟨_, _, relayed, _⟩ := bind_ok.mp ran
      exact refused (relayAttestedScore_open relayed).notFrozen
    · exact step_entry (of_decide_eq_true honours)

/-- The transaction lifts the freeze. -/
def Unfreezes (w : State) (tx : Transaction) : Prop :=
  (∃ signers, tx.call = .admins signers .unfreezeContract) ∧ Returns exec w tx

theorem frozen_of_freezeContract {w w' : State} {env : ContractEnv} {signers : List Address}
    {u : Unit} (ran : freezeContract signers env w = .ok u w') : frozen w' = true := by
  simp only [ok_iff_wp, asAdmins, updateAuditRoot, wp_bind, wp_has, wp_require, wp_pure, wp_save,
    wp_loadOr, wp_asks] at ran
  obtain ⟨_, _, w₁, _, _, rfl⟩ := ran
  rw [frozen, Ledger.entry_put_of_ne _ _ (by decide), Ledger.entry_put_self]
  rfl

/-- Only the two calls for it move the freeze. -/
theorem frozen_mem_footprint {call : Call} (writes : Tag.frozen ∈ footprint call) :
    (∃ signers, call = .admins signers .freezeContract) ∨
      ∃ signers, call = .admins signers .unfreezeContract := by
  rcases call with call | ⟨signers, call⟩ | call
  · exact absurd writes (by cases call <;> (dsimp only [footprint, userFootprint]; decide))
  · cases call
    case freezeContract => exact .inl ⟨signers, rfl⟩
    case unfreezeContract => exact .inr ⟨signers, rfl⟩
    all_goals exact absurd writes (by dsimp only [footprint, adminFootprint]; decide)
  · exact absurd writes (by cases call <;> (dsimp only [footprint, soleAdminFootprint]; decide))

theorem step_frozen {w : State} {tx : Transaction} (isFrozen : frozen w = true)
    (stays : ¬ Unfreezes w tx) : frozen (step exec w tx) = true := by
  by_cases returns : Returns exec w tx
  · by_cases writes : Tag.frozen ∈ footprint tx.call
    · rcases frozen_mem_footprint writes with ⟨signers, isFreeze⟩ | ⟨signers, isUnfreeze⟩
      · have ran := returns.ok
        rw [isFreeze] at ran
        exact frozen_of_freezeContract ran
      · exact absurd ⟨⟨signers, isUnfreeze⟩, returns⟩ stays
    · rw [frozen, step_entry writes]
      exact isFrozen
  · rw [step_of_not_returns returns]
    exact isFrozen

/-- From a freeze on, and until it is lifted, calls that honour the freeze leave
every live score as it was. -/
theorem run_liveScore_of_freeze {w : State} {env : ContractEnv} {signers : List Address}
    (froze : Returns exec w ⟨env, .admins signers .freezeContract⟩) {txs : List Transaction}
    (along : Along exec (fun w tx => ¬ Unfreezes w tx ∧ honoursFreeze tx.call = true)
      (step exec w ⟨env, .admins signers .freezeContract⟩) txs)
    (wallet : Address) (pair : Symbol) :
    liveScore (run exec (step exec w ⟨env, .admins signers .freezeContract⟩) txs) wallet pair
      = liveScore (step exec w ⟨env, .admins signers .freezeContract⟩) wallet pair := by
  set start := step exec w ⟨env, .admins signers .freezeContract⟩
  -- the freeze and the score are carried through the run together
  refine (run_invariant (I := fun w => frozen w = true ∧
    liveScore w wallet pair = liveScore start wallet pair) ?_ ⟨?_, rfl⟩ along).2
  · rintro w tx ⟨isFrozen, same⟩ ⟨stays, honours⟩
    exact ⟨step_frozen isFrozen stays,
      (step_liveScore_of_frozen isFrozen honours wallet pair).trans same⟩
  · exact frozen_of_freezeContract froze.ok

/-- A deployed contract with a link between accounts 3 and 4, frozen. -/
def frozenWithLink : State :=
  run exec deployed
    [⟨sampleEnv [], .user (.addCounterpartyLink (account 3) (account 4) samplePair)⟩,
     adminSample .freezeContract]

/-- Contagion writes a score into a frozen contract, without any signature. -/
theorem propagateContagion_while_frozen :
    frozen frozenWithLink = true ∧
      liveScore frozenWithLink (account 4) samplePair = none ∧
      (liveScore (step exec frozenWithLink
        ⟨sampleEnv [], .user (.propagateContagion (account 3) samplePair 30)⟩)
        (account 4) samplePair).map RiskScore.score = some 30 := by
  decide +kernel

/-- A score submitted to a frozen contract is not written. -/
theorem submitScore_while_frozen :
    liveScore (run exec (step exec deployed (adminSample .freezeContract))
      [submitSample (account 4) 50])
      (account 4) samplePair
      = liveScore (step exec deployed (adminSample .freezeContract))
          (account 4) samplePair := by
  apply run_liveScore_of_freeze (returns_of_isOk (by decide +kernel))
  refine ⟨⟨?_, rfl⟩, trivial⟩
  rintro ⟨⟨signers, isUnfreeze⟩, _⟩
  cases isUnfreeze

/-! ### Paused pairs and closed epochs -/

/-- Writes of scores for the pair are meant to be refused. -/
def ClosedFor (w : State) (pair : Symbol) : Prop :=
  pairPaused w pair = true ∨ epochOpen w = false

/-- The call checks both switches, or does not aim at the pair. -/
def honoursBreaker (w : State) (pair : Symbol) : Call → Prop
  | .user (.submitScoresBatchAttested _ subs _) =>
    epochOpen w = true → ∀ entry ∈ subs, entry.submission.assetPair ≠ pair
  | .user (.revealConsensus _ _ target _ _ _) | .user (.submitConsensusScore _ _ target _ _)
  | .user (.commitPendingScore _ target) | .user (.propagateContagion _ target _) =>
    target ≠ pair
  | _ => True

/-- The scores of the pair. -/
abbrev ofPair (pair : Symbol) : Address → Symbol → Prop := fun _ other => other = pair

section Pair

set_option synthInstance.maxSize 100000000

variable {pair : Symbol} {env : ContractEnv} {w w' : State}

/-- While the pair is paused, it stays so and its scores are kept. -/
def KeptWhilePaused (pair : Symbol) (w w' : State) : Prop :=
  pairPaused w pair = true →
    pairPaused w' pair = true ∧ SparesScores (ofPair pair) w w'

instance : Std.Refl (KeptWhilePaused pair) := ⟨fun _ paused => ⟨paused, Std.Refl.refl _⟩⟩

instance : IsTrans State (KeptWhilePaused pair) where
  trans _ _ _ first second paused :=
    ⟨(second (first paused).1).1, IsTrans.trans _ _ _ (first paused).2 (second (first paused).1).2⟩

/-- Entries for a paused pair are refused before anything is written. -/
theorem judgeEntry_of_pairPaused {threshold : Nat} {sub : ScoreSubmission}
    (paused : pairPaused w sub.assetPair = true) :
    ∃ code, judgeEntry threshold sub env w = .ok (.reject code) w := by
  unfold judgeEntry
  split
  · exact ⟨_, rfl⟩
  · have isPaused : isPairPaused sub.assetPair env w = .ok true w := loadOr_ok.mpr ⟨paused, rfl⟩
    exact ⟨_, run_bind_of_ok isPaused⟩

instance (threshold : Nat) (sub : ScoreSubmission) :
    Keeps (KeptWhilePaused pair) (judgeEntry threshold sub) := by
  by_cases same : sub.assetPair = pair
  · subst same
    constructor
    · intro env w verdict w' ran paused
      obtain ⟨code, refused⟩ := judgeEntry_of_pairPaused paused
      cases refused.symm.trans ran
      exact ⟨paused, Std.Refl.refl _⟩
    · intro env w e w' failed paused
      obtain ⟨code, refused⟩ := judgeEntry_of_pairPaused paused
      cases refused.symm.trans failed
  · have : Written (ofPair pair) sub.wallet sub.assetPair := ⟨same⟩
    have spares : Keeps (SparesScores (ofPair pair)) (judgeEntry threshold sub) :=
      inferInstance
    have only : Keeps (Only placeTag batchTags) (judgeEntry threshold sub) := inferInstance
    have outside : Tag.pairPaused ∉ batchTags := by decide
    constructor
    · intro env w verdict w' ran paused
      refine ⟨?_, spares.ok ran⟩
      rwa [pairPaused, (only.ok ran).entry _ (.pairPaused pair) outside]
    · intro env w e w' failed paused
      refine ⟨?_, spares.err failed⟩
      rwa [pairPaused, (only.err failed).entry _ (.pairPaused pair) outside]

theorem submitScoresBatch_spares {subs : List ScoreSubmission} {result : BatchResult}
    (closed : ClosedFor w pair)
    (ran : submitScoresBatch subs env w = .ok result w') : SparesScores (ofPair pair) w w' := by
  rw [ok_iff_wp, wp_submitScoresBatch] at ran
  obtain ⟨_, _, _, inEpoch, service, _, _, _, _, progress, w₁, looped, recorded⟩ := ran
  have paused : pairPaused w pair = true := closed.resolve_right (by simp [inEpoch])
  have kept := (Keeps.ok (R := KeptWhilePaused pair) looped paused).2
  obtain ⟨_, _, recorded, _, rfl⟩ := recorded
  have after := Keeps.ok (R := SparesScores (ofPair pair)) recorded
  exact IsTrans.trans _ _ _ kept after

section

variable {signers : List Address} {subs : List ScoreSubmissionWithProof}
  {attestation : BatchAttestation}

theorem submitScoresBatchAttested_inEpoch {result : BatchResult}
    (ran : submitScoresBatchAttested signers subs attestation env w = .ok result w') :
    epochOpen w = true := by
  simp only [ok_iff_wp, submitScoresBatchAttested, wp_bind, wp_loadOr, wp_require,
    wp_ensureActive] at ran
  obtain ⟨_, _, _, inEpoch, _⟩ := ran
  exact inEpoch

theorem submitScoresBatchAttested_spares
    (elsewhere : ∀ entry ∈ subs, entry.submission.assetPair ≠ pair) :
    Keeps (SparesScores (ofPair pair))
      (submitScoresBatchAttested signers subs attestation) := by
  have loop (threshold : Nat) (versionSet : List Nat) :
      Keeps (SparesScores (ofPair pair)) (batchLoop
        (judgeAttestedEntry threshold versionSet attestation.merkleRoot) subs) := by
    refine keeps_batchLoop fun entry listed => ?_
    have : Written (ofPair pair) entry.submission.wallet entry.submission.assetPair :=
      ⟨elsewhere entry listed⟩
    infer_instance
  unfold submitScoresBatchAttested
  infer_instance

end

/-- An open pair is neither paused nor out of epoch. -/
theorem ClosedFor.ne_of_open {other : Symbol} (closed : ClosedFor w pair)
    (opened : SubmissionsOpen w other) : other ≠ pair := by
  rintro rfl
  rcases closed with paused | shut
  · exact absurd paused (by simp [opened.pairNotPaused])
  · exact absurd opened.inEpoch (by simp [shut])

/-- While the pair is closed, a call that honours it spares the pair's scores. -/
theorem execUser_spares {call : UserCall} {u : Unit} (closed : ClosedFor w pair)
    (honours : honoursBreaker w pair (.user call))
      (ran : execUser call env w = .ok u w') : SparesScores (ofPair pair) w w' := by
  cases call with
  | submitScore signers sub input =>
    have : Written (ofPair pair) sub.wallet sub.assetPair :=
      ⟨closed.ne_of_open (submitScore_open ran)⟩
    exact Keeps.ok (m := submitScore signers sub input) ran
  | relayAttestedScore relayer sub attestation =>
    obtain ⟨_, _, relayed, last⟩ := bind_ok.mp ran
    cases last
    have : Written (ofPair pair) sub.wallet sub.assetPair :=
      ⟨closed.ne_of_open (relayAttestedScore_open relayed)⟩
    exact Keeps.ok relayed
  | submitScoresBatch subs =>
    obtain ⟨_, _, ran, last⟩ := bind_ok.mp ran
    cases last
    exact submitScoresBatch_spares closed ran
  | submitScoresBatchAttested signers subs attestation =>
    obtain ⟨_, _, ran, last⟩ := bind_ok.mp ran
    cases last
    exact (submitScoresBatchAttested_spares
      (honours (submitScoresBatchAttested_inEpoch ran))).ok ran
  | revealConsensus signers wallet target votes nonces timestamp =>
    have : Written (ofPair pair) wallet target := ⟨honours⟩
    exact Keeps.ok (m := revealConsensus signers wallet target votes nonces timestamp) ran
  | submitConsensusScore signers wallet target votes timestamp =>
    have : Written (ofPair pair) wallet target := ⟨honours⟩
    exact Keeps.ok (m := submitConsensusScore signers wallet target votes timestamp) ran
  | commitPendingScore wallet target =>
    have : Written (ofPair pair) wallet target := ⟨honours⟩
    exact Keeps.ok (m := commitPendingScore wallet target) ran
  | propagateContagion anchor target boost =>
    have (wallet : Address) : Written (ofPair pair) wallet target := ⟨honours⟩
    exact Keeps.ok (m := dropResult (propagateContagion anchor target boost)) ran
  | _ =>
    exact About.of_only _ (by dsimp only [userFootprint]; decide) ((execUser_keeps _).ok ran)

end Pair

theorem step_liveScore_of_closed {w : State} {tx : Transaction} {pair : Symbol}
    (closed : ClosedFor w pair) (outsider : ¬ SignedByAdministrator tx.env w)
    (honours : honoursBreaker w pair tx.call) (wallet : Address) :
    liveScore (step exec w tx) wallet pair = liveScore w wallet pair := by
  obtain ⟨env, call⟩ := tx
  rcases invoke_cases (exec call) env w with same | ⟨_, ran⟩
  · exact congrArg (liveScore · wallet pair) same
  · match call with
    | .user call =>
      exact execUser_spares (w := { w with authorized := [] }) closed honours ran _ _ rfl
    | .admins signers call =>
      exact absurd ((execAdmins_guarded signers call).holds ran).signed outsider
    | .soleAdmin call =>
      exact absurd ((execSoleAdmin_guarded call).holds ran).signed outsider

/-- Along every run whose calls honour the two switches, no one but the
administrators changes a score of a pair while it is closed. -/
theorem run_liveScore_of_closed {w : State} {txs : List Transaction} (pair : Symbol)
    (along : Along exec (fun w tx => ClosedFor w pair → honoursBreaker w pair tx.call)
      w txs) :
    Along exec (fun w tx => ClosedFor w pair → ¬ SignedByAdministrator tx.env w →
      ∀ wallet, liveScore (step exec w tx) wallet pair = liveScore w wallet pair)
      w txs :=
  along.mono fun _ _ honours closed outsider wallet =>
    step_liveScore_of_closed closed outsider (honours closed) wallet

/-- A deployed contract with a link between accounts 3 and 4, its pair paused and
its epoch closed. -/
def closedWithLink : State :=
  run exec deployed
    [⟨sampleEnv [], .user (.addCounterpartyLink (account 3) (account 4) samplePair)⟩,
     soleSample (.setPairPaused samplePair true), adminSample .closeEpoch]

/-- Contagion writes a score of a paused pair in a closed epoch, without any
signature. -/
theorem propagateContagion_while_closed :
    pairPaused closedWithLink samplePair = true ∧ epochOpen closedWithLink = false ∧
      liveScore closedWithLink (account 4) samplePair = none ∧
      (liveScore (step exec closedWithLink
        ⟨sampleEnv [], .user (.propagateContagion (account 3) samplePair 30)⟩)
        (account 4) samplePair).map RiskScore.score = some 30 := by
  decide +kernel

/-- A batch for the closed pair, signed by the service, changes none of its scores. -/
theorem submitScoresBatch_while_closed :
    liveScore (step exec closedWithLink
        ⟨sampleEnv [account 2], .user (.submitScoresBatch [sampleSubmission (account 4) 50])⟩)
        (account 4) samplePair = liveScore closedWithLink (account 4) samplePair := by
  have honours : Along exec
      (fun w tx => ClosedFor w samplePair → honoursBreaker w samplePair tx.call) closedWithLink
      [⟨sampleEnv [account 2], .user (.submitScoresBatch [sampleSubmission (account 4) 50])⟩] :=
    ⟨fun _ => trivial, trivial⟩
  refine (run_liveScore_of_closed samplePair honours).1 (.inl (by decide +kernel)) ?_ _
  have admin : adminOf closedWithLink = some (account 1) := by decide +kernel
  have members : adminSet closedWithLink = [] := by decide +kernel
  rintro ⟨a, isAdmin | member, signed⟩
  · obtain rfl : account 1 = a := Option.some.inj (admin.symm.trans isAdmin)
    exact absurd signed (by decide +kernel)
  · rw [members] at member
    cases member

end LedgerLens
