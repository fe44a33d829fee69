import LedgerLens.Frames
import LedgerLens.System.Calls

/-!
The quorum of the service set. Five entry points check it, each in its own way:
the consensus entry points and attested batches ask distinct members whose keys
have not expired, single subs forget the expiry, a lone service account
passes them and plain batches, and the participants of a threshold signature
are counted with their repetitions. The main result is `accepted_quorum_iff`.
-/

namespace LedgerLens

open Host Host.Prog Storage

/-! ### Members in good standing -/

/-- The key of the signer is older than its time to live plus the grace period. -/
def signerExpired (env : ContractEnv) (w : State) (signer : Address) : Bool :=
  let ttl := (w.ledger.entry .inst .signerTtl).getD 0
  let grace := (w.ledger.entry .inst .signerGracePeriod).getD 0
  ttl ≠ 0 && (w.ledger.entry .inst (.signerAddedAt signer)).elim false fun added =>
    grace < env.timestamp - added - ttl

/-- The accounts without those whose keys have expired. -/
def unexpired (env : ContractEnv) (w : State) (accounts : List Address) : List Address :=
  accounts.filter fun a => !signerExpired env w a

/-- The distinct members of the service set among the accounts, without those
whose keys have expired. -/
def liveMembers (env : ContractEnv) (w : State) (accounts : List Address) : Finset Address :=
  accounts.toFinset.filter fun a => a ∈ serviceSet w ∧ signerExpired env w a = false

section LiveMembers

variable {env : ContractEnv} {w w' : State} {accounts : List Address}

theorem signerExpired_congr (same : w'.ledger = w.ledger) (signer : Address) :
    signerExpired env w' signer = signerExpired env w signer := by
  unfold signerExpired
  rw [same]

theorem liveMembers_congr (same : w'.ledger = w.ledger) (accounts : List Address) :
    liveMembers env w' accounts = liveMembers env w accounts := by
  unfold liveMembers serviceSet
  simp only [signerExpired_congr same, same]

@[simp] theorem liveMembers_reverse :
    liveMembers env w accounts.reverse = liveMembers env w accounts := by
  simp [liveMembers]

/-- Where all accounts are members, the expired ones and the repetitions are to
be discounted. -/
theorem card_liveMembers (members : ∀ a ∈ accounts, a ∈ serviceSet w) :
    (liveMembers env w accounts).card = (unexpired env w accounts.dedup).length := by
  have distinct : (unexpired env w accounts.dedup).Nodup := (List.nodup_dedup _).filter _
  rw [← List.toFinset_card_of_nodup distinct]
  congr 1
  ext a
  simp only [liveMembers, unexpired, Finset.mem_filter, List.mem_toFinset, List.mem_filter,
    List.mem_dedup, Bool.not_eq_true']
  exact ⟨fun held => ⟨held.1, held.2.2⟩, fun held => ⟨held.1, members a held.1, held.2⟩⟩

/-- One account is a quorum only of one, and only as a member whose key has not
expired. -/
theorem le_card_liveMembers_singleton {m : Nat} (positive : 0 < m) (a : Address) :
    m ≤ (liveMembers env w [a]).card ↔
      m = 1 ∧ a ∈ serviceSet w ∧ signerExpired env w a = false := by
  unfold liveMembers
  by_cases live : a ∈ serviceSet w ∧ signerExpired env w a = false
  · rw [Finset.filter_true_of_mem (by simpa using live)]
    simp only [List.toFinset_cons, List.toFinset_nil, insert_empty_eq, Finset.card_singleton]
    exact ⟨fun atMost => ⟨by omega, live⟩, fun held => held.1.le⟩
  · rw [Finset.filter_false_of_mem (by simpa using live), Finset.card_empty]
    exact ⟨fun atMost => by omega, fun held => absurd held.2 live⟩

end LiveMembers

/-! ### The checks -/

section Checks

variable {env : ContractEnv} {w w' : State} {u : Unit} {signers : List Address}

theorem checkSignerExpired_ok {signer : Address}
    (ran : checkSignerExpired signer env w = .ok u w') :
      signerExpired env w signer = false := by
  unfold signerExpired
  simp only [ok_iff_wp, checkSignerExpired, wp_bind, wp_loadOr, wp_whenever, wp_load, wp_asks,
    wp_pure] at ran
  by_cases noTtl : (w.ledger.entry .inst .signerTtl).getD 0 = 0
  · simp [noTtl]
  · rw [if_pos (by simpa using noTtl)] at ran
    cases added : w.ledger.entry .inst (.signerAddedAt signer) with
    | none => simp
    | some at_ =>
      rw [added] at ran
      simp only [Option.map_some, ifSome, Option.elim_some, wp_bind, wp_loadOr, wp_ite,
        wp_throw] at ran
      simp only [Option.elim_some, Bool.and_eq_false_iff, decide_eq_false_iff_not]
      split at ran
      next late => simp [wp_emit] at ran
      next inTime => exact .inr inTime

theorem checkServiceSigner_ok {signer : Address} {members : List Address}
    (ran : checkServiceSigner members signer env w = .ok u w') :
    signer ∈ members ∧ signerExpired env w signer = false := by
  obtain ⟨isMember, notExpired⟩ := require_bind_ok.mp ran
  exact ⟨of_decide_eq_true isMember, checkSignerExpired_ok notExpired⟩

/-- Every account that passes the full check counts. -/
theorem authorizeAll_checkServiceSigner
    (returned : authorizeAll (checkServiceSigner (serviceSet w)) signers env w = .ok u w') :
    signers.length ≤ (liveMembers env w w'.authorized).card := by
  have checked : ∀ a ∈ signers, a ∈ serviceSet w ∧ signerExpired env w a = false :=
    authorizeAll_eligible (fun v a => a ∈ serviceSet w ∧ signerExpired env v a = false)
      checkServiceSigner_ok
      (fun {a w₁ w₂ b} ran held => by
        have only : Only placeTag [] w₁ w₂ := Keeps.ok ran
        rwa [signerExpired_congr only.ledger_eq.symm])
      returned
  rw [authorizeAll_authorized returned,
    ← List.toFinset_card_of_nodup (authorizeAll_distinct returned).1]
  refine Finset.card_le_card fun a listed => ?_
  have listed := List.mem_toFinset.mp listed
  simpa [liveMembers, listed] using checked a listed

variable (nonempty : serviceSet w ≠ []) (positive : 0 < serviceThreshold w)

include nonempty positive in
theorem authorizeSubmission_quorum (ran : authorizeSubmission signers env w = .ok u w') :
    serviceThreshold w ≤ (liveMembers env w w'.authorized).card := by
  simp only [authorizeSubmission, bind_ok, loadOr_ok] at ran
  obtain ⟨_, _, ⟨rfl, rfl⟩, _, _, ⟨rfl, rfl⟩, rest⟩ := ran
  rw [if_pos (by simpa using ⟨nonempty, positive⟩)] at rest
  obtain ⟨enough, asked⟩ := require_bind_ok.mp rest
  exact (of_decide_eq_true enough).trans (authorizeAll_checkServiceSigner asked)

include nonempty positive in
theorem requireServiceSignersAuth_quorum
    (ran : requireServiceSignersAuth signers env w = .ok u w') :
    serviceThreshold w ≤ (liveMembers env w w'.authorized).card := by
  simp only [requireServiceSignersAuth, bind_ok, loadOr_ok] at ran
  obtain ⟨_, _, ⟨rfl, rfl⟩, _, _, ⟨rfl, rfl⟩, rest⟩ := ran
  rw [if_pos (by simpa using ⟨nonempty, positive⟩)] at rest
  obtain ⟨enough, rest⟩ := require_bind_ok.mp rest
  obtain ⟨_, asked⟩ := require_bind_ok.mp rest
  exact (of_decide_eq_true enough).trans (authorizeAll_checkServiceSigner asked)

omit nonempty positive in
theorem wp_isLoneService {Q : Bool → State → Prop} :
    wp (isLoneService signers) Q env w ↔
      if signers.length = 1 then
        ∃ service, serviceOf w = some service ∧ Q (signers.head? = some service) w
      else Q false w := by
  unfold isLoneService
  split <;> simp

/-- The only signer is the service account. -/
def loneService (w : State) (signers : List Address) : Prop :=
  signers.length = 1 ∧ signers.head? = serviceOf w

instance : Decidable (loneService w signers) := inferInstanceAs (Decidable (_ ∧ _))

include nonempty positive in
/-- Single subs: the service account alone, or distinct members that may
have expired. -/
theorem authorizeBySigners_authorized (fresh : w.authorized = [])
    (ran : authorizeBySigners signers env w = .ok u w') :
    if loneService w signers then ∃ service, serviceOf w = some service ∧ w'.authorized = [service]
    else w'.authorized = signers.reverse ∧ signers.Nodup ∧ ∀ a ∈ signers, a ∈ serviceSet w := by
  simp only [authorizeBySigners, bind_ok, loadOr_ok] at ran
  obtain ⟨_, _, ⟨rfl, rfl⟩, _, _, ⟨rfl, rfl⟩, rest⟩ := ran
  rw [if_pos (by simpa using ⟨nonempty, positive⟩)] at rest
  by_cases lone : loneService w signers
  · rw [if_pos lone]
    simp only [ok_iff_wp, wp_bind, wp_isLoneService, if_pos lone.1] at rest
    obtain ⟨service, isService, rest⟩ := rest
    rw [if_pos (by simpa [isService] using lone.2)] at rest
    simp only [wp_bind, wp_load, wp_unwrap, wp_requireAuth] at rest
    obtain ⟨account, isAccount, _, _, rfl⟩ := rest
    exact ⟨account, isAccount, by rw [fresh]⟩
  · rw [if_neg lone]
    have asked : authorizeAll (fun signer =>
      require (signer ∈ serviceSet w) Error.unauthorizedSigner)
        signers env w = .ok u w' := by
      simp only [ok_iff_wp, wp_bind, wp_isLoneService] at rest
      split at rest
      next single =>
        obtain ⟨service, isService, rest⟩ := rest
        have other : signers.head? ≠ some service := fun same =>
          lone ⟨single, same.trans isService.symm⟩
        rw [if_neg (by simpa using other)] at rest
        simp only [wp_bind, wp_require] at rest
        exact ok_iff_wp.mpr (wp_mono (fun _ _ held => ⟨rfl, held.2⟩) rest.2)
      next =>
        rw [if_neg Bool.false_ne_true] at rest
        simp only [wp_bind, wp_require] at rest
        exact ok_iff_wp.mpr (wp_mono (fun _ _ held => ⟨rfl, held.2⟩) rest.2)
    refine ⟨?_, (authorizeAll_distinct asked).1, ?_⟩
    · rw [authorizeAll_authorized asked, fresh, List.append_nil]
    · exact authorizeAll_eligible (fun _ a => a ∈ serviceSet w)
        (fun checked => of_decide_eq_true (require_ok.mp checked).1) (fun _ member => member) asked

include nonempty positive in
/-- The participants of a threshold signature are members. -/
theorem authorizeByThreshold_members {ns : NormalizedSubmission} {ta : ThresholdAttestation}
    (ran : authorizeByThreshold ns ta env w = .ok u w') :
    ∀ a ∈ ta.participatingSigners, a ∈ serviceSet w := by
  simp only [authorizeByThreshold, ok_iff_wp, wp_bind, wp_load, wp_loadOr, wp_require,
    wp_whenever, wp_each_require] at ran
  obtain ⟨_, rest⟩ := ran
  rw [if_pos (by simpa using ⟨nonempty, positive⟩)] at rest
  exact fun a listed => of_decide_eq_true (rest.2.1 a listed)

end Checks

/-! ### Accepted subs -/

/-- The submission is accepted; a batch, when one of its entries is. The call
leaves the state `w'`. -/
def Accepted (env : ContractEnv) (w : State) : UserCall → State → Prop
  | .submitScore signers sub input, w' =>
    submitScore signers sub input env { w with authorized := [] } = .ok () w'
  | .submitScoresBatch subs, w' =>
    ∃ result, submitScoresBatch subs env { w with authorized := [] } = .ok result w' ∧
      0 < result.acceptedCount
  | .submitScoresBatchAttested signers subs attestation, w' =>
    ∃ result, submitScoresBatchAttested signers subs attestation env
        { w with authorized := [] } = .ok result w' ∧ 0 < result.acceptedCount
  | .submitConsensusScore signers wallet pair subs timestamp, w' =>
    submitConsensusScore signers wallet pair subs timestamp env
      { w with authorized := [] } = .ok () w'
  | .revealConsensus signers wallet pair subs nonces timestamp, w' =>
    revealConsensus signers wallet pair subs nonces timestamp env
      { w with authorized := [] } = .ok () w'
  | _, _ => False

/-- The threshold signature a call comes with. -/
def thresholdAttestationOf : UserCall → Option ThresholdAttestation
  | .submitScore _ _ input => input.bind ScoreAttestationInput.thresholdAttestation
  | _ => none

/-- Who stands behind the call: the accounts whose authorisation was demanded, or
the participants of its threshold signature. -/
def authorizers (call : UserCall) (w' : State) : List Address :=
  (thresholdAttestationOf call).elim w'.authorized ThresholdAttestation.participatingSigners

/-- The service account is a quorum of its own. -/
def LoneQuorum (env : ContractEnv) (w : State) : Prop :=
  serviceThreshold w = 1 ∧
    ∃ service, serviceOf w = some service ∧ service ∈ serviceSet w ∧
      signerExpired env w service = false

/-- What the entry points leave unchecked does not matter for the call. -/
def QuorumKept (env : ContractEnv) (w : State) : UserCall → Prop
  | .submitScore signers _ input =>
    (input.bind ScoreAttestationInput.thresholdAttestation).elim
      (if loneService w signers then LoneQuorum env w
        else serviceThreshold w ≤ (unexpired env w signers).length)
      fun ta => serviceThreshold w ≤ (unexpired env w ta.participatingSigners.dedup).length
  | .submitScoresBatch _ => LoneQuorum env w
  | _ => True

section Accepted

variable {env : ContractEnv} {w w' : State}

section

set_option synthInstance.maxSize 100000000

variable {signers : List Address} {wallet : Address} {pair : Symbol}
  {votes : List ModelSubmission} {nonces : List Nat} {timestamp : Nat} {u : Unit}

/-- A single submission is checked, authorised and finalised. -/
theorem submitScore_phases {sub : ScoreSubmission} {input : Option ScoreAttestationInput} {u : Unit}
    (ran : submitScore signers sub input env w = .ok u w') :
    ∃ w₁ w₂, Only placeTag [] w w₁ ∧
      (input.bind ScoreAttestationInput.thresholdAttestation).elim
        (authorizeLegacy signers
          { sub.normalize with commitment := input.bind ScoreAttestationInput.commitment }
          (input.bind ScoreAttestationInput.attestation))
        (authorizeByThreshold
          { sub.normalize with commitment := input.bind ScoreAttestationInput.commitment })
        env w₁ = .ok () w₂ ∧
      SameFrame w₂ w' := by
  obtain ⟨_, wₒ, opened, rest⟩ := bind_ok.mp ran
  obtain ⟨_, w₁, bounded, rest⟩ := bind_ok.mp rest
  obtain ⟨_, w₂, authorized, finalized⟩ := bind_ok.mp rest
  have before : Only placeTag [] w wₒ := Keeps.ok opened
  have checked : Only placeTag [] wₒ w₁ := Keeps.ok bounded
  exact ⟨w₁, w₂, IsTrans.trans _ _ _ before checked, authorized, Keeps.ok finalized⟩

theorem submitScoresBatch_authorized {subs : List ScoreSubmission} {result : BatchResult}
    (ran : submitScoresBatch subs env { w with authorized := [] } = .ok result w') :
    ∃ service, serviceOf w = some service ∧ w'.authorized = [service] := by
  rw [ok_iff_wp, wp_submitScoresBatch] at ran
  obtain ⟨_, _, _, _, service, isService, _, _, _, progress, w₁, looped, recorded⟩ := ran
  have loopFrame : w₁.authorized = [service] := Keeps.ok (R := SameFrame) looped
  obtain ⟨_, _, recorded, _, rfl⟩ := recorded
  have lastFrame := Keeps.ok (R := SameFrame) recorded
  exact ⟨service, isService, lastFrame.trans loopFrame⟩

theorem loneQuorum_iff {service : Address} (positive : 0 < serviceThreshold w)
    (isService : serviceOf w = some service) :
    serviceThreshold w ≤ (liveMembers env w [service]).card ↔ LoneQuorum env w := by
  rw [le_card_liveMembers_singleton positive]
  unfold LoneQuorum
  constructor
  · rintro ⟨one, live⟩
    exact ⟨one, service, isService, live⟩
  · rintro ⟨one, account, isAccount, live⟩
    obtain rfl : service = account := Option.some.inj (isService.symm.trans isAccount)
    exact ⟨one, live⟩

/-- A quorum check between steps that change nothing and steps that ask no one
makes a quorum of the whole call. -/
theorem quorum_of_phases {w₁ w₂ : State} (before : Only placeTag [] w w₁)
    (quorum : serviceSet w₁ ≠ [] → 0 < serviceThreshold w₁ →
      serviceThreshold w₁ ≤ (liveMembers env w₁ w₂.authorized).card)
    (after : SameFrame w₂ w') (nonempty : serviceSet w ≠ []) (positive : 0 < serviceThreshold w) :
    serviceThreshold w ≤ (liveMembers env w w'.authorized).card := by
  have sameSet : serviceSet w₁ = serviceSet w := by rw [serviceSet, before.ledger_eq]
  have sameThreshold : serviceThreshold w₁ = serviceThreshold w := by
    rw [serviceThreshold, before.ledger_eq]
  rw [after, ← liveMembers_congr before.ledger_eq, ← sameThreshold]
  exact quorum (sameSet ▸ nonempty) (sameThreshold ▸ positive)

theorem submitConsensusScore_quorum
    (ran : submitConsensusScore signers wallet pair votes timestamp env w = .ok u w') :
    serviceSet w ≠ [] → 0 < serviceThreshold w →
      serviceThreshold w ≤ (liveMembers env w w'.authorized).card := by
  obtain ⟨_, w₁, active, rest⟩ := bind_ok.mp ran
  obtain ⟨_, w₂, authorized, rest⟩ := bind_ok.mp rest
  exact quorum_of_phases (Keeps.ok active)
    (fun nonempty positive => authorizeSubmission_quorum nonempty positive authorized)
    (Keeps.ok rest)

theorem revealConsensus_quorum
    (ran : revealConsensus signers wallet pair votes nonces timestamp env w = .ok u w') :
    serviceSet w ≠ [] → 0 < serviceThreshold w →
      serviceThreshold w ≤ (liveMembers env w w'.authorized).card := by
  obtain ⟨_, w₁, active, rest⟩ := bind_ok.mp ran
  obtain ⟨_, w₂, authorized, rest⟩ := bind_ok.mp rest
  exact quorum_of_phases (Keeps.ok active)
    (fun nonempty positive => authorizeSubmission_quorum nonempty positive authorized)
    (Keeps.ok rest)

theorem submitScoresBatchAttested_quorum {subs : List ScoreSubmissionWithProof}
    {attestation : BatchAttestation} {result : BatchResult}
    (ran : submitScoresBatchAttested signers subs attestation env w = .ok result w') :
    serviceSet w ≠ [] → 0 < serviceThreshold w →
      serviceThreshold w ≤ (liveMembers env w w'.authorized).card := by
  rw [ok_iff_wp, wp_submitScoresBatchAttested] at ran
  obtain ⟨_, _, _, _, _, _, w₁, authorized, _, _, _, w₂, verified, _, w₃, looped, _, rfl⟩ :=
    ran
  have verifyFrame : SameFrame w₁ w₂ := Keeps.ok verified
  have loopFrame : SameFrame w₂ w₃ := Keeps.ok looped
  exact quorum_of_phases (Std.Refl.refl w)
    (fun nonempty positive => requireServiceSignersAuth_quorum nonempty positive authorized)
    (IsTrans.trans _ _ _ verifyFrame loopFrame)

theorem submitScore_quorum_iff {sub : ScoreSubmission} {input : Option ScoreAttestationInput}
    {u : Unit} (nonempty : serviceSet w ≠ []) (positive : 0 < serviceThreshold w)
    (ran : submitScore signers sub input env { w with authorized := [] } = .ok u w') :
    serviceThreshold w ≤
      (liveMembers env w (authorizers (.submitScore signers sub input) w')).card ↔
      QuorumKept env w (.submitScore signers sub input) := by
  obtain ⟨w₁, w₂, before, authorized, after⟩ := submitScore_phases ran
  have same : w₁.ledger = w.ledger := before.ledger_eq
  have nonempty₁ : serviceSet w₁ ≠ [] := by rwa [serviceSet, same]
  have positive₁ : 0 < serviceThreshold w₁ := by rwa [serviceThreshold, same]
  dsimp only [authorizers, thresholdAttestationOf, QuorumKept]
  cases attested : input.bind ScoreAttestationInput.thresholdAttestation with
  | some ta =>
    rw [attested] at authorized
    have members := authorizeByThreshold_members nonempty₁ positive₁ authorized
    rw [serviceSet, same] at members
    dsimp only [Option.elim_some]
    rw [card_liveMembers members]
  | none =>
    rw [attested] at authorized
    obtain ⟨_, w₃, asked, attestation⟩ := bind_ok.mp authorized
    have sameFrame : w'.authorized = w₃.authorized :=
      after.trans (Keeps.ok (R := SameFrame) attestation)
    have signersAsked := authorizeBySigners_authorized nonempty₁ positive₁
      (before.authorized List.not_mem_nil) asked
    dsimp only [Option.elim_none]
    rw [sameFrame]
    have sameLone : loneService w₁ signers ↔ loneService w signers := by
      rw [loneService, serviceOf, same]
      rfl
    by_cases lone : loneService w signers
    · rw [if_pos (sameLone.mpr lone), serviceOf, same] at signersAsked
      obtain ⟨service, isService, alone⟩ := signersAsked
      rw [alone, if_pos lone]
      exact loneQuorum_iff positive isService
    · rw [if_neg (mt sameLone.mp lone), serviceSet, same] at signersAsked
      obtain ⟨asked, distinct, members⟩ := signersAsked
      rw [asked, if_neg lone, liveMembers_reverse, card_liveMembers members,
        List.dedup_eq_self.mpr distinct]

end

/-- With a service set and a positive threshold `m`, an accepted submission is
authorised by `m` distinct members whose keys have not expired exactly when what
its entry point leaves unchecked holds of the call. -/
theorem accepted_quorum_iff {call : UserCall} (nonempty : serviceSet w ≠ [])
    (positive : 0 < serviceThreshold w) (accepted : Accepted env w call w') :
    serviceThreshold w ≤ (liveMembers env w (authorizers call w')).card ↔
      QuorumKept env w call := by
  cases call with
  | submitScore signers sub input => exact submitScore_quorum_iff nonempty positive accepted
  | submitScoresBatch subs =>
    obtain ⟨result, ran, _⟩ := accepted
    obtain ⟨service, isService, alone⟩ := submitScoresBatch_authorized ran
    dsimp only [authorizers, thresholdAttestationOf, Option.elim_none]
    rw [alone]
    exact loneQuorum_iff positive isService
  | submitScoresBatchAttested signers subs attestation =>
    obtain ⟨result, ran, _⟩ := accepted
    exact iff_of_true
      (submitScoresBatchAttested_quorum (w := { w with authorized :=
        [] }) ran nonempty positive) trivial
  | submitConsensusScore signers wallet pair votes timestamp =>
    exact iff_of_true
      (submitConsensusScore_quorum (w := { w with authorized :=
        [] }) accepted nonempty positive) trivial
  | revealConsensus signers wallet pair votes nonces timestamp =>
    exact iff_of_true
      (revealConsensus_quorum (w := { w with authorized := [] }) accepted nonempty positive) trivial
  | _ => exact accepted.elim

end Accepted

/-- Accounts 3 and 4 form the service set and both are needed. -/
def dualService : State :=
  run exec deployed
    [adminSample (.addServiceSigner (account 3)), adminSample (.addServiceSigner (account 4)),
     adminSample (.setServiceThreshold 2)]

theorem dualService_serviceSet : serviceSet dualService = [account 3, account 4] := by
  decide +kernel

theorem dualService_serviceThreshold : serviceThreshold dualService = 2 := by decide +kernel

/-- A batch signed by account 2 alone, which is not in the set, is accepted. -/
theorem submitScoresBatch_without_quorum :
    ∃ w', Accepted (sampleEnv [account 2]) dualService
        (.submitScoresBatch [sampleSubmission (account 5) 50]) w' ∧
      ¬ serviceThreshold dualService ≤ (liveMembers (sampleEnv [account 2]) dualService
        (authorizers (.submitScoresBatch [sampleSubmission (account 5) 50]) w')).card := by
  have ran : ((submitScoresBatch [sampleSubmission (account 5) 50] (sampleEnv [account 2])
      { dualService with authorized := [] }).value?.map BatchResult.acceptedCount) = some 1 := by
    decide +kernel
  obtain ⟨result, returned, accepts⟩ := Option.map_eq_some_iff.mp ran
  obtain ⟨w', returned⟩ := Outcome.exists_of_value? returned
  refine ⟨w', ⟨result, returned, by omega⟩, ?_⟩
  obtain ⟨service, isService, alone⟩ := submitScoresBatch_authorized returned
  have isTwo : serviceOf dualService = some (account 2) := by decide +kernel
  obtain rfl : account 2 = service := Option.some.inj (isTwo.symm.trans isService)
  dsimp only [authorizers, thresholdAttestationOf, Option.elim_none]
  rw [alone, le_card_liveMembers_singleton (by rw [dualService_serviceThreshold]; decide),
    dualService_serviceSet]
  decide +kernel

/-- Accounts 3 and 4 together submit a score. -/
theorem submitScore_with_quorum :
    ∃ w', Accepted (sampleEnv [account 3, account 4]) dualService
        (.submitScore [account 3, account 4] (sampleSubmission (account 5) 50) none) w' ∧
      serviceThreshold dualService ≤ (liveMembers (sampleEnv [account 3, account 4]) dualService
        (authorizers
          (.submitScore [account 3, account 4] (sampleSubmission (account 5) 50) none)
            w')).card := by
  have ran : (submitScore [account 3, account 4] (sampleSubmission (account 5) 50) none
      (sampleEnv [account 3, account 4]) { dualService with authorized :=
        [] }).value? = some () := by
    decide +kernel
  obtain ⟨w', returned⟩ := Outcome.exists_of_value? ran
  have accepted : Accepted (sampleEnv [account 3, account 4]) dualService
      (.submitScore [account 3, account 4] (sampleSubmission (account 5) 50) none) w' := returned
  refine ⟨w', accepted, ?_⟩
  refine (accepted_quorum_iff ?_ ?_ accepted).mpr ?_
  · rw [dualService_serviceSet]
    decide
  · rw [dualService_serviceThreshold]
    decide
  · dsimp only [QuorumKept, Option.bind_none, Option.elim_none]
    rw [if_neg (by decide +kernel), dualService_serviceThreshold]
    decide +kernel

end LedgerLens
