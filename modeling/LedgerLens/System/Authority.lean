import LedgerLens.System.Calls

/-!
Whose signatures the administrative entry points need. Most of them go through
`require_admin_auth`; the others ask the admin alone, whatever the admin set
says, and everything a quorum is meant to prevent can be done through them by
one account. The main result is `adminOnly_quorum_iff`.
-/

namespace LedgerLens

open Host Host.Prog Storage

/-! ### What the administrators' authorisation amounts to -/

/-- A quorum of the admin set when there is one, the admin's signature otherwise. -/
def AdminAuthorized (env : ContractEnv) (w : State) : Prop :=
  if adminSet w ≠ [] ∧ 0 < adminThreshold w then
    Quorum env (· ∈ adminSet w) (adminThreshold w)
  else
    ∃ admin, adminOf w = some admin ∧ env.signed admin = true

/-- The admin signed. -/
def AdminSigned (env : ContractEnv) (w : State) : Prop :=
  ∃ admin, adminOf w = some admin ∧ env.signed admin = true

section Reflects

variable {w w' : State}

theorem adminOf_of_only (only : Only placeTag [] w w') : adminOf w' = adminOf w :=
  only.entry _ _ List.not_mem_nil

theorem adminSet_of_only (only : Only placeTag [] w w') : adminSet w' = adminSet w := by
  unfold adminSet
  rw [only.entry _ _ List.not_mem_nil]

theorem adminThreshold_of_only (only : Only placeTag [] w w') :
    adminThreshold w' = adminThreshold w := by
  unfold adminThreshold
  rw [only.entry _ _ List.not_mem_nil]

instance : Reflects AdminAuthorized (Only placeTag []) where
  back only held := by
    unfold AdminAuthorized at held ⊢
    rwa [adminOf_of_only only, adminSet_of_only only, adminThreshold_of_only only] at held

instance : Reflects AdminSigned (Only placeTag []) where
  back only held := by
    unfold AdminSigned at held ⊢
    rwa [adminOf_of_only only] at held

end Reflects

/-- One of the administrators signed. -/
def SignedByAdministrator (env : ContractEnv) (w : State) : Prop :=
  ∃ a, (adminOf w = some a ∨ a ∈ adminSet w) ∧ env.signed a = true

theorem AdminSigned.signed {env : ContractEnv} {w : State} (authorized : AdminSigned env w) :
    SignedByAdministrator env w := by
  obtain ⟨admin, isAdmin, signed⟩ := authorized
  exact ⟨admin, .inl isAdmin, signed⟩

theorem AdminAuthorized.signed {env : ContractEnv} {w : State}
    (authorized : AdminAuthorized env w) : SignedByAdministrator env w := by
  unfold AdminAuthorized at authorized
  split at authorized
  next quorate =>
    obtain ⟨a, member, signed⟩ := authorized.exists_signer quorate.2
    exact ⟨a, .inr member, signed⟩
  next => exact AdminSigned.signed authorized

/-! ### The checks -/

section Checks

variable {env : ContractEnv} {w w' : State} {u : Unit}

theorem requireSingleAdmin_ok :
    requireSingleAdmin env w = .ok u w' ↔
      ∃ admin, adminOf w = some admin ∧ env.signed admin = true ∧ admin ∉ w.authorized ∧
        { w with authorized := admin :: w.authorized } = w' := by
  simp [requireSingleAdmin, bind_ok, and_assoc]

theorem requireAdminAuth_authorized {signers : List Address}
    (ran : requireAdminAuth signers env w = .ok u w') : AdminAuthorized env w := by
  simp only [requireAdminAuth, bind_ok, loadOr_ok] at ran
  obtain ⟨_, _, ⟨rfl, rfl⟩, _, _, ⟨rfl, rfl⟩, rest⟩ := ran
  unfold AdminAuthorized
  by_cases quorate : adminSet w ≠ [] ∧ 0 < adminThreshold w
  · rw [if_pos quorate]
    rw [if_pos (by simpa using quorate)] at rest
    simp only [bind_ok, require_ok] at rest
    obtain ⟨_, _, ⟨enough, rfl⟩, _, _, ⟨_, rfl⟩, asked⟩ := rest
    obtain ⟨distinct, signed⟩ := authorizeAll_distinct asked
    refine Quorum.of_list distinct (of_decide_eq_true enough) fun a listed =>
      ⟨?_, (signed a listed).1⟩
    exact authorizeAll_eligible (fun _ a => a ∈ adminSet w)
      (fun checked => of_decide_eq_true (require_ok.mp checked).1) (fun _ member => member) asked
      a listed
  · rw [if_neg quorate]
    rw [if_neg (by simpa using quorate)] at rest
    obtain ⟨admin, isAdmin, signed, _⟩ := requireSingleAdmin_ok.mp rest
    exact ⟨admin, isAdmin, signed⟩

instance (signers : List Address) : Guarded AdminAuthorized (requireAdminAuth signers) :=
  ⟨requireAdminAuth_authorized⟩

instance : Guarded AdminSigned requireSingleAdmin where
  holds ran := by
    obtain ⟨admin, isAdmin, signed, _⟩ := requireSingleAdmin_ok.mp ran
    exact ⟨admin, isAdmin, signed⟩

end Checks

/-! ### The shapes -/

section Shapes

variable {α : Type} (signers : List Address) (check : M Unit) (change : M α)
  [Keeps (Only placeTag []) check]

instance : Guarded AdminAuthorized (asAdmins signers check change) := by
  unfold asAdmins
  infer_instance

instance (policy : Policy) : Guarded AdminAuthorized (asPolicyAdmins policy signers change) := by
  unfold asPolicyAdmins requirePolicyAuth
  infer_instance

instance : Guarded AdminAuthorized (requireDeletionAuth signers) := by
  unfold requireDeletionAuth
  infer_instance

instance : Guarded AdminSigned (asSingleAdmin check change) := by
  unfold asSingleAdmin
  infer_instance

end Shapes

/-! ### All administrative calls -/

/-- No call under the administrators' quorum returns without it. -/
theorem execAdmins_guarded (signers : List Address) (call : AdminCall) :
    Guarded AdminAuthorized (execAdmins signers call) := by
  cases call <;>
    (dsimp only [execAdmins, cancelPendingScore, resolveDisputeAdmin, clearScoreHistoryWithAudit,
      clearScoreWithAudit, setScoreHookFailureThreshold]
     infer_instance)

/-- No call under the admin's signature returns without it. -/
theorem execSoleAdmin_guarded (call : SoleAdminCall) :
    Guarded AdminSigned (execSoleAdmin call) := by
  cases call <;> (dsimp only [execSoleAdmin]; infer_instance)

/-! ### Calls by the admin alone -/

/-- The delegates of `current` lead back to the wallet within some steps. -/
def leadsBack (ledger : Ledger DataKey Val) (subWallet : Address) : Nat → Address → Bool
  | 0, _ => false
  | depth + 1, current =>
    (ledger.entry .persistent (.scoreDelegate current)).elim false fun next =>
      next = subWallet || leadsBack ledger subWallet depth next

/-- A bounded index holds the element or has room for it. -/
def hasRoom {α : Type} [DecidableEq α] (index : List α) (a : α) (bound : Nat) : Bool :=
  a ∈ index || index.length < bound

section Wp

variable {env : ContractEnv} {w : State}

@[simp] theorem wp_rejectCycle {Q : Unit → State → Prop} (subWallet : Address) (depth : Nat)
    (current : Address) :
    wp (rejectCycle subWallet depth current) Q env w ↔
      leadsBack w.ledger subWallet depth current = false ∧ Q () w := by
  induction depth generalizing current with
  | zero => simp [rejectCycle, leadsBack]
  | succ depth ih =>
    unfold rejectCycle leadsBack
    simp only [wp_bind, wp_load]
    cases w.ledger.entry .persistent (.scoreDelegate current) with
    | none => simp [ifSome]
    | some next => simp [ifSome, ih, and_assoc]

@[simp] theorem wp_isEmbargoed {Q : Bool → State → Prop} (wallet : Address) :
    wp (isEmbargoed wallet) Q env w ↔
      Q ((w.ledger.entry .temporary (.scoreEmbargo wallet)).elim false
        (EmbargoExpiry.activeAt · env.timestamp)) w := by
  simp [isEmbargoed]

@[simp] theorem wp_addToPausedIndex (pair : Symbol) :
    wp (addToPausedIndex pair) (fun entered _ => entered = true) env w ↔
      hasRoom ((w.ledger.entry .persistent .pausedPairIndex).getD []) pair maxPausedPairs := by
  simp only [addToPausedIndex, hasRoom, wp_bind, wp_loadOr, wp_ite, wp_pure, wp_save]
  split <;> simp [*]

@[simp] theorem wp_addToEmbargoedIndex (wallet : Address) :
    wp (addToEmbargoedIndex wallet) (fun entered _ => entered = true) env w ↔
      hasRoom ((w.ledger.entry .temporary .embargoedWalletIndex).getD []) wallet
        maxEmbargoedWallets := by
  simp only [addToEmbargoedIndex, hasRoom, wp_bind, wp_loadOr, wp_ite, wp_pure, wp_save]
  split <;> simp [*]

end Wp

/-- The arguments a call by the admin alone accepts. -/
def soleAdminAccepts (env : ContractEnv) (w : State) : SoleAdminCall → Prop
  | .setHysteresisMargin margin =>
    margin ≤ maxHysteresisMargin ∧
      margin < (w.ledger.entry .inst .riskThreshold).getD defaultRiskThreshold
  | .setGlobalMinConfidence minConfidence => minConfidence ≤ 100
  | .setDecayRate numerator denominator =>
    paused w = false ∧ decayRateValid numerator denominator = true
  | .setConsensusConfig k epsilon => k ≠ 0 ∧ epsilon ≤ 100
  | .setRevealWindow secs => secs ≤ maxRevealWindowSecs
  | .setPairPaused pair paused =>
    paused = true → pairPaused w pair = false →
      hasRoom ((w.ledger.entry .persistent .pausedPairIndex).getD []) pair maxPausedPairs
  | .setScoreEmbargo wallet _ =>
    (w.ledger.entry .temporary (.scoreEmbargo wallet)).elim false
        (EmbargoExpiry.activeAt · env.timestamp) = false →
      hasRoom ((w.ledger.entry .temporary .embargoedWalletIndex).getD []) wallet
        maxEmbargoedWallets
  | .setScoreDelegate subWallet custodian =>
    custodian ≠ subWallet ∧ leadsBack w.ledger subWallet maxDelegationDepth custodian = false
  | .removeScoreDelegate subWallet =>
    (w.ledger.entry .persistent (.scoreDelegate subWallet)).isSome
  | _ => True

/-- Such a call returns exactly when the admin signs and the arguments are
accepted. -/
theorem execSoleAdmin_returns {env : ContractEnv} {w : State} (call : SoleAdminCall) :
    wp (execSoleAdmin call) (fun _ _ => True) env w ↔
      (∃ admin, adminOf w = some admin ∧ env.signed admin = true ∧ admin ∉ w.authorized) ∧
        soleAdminAccepts env w call := by
  rcases isAdmin : adminOf w with _ | admin
  · cases call <;> simp [execSoleAdmin, asSingleAdmin, isAdmin]
  · cases call <;>
      simp [execSoleAdmin, asSingleAdmin, requireSingleAdmin, soleAdminAccepts, isAdmin,
        appendGovernanceAction]
    case setPairPaused pair paused =>
      cases paused <;> simp [removeFromPausedIndex]
    case liftScoreEmbargo wallet =>
      simp [removeFromEmbargoedIndex, decrementActiveEmbargoCount]
    all_goals tauto

/-! ### The quorum of the administrators -/

/-- The call is reserved for the administrators. The two calls of the
architecture owner are, as long as there is none. -/
def adminOnly (w : State) : Call → Prop
  | .admins .. | .soleAdmin _ => True
  | .user (.setArchOwner _) | .user (.setMandatoryReviewers _) => archOwner w = none
  | .user _ => False

def underQuorum : Call → Bool
  | .admins .. => true
  | .user _ | .soleAdmin _ => false

/-- The arguments of a call reserved for the admin are accepted. -/
def adminAccepts (env : ContractEnv) (w : State) : Call → Prop
  | .soleAdmin call => soleAdminAccepts env w call
  | .user (.setMandatoryReviewers reviewers) =>
    reviewers.length ≤ maxMandatoryReviewers ∧ reviewers.Nodup
  | _ => True

/-- Outside the quorum the admin's signature is all that is asked for. -/
theorem adminOnly_returns {w : State} {call : Call} (env : ContractEnv)
    (only : adminOnly w call) (alone : underQuorum call = false) :
    Returns exec w ⟨env, call⟩ ↔ AdminSigned env w ∧ adminAccepts env w call := by
  unfold Returns AdminSigned
  match call, only, alone with
  | .soleAdmin call, _, _ =>
    dsimp only [exec, adminAccepts]
    rw [execSoleAdmin_returns]
    simp [soleAdminAccepts]
  | .user (.setArchOwner owner), noOwner, _ =>
    have noOwner : archOwner w = none := noOwner
    simp [exec, execUser, adminAccepts, setArchOwner, requireArchOwner, requireSingleAdmin, noOwner]
  | .user (.setMandatoryReviewers reviewers), noOwner, _ =>
    have noOwner : archOwner w = none := noOwner
    simp [exec, execUser, adminAccepts, setMandatoryReviewers, requireArchOwner,
      requireSingleAdmin, noOwner, and_assoc]
    constructor
    · rintro ⟨admin, isAdmin, signed, valid⟩
      exact ⟨⟨admin, isAdmin, signed⟩, valid⟩
    · rintro ⟨⟨admin, isAdmin, signed⟩, valid⟩
      exact ⟨admin, isAdmin, signed, valid⟩

/-- Whoever signs, a call reserved for the administrators returns only with the
quorum of the admin set: this holds exactly for the calls under the quorum, for
arguments that are refused anyway, and when the admin is a quorum of its own. -/
theorem adminOnly_quorum_iff {w : State} {call : Call} (env : ContractEnv)
    (only : adminOnly w call) (nonempty : adminSet w ≠ []) (positive : 0 < adminThreshold w) :
    (∀ signed, Returns exec w ⟨{ env with signed }, call⟩ →
        Quorum { env with signed } (· ∈ adminSet w) (adminThreshold w)) ↔
      underQuorum call = true ∨ ¬ adminAccepts env w call ∨
        ∀ admin, adminOf w = some admin → adminThreshold w = 1 ∧ admin ∈ adminSet w := by
  by_cases guarded : underQuorum call = true
  · refine ⟨fun _ => .inl guarded, fun _ signed ran => ?_⟩
    match call, guarded with
    | .admins signers call, _ =>
      obtain ⟨_, _, ran, _⟩ := ran
      have authorized := (execAdmins_guarded signers call).holds ran
      unfold AdminAuthorized at authorized
      rwa [if_pos ⟨nonempty, positive⟩] at authorized
  · have alone : underQuorum call = false := by simpa using guarded
    have returns (signed : Address → Bool) :=
      adminOnly_returns { env with signed } only alone
    constructor
    · -- the admin's signature alone makes an accepted call return
      intro quorate
      refine .inr (Classical.or_iff_not_imp_left.mpr fun accepted admin isAdmin => ?_)
      have ran := (returns fun a => a = admin).mpr
        ⟨⟨admin, isAdmin, by simp⟩, not_not.mp accepted⟩
      exact (quorate _ ran).of_lone_signer positive fun b signed => by simpa using signed
    · rintro (quorum | refused | lone) signed ran
      · exact absurd quorum guarded
      · exact absurd ((returns signed).mp ran).2 refused
      · obtain ⟨admin, isAdmin, signs⟩ := ((returns signed).mp ran).1
        obtain ⟨one, member⟩ := lone admin isAdmin
        rw [one]
        exact Quorum.of_one member signs

/-- Two administrators, both of whom are needed. -/
def dualAdmins : State :=
  run exec deployed
    [adminSample (.addAdminSigner (account 1)), adminSample (.addAdminSigner (account 3)),
     ⟨sampleEnv [account 1, account 3], .admins [account 1] (.setAdminThreshold 2)⟩]

theorem dualAdmins_adminSet : adminSet dualAdmins = [account 1, account 3] := by decide +kernel

theorem dualAdmins_adminThreshold : adminThreshold dualAdmins = 2 := by decide +kernel

/-- The service account is replaced with one of the two signatures. -/
theorem setService_by_one_of_two : Returns exec dualAdmins (soleSample (.setService (account 9))) ∧
      ¬ Quorum (sampleEnv [account 1]) (· ∈ adminSet dualAdmins) (adminThreshold dualAdmins) := by
  constructor
  · have only : adminOnly dualAdmins (.soleAdmin (.setService (account 9))) := trivial
    refine (adminOnly_returns _ only rfl).mpr ⟨⟨account 1, ?_, rfl⟩, trivial⟩
    decide +kernel
  · intro quorum
    rw [dualAdmins_adminThreshold] at quorum
    have lone := quorum.of_lone_signer (a := account 1) (by decide) fun b signed => by
      simpa [sampleEnv] using signed
    exact absurd lone.1 (by decide)

/-- Both together pause the contract, and are a quorum. -/
theorem pause_by_both_of_two :
    Returns exec dualAdmins
        ⟨sampleEnv [account 1, account 3], .admins [account 1, account 3] .pause⟩ ∧
      Quorum (sampleEnv [account 1, account 3]) (· ∈ adminSet dualAdmins)
        (adminThreshold dualAdmins) := by
  have ran : Returns exec dualAdmins
      ⟨sampleEnv [account 1, account 3], .admins [account 1, account 3] .pause⟩ :=
    returns_of_isOk (by decide +kernel)
  have only : adminOnly dualAdmins (.admins [account 1, account 3] .pause) := trivial
  refine ⟨ran, (adminOnly_quorum_iff (sampleEnv []) only ?_ ?_).mpr (.inl rfl) _ ran⟩
  · rw [dualAdmins_adminSet]
    decide
  · rw [dualAdmins_adminThreshold]
    decide

end LedgerLens
