import LedgerLens.Host.Quorum
import LedgerLens.Score.Policy

/-!
Who may do what: the quorum of the service set, the quorum of the admin set,
the extra approvers of single policies, and the audit root that records
administrative actions.
-/

namespace LedgerLens

open Host Host.Prog Storage

/-! ### Service signers -/

abbrev getSignerAge (signer : Address) : M (Option Nat) := do
  let addedAt ← fetch .inst (.signerAddedAt signer)
  let time ← now
  return addedAt.map fun added => time - added

/-- Reject a signer whose key is older than its time to live plus the grace
period. Signers without a recorded age never expire. -/
def checkSignerExpired (signer : Address) : M Unit := do
  let ttl ← getSignerRotationTtl
  whenever (ttl ≠ 0) do
    ifSome (← getSignerAge signer) fun age => do
      let grace ← getSignerGracePeriod
      if age - ttl > grace then do
        emit (.signerExpired signer)
        throw .unauthorizedSigner
      else
        whenever (age > ttl) (emit (.signerExpiring signer))

/-- Membership and expiry of one service signer. -/
def checkServiceSigner (serviceSet : List Address) (signer : Address) : M Unit := do
  require (signer ∈ serviceSet) .unauthorizedSigner
  checkSignerExpired signer

/-- The quorum check of the consensus entry points. -/
def authorizeSubmission (signers : List Address) : M Unit := do
  let serviceSet ← getServiceSet
  let threshold ← getServiceThreshold
  if !serviceSet.isEmpty ∧ threshold > 0 then do
    require (signers.length ≥ threshold) .insufficientSigners
    authorizeAll (checkServiceSigner serviceSet) signers
  else
    getService >>= requireAuth

/-- As `authorizeSubmission`, but with a bound on the number of signers. -/
def requireServiceSignersAuth (signers : List Address) : M Unit := do
  let serviceSet ← getServiceSet
  let threshold ← getServiceThreshold
  if !serviceSet.isEmpty ∧ threshold > 0 then do
    require (signers.length ≥ threshold) .insufficientSigners
    require (signers.length ≤ serviceSet.length) .tooManySigners
    authorizeAll (checkServiceSigner serviceSet) signers
  else
    getService >>= requireAuth

/-! ### Administrators -/

section

variable {α : Type} (adminSigners : List Address) (check : M Unit) (change : M α)

/-- M-of-N authorisation by the admin set, or by the admin when there is no set. -/
def requireAdminAuth : M Unit := do
  let adminSet ← getAdminSet
  let threshold ← getAdminThreshold
  if !adminSet.isEmpty ∧ threshold > 0 then do
    require (adminSigners.length ≥ threshold) .insufficientAdminSigners
    require (adminSigners.length ≤ adminSet.length) .tooManySigners
    authorizeAll (fun signer => require (signer ∈ adminSet) .adminSignerNotInSet) adminSigners
  else
    getAdmin >>= requireAuth

/-- The authorisation of the entry points outside the quorum: the admin alone. -/
def requireSingleAdmin : M Unit := getAdmin >>= requireAuth

/-- An approver must be someone other than the administrators. -/
def approverConflictsWithAdmin (approver : Address) : M Bool := do
  let admin ← getAdmin
  let adminSet ← getAdminSet
  return admin = approver || approver ∈ adminSet

/-- The second approval, when one is switched on. -/
def requireApprover (enabled : Bool) (approver : Option Address) : M Unit :=
  whenever enabled do
    let approver ← okOr approver .unauthorized
    require (!(← approverConflictsWithAdmin approver)) .unauthorized
    requireAuth approver

def requirePolicyAuth (policy : Policy) (adminSigners : List Address) : M Unit := do
  requireAdminAuth adminSigners
  let approval ← getPolicyApproval policy
  requireApprover approval.enabled approval.approver

def requireDeletionAuth : M Unit := do
  requireAdminAuth adminSigners
  let policy ← getDeletionApprovalPolicy
  requireApprover policy.enabled policy.approver

/-! ### The shape of administrative entry points -/

/-- The contract is initialised, the arguments are valid, the administrators
authorise, the change is made. -/
def asAdmins : M α := do
  require (← hasAdmin) .notInitialized
  check
  requireAdminAuth adminSigners
  change

/-- As `asAdmins`, with the approver of the policy besides the administrators. -/
def asPolicyAdmins (policy : Policy) (adminSigners : List Address) (change : M α) : M α := do
  require (← hasAdmin) .notInitialized
  requirePolicyAuth policy adminSigners
  change

/-- As `asAdmins`, but the admin authorises alone, whatever the admin set is. -/
def asSingleAdmin : M α := do
  require (← hasAdmin) .notInitialized
  check
  requireSingleAdmin
  change

end

/-! ### Audit root -/

abbrev getAdminAuditRoot : M (BytesN 32) :=
  fetchOr .inst .adminAuditRoot ⟨List.replicate 32 0, by decide⟩

/-- Chain the ledger time and number into the audit root. The action, its actor
and its parameters are not hashed. -/
def updateAuditRoot : M Unit := do
  let oldRoot ← getAdminAuditRoot
  let time ← now
  let sequence ← ledgerSequence
  store .inst .adminAuditRoot (← sha256 (oldRoot.1 ++ toLeBytes 8 time ++ toLeBytes 4 sequence))

/-- Chain the data of an action into the audit root. -/
def appendGovernanceAction (data : Bytes) : M Unit := do
  let oldRoot ← getAdminAuditRoot
  store .inst .adminAuditRoot (← sha256 (oldRoot.1 ++ data))

/-- Action data: the action's number in front, a `u32` at the end. -/
def governanceData (action : UInt8) (value : Nat) : Bytes :=
  [action] ++ List.replicate 27 0 ++ toBeBytes 4 value

/-! ### Footprints -/

section Footprints

variable (signer : Address) (signers : List Address)

instance : Touches (checkSignerExpired signer) [] :=
  ⟨by unfold checkSignerExpired; infer_instance⟩

instance (serviceSet : List Address) : Touches (checkServiceSigner serviceSet signer) [] :=
  ⟨by unfold checkServiceSigner; infer_instance⟩

instance : Touches (authorizeSubmission signers) [.authorizations] :=
  ⟨by unfold authorizeSubmission authorizeAll; infer_instance⟩

instance : Touches (requireServiceSignersAuth signers) [.authorizations] :=
  ⟨by unfold requireServiceSignersAuth authorizeAll; infer_instance⟩

instance : Touches (requireAdminAuth signers) [.authorizations] :=
  ⟨by unfold requireAdminAuth authorizeAll; infer_instance⟩

instance : Touches requireSingleAdmin [.authorizations] :=
  ⟨by unfold requireSingleAdmin; infer_instance⟩

instance : Touches (approverConflictsWithAdmin signer) [] :=
  ⟨by unfold approverConflictsWithAdmin; infer_instance⟩

instance (enabled : Bool) (approver : Option Address) : Touches (requireApprover enabled approver)
    [.authorizations] :=
  ⟨by unfold requireApprover; infer_instance⟩

instance (policy : Policy) : Touches (requirePolicyAuth policy signers) [.authorizations] :=
  ⟨by unfold requirePolicyAuth; infer_instance⟩

instance : Touches (requireDeletionAuth signers) [.authorizations] :=
  ⟨by unfold requireDeletionAuth; infer_instance⟩

section Shapes

variable {α : Type} {ts : List Tag} (check : M Unit) (change : M α) [Listed .authorizations ts]
  [Keeps (Only placeTag ts) check] [Keeps (Only placeTag ts) change]

instance : Keeps (Only placeTag ts) (asAdmins signers check change) := by
  unfold asAdmins
  infer_instance

omit [Keeps (Only placeTag ts) check] in
instance (policy : Policy) : Keeps (Only placeTag ts) (asPolicyAdmins policy signers change) := by
  unfold asPolicyAdmins
  infer_instance

instance : Keeps (Only placeTag ts) (asSingleAdmin check change) := by
  unfold asSingleAdmin
  infer_instance

end Shapes

instance : Touches updateAuditRoot [.adminAuditRoot] := ⟨by unfold updateAuditRoot; infer_instance⟩

instance (data : Bytes) : Touches (appendGovernanceAction data) [.adminAuditRoot] :=
  ⟨by unfold appendGovernanceAction; infer_instance⟩

end Footprints

variable {α : Type} {signers : List Address} {check : M Unit} {change : M α} {env : ContractEnv}
  {w w' : State}

/-- Noting authorisations changes nothing that is stored. -/
theorem ledger_eq_of_authorizations (only : Only placeTag [.authorizations] w w') :
    w'.ledger = w.ledger :=
  Ledger.ext fun d k => only.entry d k fun listed =>
    absurd (List.mem_singleton.mp listed) (by cases k <;> nofun)

/-- What happened in an administrative call that returned: the check passed, the
authorisations were noted, the change was made. -/
theorem asAdmins_ok {a : α} (ran : asAdmins signers check change env w = .ok a w') :
    ∃ v v', check env w = .ok () v ∧ (v'.ledger = v.ledger ∧ v'.balance = v.balance) ∧
      change env v' = .ok a w' := by
  obtain ⟨_, _, known, ran⟩ := bind_ok.mp ran
  obtain ⟨_, ran⟩ := require_bind_ok.mp ran
  obtain ⟨⟨⟩, v, checked, ran⟩ := bind_ok.mp ran
  obtain ⟨_, v', authorized, changed⟩ := bind_ok.mp ran
  obtain ⟨_, rfl⟩ := has_ok.mp known
  have only : Only placeTag [.authorizations] v v' := Keeps.ok authorized
  exact ⟨v, v', checked, ⟨ledger_eq_of_authorizations only, only.balance (by simp)⟩, changed⟩

/-- As `asAdmins_ok`, for calls that a policy covers. -/
theorem asPolicyAdmins_ok {policy : Policy} {a : α}
    (ran : asPolicyAdmins policy signers change env w = .ok a w') :
    ∃ v, (v.ledger = w.ledger ∧ v.balance = w.balance) ∧ change env v = .ok a w' := by
  obtain ⟨_, _, known, ran⟩ := bind_ok.mp ran
  obtain ⟨_, ran⟩ := require_bind_ok.mp ran
  obtain ⟨_, v, authorized, changed⟩ := bind_ok.mp ran
  obtain ⟨_, rfl⟩ := has_ok.mp known
  have only : Only placeTag [.authorizations] w v := Keeps.ok authorized
  exact ⟨v, ⟨ledger_eq_of_authorizations only, only.balance (by simp)⟩, changed⟩

/-- As `asAdmins_ok`, for calls of the admin alone. -/
theorem asSingleAdmin_ok {a : α} (ran : asSingleAdmin check change env w = .ok a w') :
    ∃ v v', check env w = .ok () v ∧ (v'.ledger = v.ledger ∧ v'.balance = v.balance) ∧
      change env v' = .ok a w' := by
  obtain ⟨_, _, known, ran⟩ := bind_ok.mp ran
  obtain ⟨_, ran⟩ := require_bind_ok.mp ran
  obtain ⟨⟨⟩, v, checked, ran⟩ := bind_ok.mp ran
  obtain ⟨_, v', authorized, changed⟩ := bind_ok.mp ran
  obtain ⟨_, rfl⟩ := has_ok.mp known
  have only : Only placeTag [.authorizations] v v' := Keeps.ok authorized
  exact ⟨v, v', checked, ⟨ledger_eq_of_authorizations only, only.balance (by simp)⟩, changed⟩

end LedgerLens
