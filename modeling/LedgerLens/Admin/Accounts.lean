import LedgerLens.Auth
import LedgerLens.Score.Derived

/-!
Accounts and keys: who the admin, the service and their signers are, which keys
attestations are checked against, and who approves besides the administrators.
-/

namespace LedgerLens

open Host Host.Prog Storage

variable (adminSigners : List Address)

abbrev govActionSetService : UInt8 := 0x01
abbrev govActionAddServiceSigner : UInt8 := 0x02
abbrev govActionSetAdminThreshold : UInt8 := 0x03

/-! ### The admin -/

def initializeContract (admin service : Address) : M Unit := do
  require (!(← hasAdmin)) .alreadyInitialized
  requireAuth admin
  store .inst .admin admin
  store .inst .service service
  store .inst .adminAuditRoot zero32

abbrev transferAdmin (newAdmin : Address) : M Unit :=
  asAdmins adminSigners (pure ()) (store .inst .pendingAdmin newAdmin)

def acceptAdmin : M Unit := do
  require (← hasAdmin) .notInitialized
  let pending ← okOr (← fetch .inst .pendingAdmin) .noPendingAdminTransfer
  requireAuth pending
  store .inst .admin pending
  remove .inst .pendingAdmin

abbrev cancelAdminTransfer : M Unit :=
  asAdmins adminSigners
    (do require (← stored .inst .pendingAdmin) .noPendingAdminTransfer)
    (remove .inst .pendingAdmin)

/-! ### The admin set -/

section

variable (signer : Address)

abbrev addAdminSigner : M Unit :=
  asPolicyAdmins .signerAdmin adminSigners do
    let set ← getAdminSet
    require (set.length < maxAdminSigners) .adminSetFull
    require (signer ∉ set) .signerAlreadyInSet
    store .inst .adminSet (set ++ [signer])
    remove .inst .upgradeApprovals

/-- The threshold follows a set that becomes smaller than it. -/
abbrev removeAdminSigner : M Unit :=
  asPolicyAdmins .signerAdmin adminSigners do
    let set ← getAdminSet
    require (signer ∈ set) .adminSignerNotInSet
    let rest := set.erase signer
    store .inst .adminSet rest
    let threshold ← getAdminThreshold
    whenever (rest.isEmpty || threshold > rest.length) do
      store .inst .adminThreshold rest.length
    remove .inst .upgradeApprovals

abbrev setAdminThreshold (threshold : Nat) : M Unit :=
  asPolicyAdmins .signerAdmin adminSigners do
    let set ← getAdminSet
    require (threshold ≠ 0 ∧ threshold ≤ set.length) .invalidThreshold
    store .inst .adminThreshold threshold
    appendGovernanceAction (governanceData govActionSetAdminThreshold threshold)

/-! ### The service and its signers -/

abbrev setService (newService : Address) : M Unit :=
  asSingleAdmin (pure ()) do
    store .inst .service newService
    appendGovernanceAction (governanceData govActionSetService 0)

/-- Note who put a signer into its state, and when. -/
def recordSignerState (state : SignerState) : M Unit := do
  store .persistent (.signerState signer)
    { signer, state, stateChangedAt := ← now, stateChangedBy := ← getAdmin }

abbrev addServiceSigner : M Unit :=
  asAdmins adminSigners (pure ()) do
    let set ← getServiceSet
    require (set.length < maxServiceSigners) .serviceSetFull
    require (signer ∉ set) .signerAlreadyInSet
    store .inst .serviceSet (set ++ [signer])
    store .inst (.signerAddedAt signer) (← now)
    recordSignerState signer .pending
    appendGovernanceAction (governanceData govActionAddServiceSigner 0)

abbrev removeServiceSigner : M Unit :=
  asAdmins adminSigners (pure ()) do
    let set ← getServiceSet
    require (signer ∈ set) .signerNotInSet
    let rest := set.erase signer
    store .inst .serviceSet rest
    let threshold ← getServiceThreshold
    whenever (rest.isEmpty || threshold > rest.length) do
      store .inst .serviceThreshold rest.length
    remove .inst (.signerAddedAt signer)
    recordSignerState signer .revoked

abbrev setServiceThreshold (threshold : Nat) : M Unit :=
  asAdmins adminSigners (pure ()) do
    let set ← getServiceSet
    require (threshold ≠ 0 ∧ threshold ≤ set.length) .invalidThreshold
    store .inst .serviceThreshold threshold

abbrev setSignerTier (minScore maxScore : Nat) : M Unit :=
  asAdmins adminSigners
    (require (minScore ≤ 100 ∧ maxScore ≤ 100 ∧ minScore ≤ maxScore) .invalidScore)
    (store .inst (.signerTier signer) { minScore, maxScore })

abbrev bulkSetSignerTier (entries : List (Address × Nat × Nat)) : M Unit :=
  asAdmins adminSigners (require (entries.length ≤ maxBatchSize) .batchTooLarge) do
    let serviceSet ← getServiceSet
    each entries fun entry => do
      require (entry.2.1 ≤ entry.2.2) .invalidThreshold
      require (entry.1 ∈ serviceSet) .signerNotInSet
      store .inst (.signerTier entry.1) { minScore := entry.2.1, maxScore := entry.2.2 }

abbrev setSignerRotationTtl (ttlSecs : Nat) : M Unit :=
  asAdmins adminSigners (pure ()) (store .inst .signerTtl ttlSecs)

abbrev setSignerRotationGrace (graceSecs : Nat) : M Unit :=
  asAdmins adminSigners (pure ()) (store .inst .signerGracePeriod graceSecs)

abbrev resetSignerAccuracy : M Unit :=
  asAdmins adminSigners (pure ()) (remove .inst (.signerAccuracy signer))

end

def pingHeartbeat : M Unit := do
  require (← hasAdmin) .notInitialized
  getService >>= requireAuth
  recordServiceActivity

/-! ### Service keys -/

/-- Compressed or uncompressed, with the marker byte of its form. -/
def validatePubkeyFormat (pubkey : Bytes) : Bool :=
  (pubkey.length = 33 && (pubkey.head? = some 0x02 || pubkey.head? = some 0x03)) ||
    (pubkey.length = 65 && pubkey.head? = some 0x04)

abbrev setServicePubkey (pubkey : Bytes) : M Unit :=
  asAdmins adminSigners (require (validatePubkeyFormat pubkey) .invalidPubkeyLength)
    (store .inst .servicePubKey pubkey)

/-- With an overlap the new key waits beside the old one. -/
abbrev rotateServicePubkey (newKey : Bytes) (overlapSecs : Nat) : M Unit :=
  asAdmins adminSigners
    (do
      require (validatePubkeyFormat newKey) .invalidPubkeyLength
      require (overlapSecs ≤ maxKeyOverlapSecs) .invalidKeyOverlap)
    (do
      remove .inst .pendingServicePubKey
      if overlapSecs = 0 then store .inst .servicePubKey newKey
      else store .inst .pendingServicePubKey (newKey, satAdd64 (← now) overlapSecs))

/-- Aggregate keys are checked by their length only. -/
def aggregatePubkeyLengthValid (pubkey : Bytes) : Bool := pubkey.length = 33 || pubkey.length = 65

abbrev setAggregateServicePubkey (pubkey : Bytes) : M Unit :=
  asAdmins adminSigners (require (aggregatePubkeyLengthValid pubkey) .invalidPubkeyLength)
    (store .inst .aggregateServicePubKey pubkey)

abbrev rotateAggregateServicePubkey (newKey : Bytes) (overlapSecs : Nat) : M Unit :=
  asAdmins adminSigners
    (do
      require (aggregatePubkeyLengthValid newKey) .invalidPubkeyLength
      require (overlapSecs ≤ maxKeyOverlapSecs) .invalidKeyOverlap)
    (do
      remove .inst .pendingAggregateServicePubKey
      if overlapSecs = 0 then store .inst .aggregateServicePubKey newKey
      else store .inst .pendingAggregateServicePubKey (newKey, satAdd64 (← now) overlapSecs))

abbrev getRevokedKeyIndex : M (List (BytesN 32)) := fetchOr .inst .revokedKeyIndex []

/-- A second revocation can only bring the first one forward. -/
abbrev setRevokedKey (fingerprint : BytesN 32) (effectiveFrom reasonCode : Nat)
    (revokingAuthority : Address) : M Unit :=
  asAdmins adminSigners (pure ()) do
    let new : RevokedKeyRecord := { fingerprint, effectiveFrom, reasonCode, revokingAuthority }
    let record := (← fetch .inst (.revokedKey fingerprint)).getD new
    store .inst (.revokedKey fingerprint)
      (if effectiveFrom < record.effectiveFrom then
        { record with effectiveFrom, reasonCode, revokingAuthority }
      else record)
    let index ← getRevokedKeyIndex
    whenever (fingerprint ∉ index) (store .inst .revokedKeyIndex (index ++ [fingerprint]))

abbrev clearRevokedKey (fingerprint : BytesN 32) : M Unit :=
  asAdmins adminSigners (pure ()) do
    remove .inst (.revokedKey fingerprint)
    let index ← getRevokedKeyIndex
    whenever (fingerprint ∈ index) do
      let rest := index.erase fingerprint
      if rest.isEmpty then remove .inst .revokedKeyIndex
      else store .inst .revokedKeyIndex rest

/-! ### Approvers and reviewers -/

/-- An approval that is switched on needs an approver who is no administrator. -/
def checkApprover (enabled : Bool) (approver : Option Address) : M Unit :=
  whenever enabled do
    let approver ← okOr approver .invalidThreshold
    require (!(← approverConflictsWithAdmin approver)) .invalidThreshold

abbrev setDeletionApprovalPolicy (enabled : Bool) (approver : Option Address) : M Unit :=
  asAdmins adminSigners (pure ()) do
    checkApprover enabled approver
    store .inst .deletionPolicyEnabled enabled
    storeOption .inst .deletionApprover approver

abbrev setPolicyApproval (policy : Policy) (enabled : Bool) (approver : Option Address) : M Unit :=
  asAdmins adminSigners (require (policy ≠ .dataDeletion) .invalidPolicy) do
    checkApprover enabled approver
    store .inst (.policyApprovalEnabled policy) enabled
    storeOption .inst (.policyApprovalApprover policy) approver

abbrev getArchOwner : M (Option Address) := fetch .inst .archOwner

/-- The architecture owner, or the admin as long as there is none. -/
def requireArchOwner : M Unit := do
  (← getArchOwner).elim requireSingleAdmin requireAuth

def setArchOwner (newOwner : Address) : M Unit := do
  requireArchOwner
  store .inst .archOwner newOwner

def setMandatoryReviewers (reviewers : List Address) : M Unit := do
  requireArchOwner
  require (reviewers.length ≤ maxMandatoryReviewers) .maxReviewersExceeded
  require (decide reviewers.Nodup) .reviewerAlreadyExists
  store .inst .mandatoryReviewers reviewers

/-! ### Footprints -/

section Footprints

set_option synthInstance.maxSize 100000000

instance (admin service : Address) : Touches (initializeContract admin service)
    [.authorizations, .admin, .service, .adminAuditRoot] :=
  ⟨by unfold initializeContract; infer_instance⟩

instance : Touches acceptAdmin [.authorizations, .admin, .pendingAdmin] :=
  ⟨by unfold acceptAdmin; infer_instance⟩

instance (signer : Address) (state : SignerState) : Touches (recordSignerState signer state)
    [.signerState] :=
  ⟨by unfold recordSignerState; infer_instance⟩

instance : Touches pingHeartbeat
    [.authorizations, .serviceSilentAlertEmitted, .lastServiceActivityAt] :=
  ⟨by unfold pingHeartbeat; infer_instance⟩

instance (enabled : Bool) (approver : Option Address) : Touches (checkApprover enabled approver)
    [] :=
  ⟨by unfold checkApprover; infer_instance⟩

instance : Touches requireArchOwner [.authorizations] :=
  ⟨by unfold requireArchOwner; infer_instance⟩

instance (owner : Address) : Touches (setArchOwner owner) [.authorizations, .archOwner] :=
  ⟨by unfold setArchOwner; infer_instance⟩

instance (reviewers : List Address) : Touches (setMandatoryReviewers reviewers)
    [.authorizations, .mandatoryReviewers] :=
  ⟨by unfold setMandatoryReviewers; infer_instance⟩

end Footprints

end LedgerLens
