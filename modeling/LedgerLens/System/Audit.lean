import LedgerLens.Host.HashChain
import LedgerLens.System.Solvency
import LedgerLens.System.Upgrades

/-!
The audit root. Every audited action chains a record to it, and the root gives
the records away; but most records say when an action was taken and not which,
and the others at most what was set and not by whom. The main result is `audit_root_binds_iff`.
-/

namespace LedgerLens

open Host Host.Prog Storage

/-! ### The trail -/

/-- The actions that are audited, with their parameters. -/
inductive GovernanceAction where
  | pause
  | unpause
  | freeze
  | unfreeze
  | snapshot
  | setService (newService : Address)
  | addServiceSigner (signer : Address)
  | setAdminThreshold (threshold : Nat)
  | proposeUpgrade (newWasmHash : BytesN 32)
  deriving DecidableEq

/-- An action and the administrator in whose name it is taken. -/
structure AuditEntry where
  action : GovernanceAction
  actor : Option Address
  deriving DecidableEq

/-- What says only when something was done. -/
def ledgerRecord (env : ContractEnv) : Bytes :=
  toLeBytes 8 env.timestamp ++ toLeBytes 4 env.sequence

/-- The records of an action. A proposal of an upgrade has two. -/
def GovernanceAction.records (env : ContractEnv) : GovernanceAction → List Bytes
  | pause | unpause | freeze | unfreeze | snapshot => [ledgerRecord env]
  | setService _ => [governanceData govActionSetService 0]
  | addServiceSigner _ => [governanceData govActionAddServiceSigner 0]
  | setAdminThreshold threshold => [governanceData govActionSetAdminThreshold threshold]
  | proposeUpgrade newWasmHash => [newWasmHash.1, ledgerRecord env]

/-- The signers complete the approvals of an upgrade, or none are needed. -/
def upgradeApproved (w : State) (signers : List Address) : Bool :=
  let adminSet := (w.ledger.entry .inst .adminSet).getD []
  let threshold := (w.ledger.entry .inst .adminThreshold).getD 0
  let approvals := collectApprovals ((w.ledger.entry .inst .upgradeApprovals).getD []) signers
  ¬ ((!adminSet.isEmpty ∧ threshold > 0) ∧ approvals.length < threshold)

/-- The action a call takes if it returns. -/
def actionOf (w : State) : Call → Option GovernanceAction
  | .admins _ .pause => some .pause
  | .admins _ .unpause => some .unpause
  | .admins _ .freezeContract => some .freeze
  | .admins _ .unfreezeContract => some .unfreeze
  | .admins _ .computeStateChecksum => some .snapshot
  | .admins _ (.addServiceSigner signer) => some (.addServiceSigner signer)
  | .admins _ (.setAdminThreshold threshold) => some (.setAdminThreshold threshold)
  | .admins signers (.proposeUpgrade newWasmHash) =>
    if upgradeApproved w signers then some (.proposeUpgrade newWasmHash) else none
  | .soleAdmin (.setService newService) => some (.setService newService)
  | _ => none

def audited (w : State) (tx : Transaction) : Option GovernanceAction :=
  if Returns exec w tx then actionOf w tx.call else none

/-- The audited actions of a run, in order. -/
def auditTrail (w : State) (txs : List Transaction) : List AuditEntry :=
  (trace exec (fun w tx => (audited w tx).map fun action => ⟨action, adminOf w⟩) w txs).filterMap id

/-- Everything that is chained to the root in a run. -/
def auditRecords (w : State) (txs : List Transaction) : List Bytes :=
  (trace exec (fun w tx => (audited w tx).elim [] (·.records tx.env)) w txs).flatten

def auditRoot (w : State) : BytesN 32 := (w.ledger.entry .inst .adminAuditRoot).getD zero32

@[reducible] def Tag.isAuditRoot : Tag → Bool
  | .adminAuditRoot => true
  | _ => false

section Steps

variable {env : ContractEnv} {w w' : State} {signers : List Address} {u : Unit}

theorem auditRoot_of_ledger {v : State} (same : v.ledger = w.ledger) :
    auditRoot v = auditRoot w := by
  rw [auditRoot, same, auditRoot]

theorem updateAuditRoot_chains (ran : updateAuditRoot env w = .ok u w') :
    auditRoot w' = HashChain.extend env.crypto.sha256 (auditRoot w) [ledgerRecord env] := by
  simp only [updateAuditRoot, ok_iff_wp, wp_bind, wp_loadOr, wp_asks, wp_save] at ran
  obtain ⟨-, rfl⟩ := ran
  rw [auditRoot, Ledger.entry_put_self, List.append_assoc]
  rfl

theorem appendGovernanceAction_chains {data : Bytes}
    (ran : appendGovernanceAction data env w = .ok u w') :
    auditRoot w' = HashChain.extend env.crypto.sha256 (auditRoot w) [data] := by
  simp only [appendGovernanceAction, ok_iff_wp, wp_bind, wp_loadOr, wp_asks, wp_save] at ran
  obtain ⟨-, rfl⟩ := ran
  rw [auditRoot, Ledger.entry_put_self]
  rfl

/-- Steps before the record leave the root alone. -/
theorem auditRoot_same (same : Same Tag.isAuditRoot w w') : auditRoot w' = auditRoot w := by
  rw [auditRoot, same.entry .inst .adminAuditRoot rfl, auditRoot]

theorem recordUpgradeProposal_chains {newWasmHash : BytesN 32}
    (ran : recordUpgradeProposal newWasmHash env w = .ok u w') :
    auditRoot w' =
      HashChain.extend env.crypto.sha256 (auditRoot w) [newWasmHash.1, ledgerRecord env] := by
  obtain ⟨v, before, ran⟩ := (inferInstance : EndsIn (Same Tag.isAuditRoot)
    (do appendGovernanceAction newWasmHash.1; updateAuditRoot) (do
      let proposedBy ← getAdmin
      let proposedAt ← now
      let delay ← getUpgradeDelay
      store .inst .pendingUpgrade
        { newWasmHash, proposedAt, executableAfter := satAdd64 proposedAt delay, proposedBy }
      appendGovernanceAction newWasmHash.1
      updateAuditRoot)).ended ran
  obtain ⟨_, v', appended, updated⟩ := bind_ok.mp ran
  rw [updateAuditRoot_chains updated, appendGovernanceAction_chains appended, auditRoot_same before]
  rfl

theorem proposeUpgrade_chains {newWasmHash : BytesN 32}
    (ran : proposeUpgrade signers newWasmHash env w = .ok u w') :
    auditRoot w' = HashChain.extend env.crypto.sha256 (auditRoot w)
      (if upgradeApproved w signers then [newWasmHash.1, ledgerRecord env] else []) := by
  obtain ⟨v, ⟨sameLedger, _⟩, ran⟩ := asPolicyAdmins_ok ran
  obtain ⟨_, _, looked, ran⟩ := bind_ok.mp ran
  obtain ⟨_, rfl⟩ := has_ok.mp looked
  obtain ⟨_, ran⟩ := require_bind_ok.mp ran
  obtain ⟨_, _, ⟨⟩, ran⟩ := bind_ok.mp ran
  obtain ⟨_, _, ⟨⟩, ran⟩ := bind_ok.mp ran
  rw [← auditRoot_of_ledger sameLedger]
  split at ran
  · next needed =>
    obtain ⟨_, _, ⟨⟩, ran⟩ := bind_ok.mp ran
    split at ran
    · next few =>
      have incomplete : upgradeApproved w signers = false := by
        rw [upgradeApproved, ← sameLedger]
        exact decide_eq_false (not_not.mpr ⟨needed, few⟩)
      rw [incomplete, if_neg Bool.false_ne_true]
      exact auditRoot_same (Keeps.ok ran)
    · next enough =>
      have complete : upgradeApproved w signers = true := by
        rw [upgradeApproved, ← sameLedger]
        exact decide_eq_true fun incomplete => enough incomplete.2
      rw [complete, if_pos rfl]
      obtain ⟨_, v', removed, recorded⟩ := bind_ok.mp ran
      rw [recordUpgradeProposal_chains recorded, auditRoot_same (Keeps.ok removed)]
  · next unneeded =>
    have free : upgradeApproved w signers = true := by
      rw [upgradeApproved, ← sameLedger]
      exact decide_eq_true fun incomplete => unneeded incomplete.1
    rw [free, if_pos rfl]
    exact recordUpgradeProposal_chains ran

theorem computeStateChecksum_chains {snapshot : StateSnapshot}
    (ran : computeStateChecksum signers env w = .ok snapshot w') :
    auditRoot w' = HashChain.extend env.crypto.sha256 (auditRoot w) [ledgerRecord env] := by
  obtain ⟨_, v, ⟨⟩, ⟨sameLedger, _⟩, ran⟩ := asAdmins_ok ran
  obtain ⟨admin, v₁, found, ran⟩ := bind_ok.mp ran
  obtain ⟨scores, v₂, scored, ran⟩ := bind_ok.mp ran
  obtain ⟨_, v₃, configured, ran⟩ := bind_ok.mp ran
  obtain ⟨_, v₄, authorized, ran⟩ := bind_ok.mp ran
  obtain ⟨_, _, ⟨⟩, ran⟩ := bind_ok.mp ran
  obtain ⟨_, _, ⟨⟩, ran⟩ := bind_ok.mp ran
  obtain ⟨_, v₅, pushed, ran⟩ := bind_ok.mp ran
  obtain ⟨_, _, updated, ⟨⟩⟩ := bind_ok.mp ran
  have reading : Same Tag.isAuditRoot v v₂ := IsTrans.trans _ _ _ (Keeps.ok found) (Keeps.ok scored)
  have hashing : Same Tag.isAuditRoot v₂ v₄ :=
    IsTrans.trans _ _ _ (Keeps.ok configured) (Keeps.ok authorized)
  have before : Same Tag.isAuditRoot v v₅ :=
    IsTrans.trans _ _ _ (IsTrans.trans _ _ _ reading hashing) (Keeps.ok pushed)
  rw [updateAuditRoot_chains updated, auditRoot_same before, auditRoot_of_ledger sameLedger]

/-- A change that ends with one record. -/
theorem chains_of_ends {last change : M Unit} {record : Bytes}
    [ends : EndsIn (Same Tag.isAuditRoot) last change]
    (recorded : ∀ {w w' : State} {u : Unit}, last env w = .ok u w' →
      auditRoot w' = HashChain.extend env.crypto.sha256 (auditRoot w) [record])
    (ran : change env w = .ok u w') :
    auditRoot w' = HashChain.extend env.crypto.sha256 (auditRoot w) [record] := by
  obtain ⟨v, before, ended⟩ := ends.ended ran
  rw [recorded ended, auditRoot_same before]

/-- As long as nobody administers the contract its root is the first one. -/
def Unaudited (w : State) : Prop := adminOf w = none → auditRoot w = zero32

set_option synthInstance.maxSize 100000000 in
theorem exec_audit {call : Call} (unaudited : Unaudited w) (ran : exec call env w = .ok u w') :
    auditRoot w' = HashChain.extend env.crypto.sha256 (auditRoot w)
      ((actionOf w call).elim [] (·.records env)) := by
  have unchanged (free : (footprint call).all (fun t => !t.isAuditRoot) = true) :
      auditRoot w' = auditRoot w :=
    auditRoot_same (About.of_all free ((exec_keeps call).ok ran))
  rcases call with call | ⟨signers, call⟩ | call
  · cases call
    case initializeContract admin service =>
      simp only [ok_iff_wp, exec, execUser, initializeContract, wp_bind, wp_has, wp_require,
        wp_requireAuth, wp_save] at ran
      obtain ⟨vacant, _, _, rfl⟩ := ran
      rw [auditRoot, Ledger.entry_put_self]
      exact (unaudited (by simpa using vacant)).symm
    all_goals exact unchanged rfl
  · cases call
    case pause | unpause =>
      dsimp only [exec, execAdmins, pause, unpause, asPolicyAdmins] at ran
      exact chains_of_ends updateAuditRoot_chains ran
    case freezeContract | unfreezeContract =>
      dsimp only [exec, execAdmins, freezeContract, unfreezeContract, asAdmins] at ran
      exact chains_of_ends updateAuditRoot_chains ran
    case computeStateChecksum =>
      obtain ⟨_, _, computed, ⟨⟩⟩ := bind_ok.mp ran
      exact computeStateChecksum_chains computed
    case addServiceSigner signer =>
      dsimp only [exec, execAdmins, addServiceSigner, asAdmins] at ran
      exact chains_of_ends appendGovernanceAction_chains ran
    case setAdminThreshold threshold =>
      dsimp only [exec, execAdmins, setAdminThreshold, asPolicyAdmins] at ran
      exact chains_of_ends appendGovernanceAction_chains ran
    case proposeUpgrade newWasmHash =>
      rw [proposeUpgrade_chains ran]
      change _ = HashChain.extend _ _ (Option.elim (if _ then _ else _) _ _)
      split <;> rfl
    all_goals exact unchanged rfl
  · cases call
    case setService newService =>
      dsimp only [exec, execSoleAdmin, setService, asSingleAdmin] at ran
      exact chains_of_ends appendGovernanceAction_chains ran
    all_goals exact unchanged rfl

theorem admin_of_ok {α : Type} {rest : M α} {a : α} (ran : (do
      require (← hasAdmin) .notInitialized
      rest) env w = .ok a w') : (adminOf w).isSome = true := by
  obtain ⟨_, _, known, ran⟩ := bind_ok.mp ran
  obtain ⟨isKnown, rfl⟩ := has_ok.mp known
  obtain ⟨_, _, required, _⟩ := bind_ok.mp ran
  exact isKnown.trans (require_ok.mp required).1

/-- Nothing is audited before there is an administrator. -/
theorem actionOf_eq_none {call : Call} (vacant : adminOf w = none)
    (ran : exec call env w = .ok u w') : actionOf w call = none := by
  have refused (present : (adminOf w).isSome = true) : actionOf w call = none := by
    rw [vacant] at present
    cases present
  rcases call with call | ⟨signers, call⟩ | call
  · rfl
  · cases call
    case pause | unpause | freezeContract | unfreezeContract | addServiceSigner |
        setAdminThreshold | proposeUpgrade =>
      exact refused (admin_of_ok ran)
    case computeStateChecksum =>
      obtain ⟨_, _, computed, _⟩ := bind_ok.mp ran
      exact refused (admin_of_ok computed)
    all_goals rfl
  · cases call
    case setService => exact refused (admin_of_ok ran)
    all_goals rfl

end Steps

/-! ### Runs -/

section Runs

variable {w : State} {tx : Transaction} {hash : Bytes → BytesN 32}

theorem step_audit (unaudited : Unaudited w) :
    auditRoot (step exec w tx) = HashChain.extend tx.env.crypto.sha256 (auditRoot w)
      ((audited w tx).elim [] (·.records tx.env)) := by
  unfold audited
  by_cases returns : Returns exec w tx
  · rw [if_pos returns]
    exact exec_audit (w := { w with authorized := [] }) unaudited returns.ok
  · rw [if_neg returns, step_of_not_returns returns]
    rfl

theorem step_unaudited (unaudited : Unaudited w) : Unaudited (step exec w tx) := by
  intro vacant
  by_cases returns : Returns exec w tx
  · have stayed : adminOf w = none := by
      rcases exec_admin returns.ok with same | ⟨_, _, isAdmin⟩
      · exact same.symm.trans vacant
      · cases vacant.symm.trans isAdmin
    have silent := actionOf_eq_none (w := { w with authorized := [] }) stayed returns.ok
    rw [step_audit unaudited, audited, if_pos returns, show actionOf w tx.call = none from silent]
    exact unaudited stayed
  · rw [step_of_not_returns returns] at vacant ⊢
    exact unaudited vacant

/-- The root of a run is that of the records chained in it. -/
theorem run_auditRoot {balances : Balances} {txs : List Transaction}
    (hashed : ∀ tx ∈ txs, tx.env.crypto.sha256 = hash) :
    auditRoot (run exec (genesis balances) txs) =
      HashChain.extend hash zero32 (auditRecords (genesis balances) txs) := by
  have along : Along exec (fun _ tx => tx.env.crypto.sha256 = hash) (genesis balances) txs :=
    Along.of_mem hashed
  have simulated := run_simulates auditRoot (HashChain.extend hash)
    (fun w tx => (audited w tx).elim [] (·.records tx.env))
    (fun w tx unaudited _ => step_unaudited unaudited)
    (fun w tx unaudited same => by rw [step_audit unaudited, same]) (fun _ => rfl) along
  rw [simulated, auditRecords, HashChain.extend, List.foldl_flatten]
  rfl

/-- Runs that end with the same root have taken the same actions. -/
def RootBinds (w w' : State) (txs txs' : List Transaction) : Prop :=
  auditRoot (run exec w txs) = auditRoot (run exec w' txs') → auditTrail w txs = auditTrail w' txs'

/-- Runs with the same records have taken the same actions. -/
def RecordsBind (w w' : State) (txs txs' : List Transaction) : Prop :=
  auditRecords w txs = auditRecords w' txs' → auditTrail w txs = auditTrail w' txs'

/-- The root tells runs apart that differ in their records, and no others. -/
theorem audit_root_binds_iff {balances balances' : Balances}
    {txs txs' : List Transaction} (hashed : ∀ tx ∈ txs ++ txs', tx.env.crypto.sha256 = hash)
    (binding : HashChain.Binding hash zero32 (auditRecords (genesis balances) txs)
      (auditRecords (genesis balances') txs')) :
    RootBinds (genesis balances) (genesis balances') txs txs' ↔
      RecordsBind (genesis balances) (genesis balances') txs txs' := by
  unfold RootBinds RecordsBind
  rw [run_auditRoot fun tx listed => hashed tx (List.mem_append_left _ listed),
    run_auditRoot fun tx listed => hashed tx (List.mem_append_right _ listed)]
  constructor
  · intro binds same
    exact binds (by rw [same])
  · intro binds same
    exact binds (HashChain.extend_inj binding same)

/-- The contract is set up, and the administrator does something. -/
def governedBy (call : Call) : List Transaction :=
  [⟨hashedEnv [account 1], .user (.initializeContract (account 1) (account 2))⟩,
    ⟨hashedEnv [account 1], call⟩]

/-- A pause is told apart from a change of the service. -/
theorem audit_root_binds_sample : RootBinds blank blank
      (governedBy (.admins [account 1] .pause))
      (governedBy (.soleAdmin (.setService (account 3)))) := by
  have hashed : ∀ tx ∈ governedBy (.admins [account 1] .pause) ++
      governedBy (.soleAdmin (.setService (account 3))), tx.env.crypto.sha256 = Sha256.digest := by
    simp [governedBy, hashedEnv]
  refine (audit_root_binds_iff hashed ⟨by decide +kernel, by decide +kernel⟩).mpr ?_
  intro same
  exact absurd same (by decide +kernel)

/-- A pause leaves the same root as a freeze. -/
theorem audit_root_same : auditRoot (run exec blank (governedBy (.admins [account 1] .pause))) =
        auditRoot (run exec blank
          (governedBy (.admins [account 1] .freezeContract))) ∧
      auditTrail blank (governedBy (.admins [account 1] .pause)) =
        [⟨.pause, some (account 1)⟩] ∧
      auditTrail blank (governedBy (.admins [account 1] .freezeContract)) =
        [⟨.freeze, some (account 1)⟩] := by
  decide +kernel

end Runs

end LedgerLens
