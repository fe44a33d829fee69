import LedgerLens.System.Parameters

/-!
The time lock of upgrades. The hash that an upgrade installs was stored by one
call, has waited for the delay in force then, and was neither vetoed nor replaced
meanwhile (`upgrade_time_locked`).
-/

namespace LedgerLens

open Host Host.Prog Storage

/-- The upgrade that waits for its time lock; there is room for one. -/
abbrev pendingUpgrade (w : State) : Option UpgradeProposal := w.ledger.entry .inst .pendingUpgrade

/-- The hash of the code that runs, once it has been upgraded. -/
abbrev contractWasm (w : State) : Option (BytesN 32) := w.ledger.entry .inst .contractWasm

/-- The calls that propose, execute or veto an upgrade. -/
def Call.isUpgrade : Call → Bool
  | .admins _ (.proposeUpgrade _) | .admins _ .executeUpgrade | .admins _ .vetoUpgrade => true
  | _ => false

/-- What a call that returns does to the pending upgrade. -/
inductive UpgradeStep (env : ContractEnv) (w : State) : Call → Option UpgradeProposal → Prop
  | unchanged {call : Call} (other : call.isUpgrade = false) :
      UpgradeStep env w call (pendingUpgrade w)
  | approved {signers : List Address} {hash : BytesN 32} (vacant : pendingUpgrade w = none) :
      UpgradeStep env w (.admins signers (.proposeUpgrade hash)) none
  | proposed {signers : List Address} {hash : BytesN 32} {proposedBy : Address}
      (vacant : pendingUpgrade w = none) :
      UpgradeStep env w (.admins signers (.proposeUpgrade hash)) (some {
        newWasmHash := hash
        proposedAt := env.timestamp
        executableAfter := satAdd64 env.timestamp (governed w).delay
        proposedBy })
  | executed {signers : List Address} {proposal : UpgradeProposal}
      (pending : pendingUpgrade w = some proposal)
      (ready : proposal.executableAfter ≤ env.timestamp) :
      UpgradeStep env w (.admins signers .executeUpgrade) none
  | vetoed {signers : List Address} {proposal : UpgradeProposal}
      (pending : pendingUpgrade w = some proposal) :
      UpgradeStep env w (.admins signers .vetoUpgrade) none

@[reducible] def Tag.isPendingUpgrade : Tag → Bool
  | .pendingUpgrade => true
  | _ => false

section Steps

variable {env : ContractEnv} {w w' : State} {call : Call} {signers : List Address}
  {hash : BytesN 32}

theorem recordUpgradeProposal_pending (ran : recordUpgradeProposal hash env w = .ok () w') :
    ∃ proposedBy, pendingUpgrade w' = some {
      newWasmHash := hash
      proposedAt := env.timestamp
      executableAfter := satAdd64 env.timestamp (governed w).delay
      proposedBy } := by
  unfold recordUpgradeProposal appendGovernanceAction updateAuditRoot at ran
  simp [ok_iff_wp] at ran
  obtain ⟨proposedBy, _, rfl⟩ := ran
  exact ⟨proposedBy, by simp [pendingUpgrade, governed, Ledger.entry_put_of_ne]⟩

theorem proposeUpgrade_step (ran : proposeUpgrade signers hash env w = .ok () w') :
    UpgradeStep env w (.admins signers (.proposeUpgrade hash)) (pendingUpgrade w') := by
  obtain ⟨v, ⟨sameLedger, _⟩, ran⟩ := asPolicyAdmins_ok ran
  simp only [ok_iff_wp, wp_bind, wp_has, wp_require, wp_loadOr] at ran
  obtain ⟨vacant, ran⟩ := ran
  have vacant : pendingUpgrade w = none := by
    simpa [pendingUpgrade, sameLedger] using vacant
  have stored {u : State} (sameDelay : (governed u).delay = (governed w).delay)
      (recorded : wp (recordUpgradeProposal hash) (fun _ u => True ∧ u = w') env u) :
      UpgradeStep env w (.admins signers (.proposeUpgrade hash)) (pendingUpgrade w') := by
    have recorded : recordUpgradeProposal hash env u = .ok () w' := by
      simpa [ok_iff_wp] using recorded
    obtain ⟨proposedBy, pending⟩ := recordUpgradeProposal_pending recorded
    rw [pending, sameDelay]
    exact .proposed vacant
  rw [wp_ite] at ran
  split at ran
  · rw [wp_bind, wp_loadOr, wp_ite] at ran
    split at ran
    · simp at ran
      rw [← ran, pendingUpgrade, Ledger.entry_put_of_ne _ _ (by decide), sameLedger]
      rw [pendingUpgrade] at vacant
      rw [vacant]
      exact .approved vacant
    · simp only [wp_bind, wp_erase] at ran
      refine stored ?_ ran
      simp [governed, Ledger.entry_put_of_ne, sameLedger]
  · exact stored (by rw [governed_of_ledger sameLedger]) ran

/-- An upgrade that is executed was pending and ready, and its hash is installed. -/
theorem executeUpgrade_ok (ran : executeUpgrade signers env w = .ok () w') :
    ∃ proposal, pendingUpgrade w = some proposal ∧ proposal.executableAfter ≤ env.timestamp ∧
      pendingUpgrade w' = none ∧ contractWasm w' = some proposal.newWasmHash := by
  obtain ⟨v, ⟨sameLedger, _⟩, ran⟩ := asPolicyAdmins_ok ran
  simp [ok_iff_wp, updateCurrentContractWasm] at ran
  obtain ⟨proposal, pending, ready, rfl⟩ := ran
  rw [sameLedger] at pending
  refine ⟨proposal, pending, ready, Ledger.entry_put_self .., ?_⟩
  rw [contractWasm, Ledger.entry_put_of_ne _ _ (by decide), Ledger.entry_put_self]

theorem upgradeStep_of_ok (ran : exec call env w = .ok () w') :
    UpgradeStep env w call (pendingUpgrade w') := by
  have silent (free : (footprint call).all (fun t => !t.isPendingUpgrade) = true)
      (other : call.isUpgrade = false) : UpgradeStep env w call (pendingUpgrade w') := by
    have same : Same Tag.isPendingUpgrade w w' :=
      About.of_all free ((exec_keeps call).ok ran)
    rw [pendingUpgrade, same.entry .inst .pendingUpgrade rfl]
    exact .unchanged other
  rcases call with call | ⟨signers, call⟩ | call
  · exact silent (by cases call <;> rfl) rfl
  · cases call
    case proposeUpgrade hash => exact proposeUpgrade_step ran
    case executeUpgrade =>
      obtain ⟨proposal, pending, ready, settled, _⟩ := executeUpgrade_ok ran
      rw [settled]
      exact .executed pending ready
    case vetoUpgrade =>
      obtain ⟨v, ⟨sameLedger, _⟩, ran⟩ := asPolicyAdmins_ok ran
      simp [ok_iff_wp] at ran
      obtain ⟨present, rfl⟩ := ran
      obtain ⟨proposal, pending⟩ := Option.isSome_iff_exists.mp present
      rw [sameLedger] at pending
      rw [pendingUpgrade, Ledger.entry_put_self]
      exact .vetoed pending
    all_goals exact silent rfl rfl
  · exact silent (by cases call <;> rfl) rfl

/-- While an upgrade is pending, a call about upgrades that returns settles it. -/
theorem UpgradeStep.settles {after : Option UpgradeProposal} {proposal : UpgradeProposal}
    (step : UpgradeStep env w call after) (pending : pendingUpgrade w = some proposal)
    (upgrades : call.isUpgrade = true) : after = none := by
  cases step with
  | unchanged other => simp [upgrades] at other
  | approved vacant | proposed vacant => simp [pending] at vacant
  | executed | vetoed => rfl

end Steps

/-! ### Whole runs -/

/-- The call stores the hash as the pending upgrade. -/
def StoresUpgrade (w : State) (tx : Transaction) (hash : BytesN 32) : Prop :=
  Returns exec w tx ∧ (∃ signers, tx.call = .admins signers (.proposeUpgrade hash)) ∧
    ∃ proposal, pendingUpgrade (step exec w tx) = some proposal ∧ proposal.newWasmHash = hash

/-- The call installs the code with the hash: it is what runs afterwards. -/
def InstallsUpgrade (w : State) (tx : Transaction) (hash : BytesN 32) : Prop :=
  Returns exec w tx ∧ (∃ signers, tx.call = .admins signers .executeUpgrade) ∧
    contractWasm (step exec w tx) = some hash

/-- Between the two, nothing is stored, executed or vetoed. -/
abbrev Untouched (w : State) (tx : Transaction) : Prop :=
  tx.call.isUpgrade = true → ¬ Returns exec w tx

/-- The delay of upgrades is in its range throughout; a proposal does not return while one is
pending; and what is installed was stored long enough before and not touched since. -/
structure TimeLocked (start : State) (txs : List Transaction) : Prop where
  delay : ∀ before, before <+: txs →
    upgradeDelayInRange (governed (run exec start before)).delay = true
  single : Along exec (fun w tx => pendingUpgrade w ≠ none →
    (∃ signers hash, tx.call = .admins signers (.proposeUpgrade hash)) → ¬ Returns exec w tx)
    start txs
  installed : ∀ before tx after hash, txs = before ++ tx :: after →
    InstallsUpgrade (run exec start before) tx hash →
    ∃ earlier proposing between, before = earlier ++ proposing :: between ∧
      StoresUpgrade (run exec start earlier) proposing hash ∧
      proposing.env.timestamp + minUpgradeDelaySecs ≤ tx.env.timestamp ∧
      Along exec Untouched (run exec start (earlier ++ [proposing])) between

section TimeLock

variable {w : State} {tx : Transaction}

/-- A pending upgrade that was not pending before has been stored by a proposal. -/
theorem stored_of_pending {proposal : UpgradeProposal}
    (absent : pendingUpgrade w ≠ some proposal)
    (present : pendingUpgrade (step exec w tx) = some proposal) :
    StoresUpgrade w tx proposal.newWasmHash ∧
      proposal.executableAfter = satAdd64 tx.env.timestamp (governed w).delay := by
  have returns : Returns exec w tx := by
    by_contra failed
    rw [step_of_not_returns failed] at present
    exact absent present
  have moved : UpgradeStep tx.env _ tx.call _ := upgradeStep_of_ok returns.ok
  generalize isCall : tx.call = call, isAfter : pendingUpgrade (step exec w tx) = after at moved
  cases moved with
  | unchanged => exact absurd (isAfter.symm.trans present) absent
  | approved | executed | vetoed =>
    rw [isAfter] at present
    cases present
  | proposed =>
    rw [isAfter] at present
    cases present
    exact ⟨⟨returns, ⟨_, isCall⟩, _, isAfter, rfl⟩, rfl⟩

/-- Nothing returns about upgrades as long as one stays pending. -/
theorem untouched_of_pending {proposal : UpgradeProposal}
    (before : pendingUpgrade w = some proposal)
    (after : pendingUpgrade (step exec w tx) = some proposal) : Untouched w tx := by
  intro upgrades returns
  have settled := (upgradeStep_of_ok returns.ok).settles before upgrades
  rw [after] at settled
  cases settled

/-- Proposals do not return while an upgrade is pending. -/
theorem not_proposed_of_pending {signers : List Address} {hash : BytesN 32}
    (pending : pendingUpgrade w ≠ none)
    (proposes : tx.call = .admins signers (.proposeUpgrade hash)) : ¬ Returns exec w tx := by
  intro returns
  have moved : UpgradeStep tx.env _ tx.call _ := upgradeStep_of_ok returns.ok
  rw [proposes] at moved
  generalize pendingUpgrade (step exec w tx) = after at moved
  cases moved with
  | unchanged other => cases other
  | approved vacant | proposed vacant => exact pending vacant

/-- What an upgrade that is executed has waited for. -/
theorem ready_of_installs {hash : BytesN 32} (installs : InstallsUpgrade w tx hash) :
    ∃ proposal, pendingUpgrade w = some proposal ∧ proposal.newWasmHash = hash ∧
      proposal.executableAfter ≤ tx.env.timestamp := by
  obtain ⟨returns, ⟨signers, isCall⟩, installed⟩ := installs
  have ran := returns.ok
  rw [isCall] at ran
  obtain ⟨proposal, pending, ready, _, isHash⟩ := executeUpgrade_ok ran
  exact ⟨proposal, pending, Option.some.inj (isHash.symm.trans installed), ready⟩

/-- The addition of the delay does not saturate in the time considered. -/
theorem le_of_executableAfter {time delay now : Nat} (inTime : time < 2 ^ 63)
    (inRange : upgradeDelayInRange delay = true) (ready : satAdd64 time delay ≤ now) :
    time + minUpgradeDelaySecs ≤ now := by
  simp only [upgradeDelayInRange, Bool.and_eq_true, decide_eq_true_eq] at inRange
  have small : maxUpgradeDelaySecs ≤ 2 ^ 32 := by decide
  unfold satAdd64 u64Bound at ready
  omega

/-- Over every run from genesis: the time lock holds, whoever calls what in which order, as long
as the clock is in the lower half of its range. -/
theorem upgrade_time_locked (balances : Balances) (txs : List Transaction)
    (inTime : ∀ tx ∈ txs, tx.env.timestamp < 2 ^ 63) : TimeLocked (genesis balances) txs where
  delay before _ := (run_induction (I := fun w => InRange (governed w)) inRange_step
    (inRange_genesis balances)).delay
  single := by
    refine Along.of_forall ?_
    rintro w tx pending ⟨signers, hash, proposes⟩
    exact not_proposed_of_pending pending proposes
  installed := by
    rintro before tx after hash rfl installs
    obtain ⟨proposal, pending, rfl, ready⟩ := ready_of_installs installs
    have absent : pendingUpgrade (genesis balances) ≠ some proposal := nofun
    obtain ⟨earlier, proposing, between, rfl, absentBefore, came, stayed⟩ :=
      run_since (I := fun w => pendingUpgrade w = some proposal) absent pending
    obtain ⟨stores, isReady⟩ := stored_of_pending absentBefore came
    refine ⟨earlier, proposing, between, rfl, stores, ?_, ?_⟩
    · rw [isReady] at ready
      refine le_of_executableAfter (inTime proposing (by simp)) ?_ ready
      exact (run_induction (I := fun w => InRange (governed w)) inRange_step
        (inRange_genesis balances)).delay
    · rw [run_append]
      exact stayed.mono fun _ _ held => untouched_of_pending held.1 held.2

/-- An upgrade proposed and, two days later, executed. -/
def sampleUpgrade : List Transaction :=
  [initSample,
   ⟨sampleEnv [account 1], .admins [] (.proposeUpgrade ⟨List.replicate 32 7, by decide⟩)⟩,
   ⟨sampleAfter [account 1] 172800, .admins [] .executeUpgrade⟩]

theorem upgrade_time_locked_sample : Along exec (Returns exec) blank sampleUpgrade ∧
      contractWasm (run exec blank sampleUpgrade) =
        some ⟨List.replicate 32 7, by decide⟩ ∧
      TimeLocked blank sampleUpgrade :=
  ⟨by decide +kernel, by decide +kernel, upgrade_time_locked _ _ (by decide)⟩

end TimeLock

end LedgerLens
