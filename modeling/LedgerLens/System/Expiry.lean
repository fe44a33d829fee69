import LedgerLens.Host.Eviction
import LedgerLens.System.Embargoes
import LedgerLens.System.Gate
import LedgerLens.System.Lifetimes
import LedgerLens.System.Solvency

/-!
Records that perish. Embargoes, disputes and the marks of relayed scores are kept
in temporary storage: each is dropped when its lifetime is over, and is renewed by
the few calls that write or read it with `extend_ttl`. An embargo that nobody
looks at is gone some day, however long it was meant to last. The main results are
`indefinite_embargo_in_force` and `bond_paid_after_deadline`.
-/

namespace LedgerLens

open Host Host.Prog Storage

/-! ### Lifetimes -/

def embargoTtlThreshold : Nat := 1555200
def embargoTtlExtendTo : Nat := 3110400
def disputeTtlThreshold : Nat := 518400
def disputeTtlExtendTo : Nat := 777600

/-- A transaction, or one of the readers that renew what they read: `is_embargoed`, also on
behalf of a reader that goes on to return, and `get_open_disputes`. -/
inductive Act where
  | call (tx : Transaction)
  | isEmbargoed (env : ContractEnv) (wallet : Address)
  | getOpenDisputes (env : ContractEnv)

namespace Act

def env : Act → ContractEnv
  | call tx => tx.env
  | isEmbargoed env _ | getOpenDisputes env => env

/-- The readers leave the entries as they are. -/
def effect (w : State) : Act → State
  | call tx => step exec w tx
  | isEmbargoed .. | getOpenDisputes _ => w

end Act

/-- A dispute that `get_dispute` finds by way of the index. -/
def readByIndex (w : State) (entry : Entry) : Bool :=
  entry ∈ disputeIndex w && (disputeOf w entry.1 entry.2).isSome

/-- The calls that renew a record if they return: `set_embargo`; `set_dispute` and, for the
disputes in the index, `get_dispute`; `mark_relayed_attestation_used`. A call that settles a
dispute removes it, and a reader of an embargoed wallet that fails renews nothing. -/
def Call.renews (w : State) : Call → DataKey → Bool
  | .soleAdmin (.setScoreEmbargo placed _), .scoreEmbargo wallet => wallet = placed
  | .user (.openScoreDispute _ disputed pair _ _), .scoreDispute wallet assetPair =>
    (wallet, assetPair) = (disputed, pair) || readByIndex w (wallet, assetPair)
  | .user (.relayAttestedScore _ _ attestation), .relayedAttestationUsed digest =>
    digest = attestation.commitment &&
      (w.ledger.entry .temporary (.relayedAttestationUsed digest)).isNone
  | _, _ => false

def Act.renews (w : State) : Act → DataKey → Bool
  | .call tx, key => Returns exec w tx && tx.call.renews w key
  | .isEmbargoed env wallet', .scoreEmbargo wallet => wallet = wallet' && embargoed env w wallet
  | .getOpenDisputes _, .scoreDispute wallet pair => readByIndex w (wallet, pair)
  | _, _ => false

/-- The threshold and the extension the records are renewed with. -/
def renewalOf : DataKey → Option (Nat × Nat)
  | .scoreEmbargo _ => some (embargoTtlThreshold, embargoTtlExtendTo)
  | .scoreDispute .. => some (disputeTtlThreshold, disputeTtlExtendTo)
  | .relayedAttestationUsed _ => some (scoreTtlThreshold, scoreTtlExtendTo)
  | _ => none

section Upkeep

variable (minimal : Nat) (others : State → Act → (DataKey → Nat) → DataKey → Nat)

/-- An entry that was not there gets the minimal lifetime of the network. The lifetimes of the
`others`, which are no concern here, are left open. -/
def lifetimesAfter (w : State) (a : Act) (liveUntil : DataKey → Nat) (key : DataKey) : Nat :=
  match renewalOf key with
  | none => others w a liveUntil key
  | some (threshold, extendTo) =>
    if a.renews w key then
      extendTtl threshold extendTo a.env.sequence
        (if (w.ledger.entry .temporary key).isSome then liveUntil key
        else a.env.sequence + minimal)
    else liveUntil key

@[simps] def upkeep : Upkeep DataKey Val Event Act where
  sequence a := a.env.sequence
  act := Act.effect
  lifetimes := lifetimesAfter minimal others

end Upkeep

/-- The contract with its lifetimes. -/
abbrev Perishing := Perishable DataKey Val Event

section Upkeep

variable {minimal : Nat} {others : State → Act → (DataKey → Nat) → DataKey → Nat} (p : Perishing)
  (a : Act)

@[simp] theorem upkeep_step_world :
    ((upkeep minimal others).step p a).world = a.effect (p.seenAt a.env.sequence) := rfl

theorem upkeep_step_liveUntil (key : DataKey) :
    ((upkeep minimal others).step p a).liveUntil key =
      lifetimesAfter minimal others (p.seenAt a.env.sequence) a p.liveUntil key := rfl

end Upkeep

/-! ### Embargoes -/

/-- The calls that lift or replace the embargo of a wallet. -/
def Call.disturbs (wallet : Address) : Call → Bool
  | .soleAdmin (.setScoreEmbargo wallet' _) | .soleAdmin (.liftScoreEmbargo wallet') =>
    wallet' = wallet
  | .admins _ (.batchLiftScoreEmbargo wallets) => wallet ∈ wallets
  | .admins _ .revokeAllEmbargoes => true
  | _ => false

/-- The act does not lift or replace the embargo of the wallet. -/
def Act.Undisturbing (wallet : Address) (w : State) : Act → Prop
  | .call tx => Returns exec w tx → tx.call.disturbs wallet = false
  | .isEmbargoed .. | .getOpenDisputes _ => True

/-- The wallet is under an embargo, and none of the gates lets it through. -/
def Refused (env : ContractEnv) (w : State) (wallet : Address) : Prop :=
  embargoed env w wallet = true ∧ ∀ (entry : GateEntry) (pair : Symbol) (gateThreshold : Nat),
    (entry.query wallet pair gateThreshold env w).value? ≠ some true

/-- The gate answers from its own ledger, or not at all. -/
def NoFailover (w : State) : Prop :=
  paused w = true → w.ledger.entry .inst .failoverContract = none

section Embargoes

variable {wallet : Address} {w : State} {e e' : Embargoes} {time : Nat}

theorem Embargoes.foldl_liftOne_stored {wallets : List Address} (other : wallet ∉ wallets) :
    (wallets.foldl (Embargoes.liftOne · time) e).stored wallet = e.stored wallet := by
  induction wallets generalizing e with
  | nil => rfl
  | cons first rest ih =>
    rw [List.mem_cons, not_or] at other
    rw [List.foldl_cons, ih other.2]
    unfold Embargoes.liftOne
    split
    · exact Function.update_of_ne other.1 _ _
    · rfl

theorem EmbargoStep.stored {call : Call} (moved : EmbargoStep time e call e')
    (undisturbed : call.disturbs wallet = false) : e'.stored wallet = e.stored wallet := by
  cases moved with
  | unchanged other => rfl
  | placed room => exact Function.update_of_ne (Ne.symm (of_decide_eq_false undisturbed)) _ _
  | lifted => exact Function.update_of_ne (Ne.symm (of_decide_eq_false undisturbed)) _ _
  | batched => exact Embargoes.foldl_liftOne_stored (of_decide_eq_false undisturbed)
  | revoked => cases undisturbed

theorem effect_stored {a : Act} (undisturbing : a.Undisturbing wallet w) :
    (embargoes (a.effect w)).stored wallet = (embargoes w).stored wallet := by
  cases a with
  | call tx =>
    change (embargoes (step exec w tx)).stored wallet = _
    by_cases returns : Returns exec w tx
    · exact (embargoStep_of_ok returns.ok).stored (undisturbing returns)
    · rw [step_of_not_returns returns]
  | isEmbargoed env wallet' => rfl
  | getOpenDisputes env => rfl

/-- An embargo that does not run out is in force at all times. -/
theorem embargoed_of_indefinite {env : ContractEnv}
    (indefinite : (embargoes w).stored wallet = some .indefinite) :
    embargoed env w wallet = true := by
  have stored : w.ledger.entry .temporary (.scoreEmbargo wallet) = some .indefinite := indefinite
  rw [embargoed, stored]
  rfl

theorem refused_of_embargoed {env : ContractEnv} (isEmbargoed : embargoed env w wallet = true)
    (noFailover : NoFailover w) : Refused env w wallet := by
  refine ⟨isEmbargoed, fun entry pair gateThreshold passed => ?_⟩
  obtain ⟨w', ran⟩ := Outcome.exists_of_value? passed
  have passes := entry.letsThrough ran
  cases isPaused : paused w with
  | false =>
    rw [(passes.checked isPaused).1] at isEmbargoed
    cases isEmbargoed
  | true =>
    obtain ⟨owner, score, basis, _⟩ := passes.basis
    rw [GateBasis, if_pos isPaused] at basis
    obtain ⟨_, secondary, isSecondary, _⟩ := basis
    rw [noFailover isPaused] at isSecondary
    cases isSecondary

variable {minimal : Nat} {others : State → Act → (DataKey → Nat) → DataKey → Nat}

/-- The act is made while the embargo of the wallet lives, and leaves it. -/
def KeepsEmbargo (wallet : Address) (p : Perishing) (a : Act) : Prop :=
  a.env.sequence ≤ p.liveUntil (.scoreEmbargo wallet) ∧
    a.Undisturbing wallet (p.seenAt a.env.sequence)

theorem seenAt_stored {p : Perishing} {sequence : Nat}
    (lives : sequence ≤ p.liveUntil (.scoreEmbargo wallet)) :
    (embargoes (p.seenAt sequence)).stored wallet = (embargoes p.world).stored wallet :=
  p.seenAt_temporary lives

theorem setScoreEmbargo_stored {tx : Transaction} (returns : Returns exec w tx)
    (places : tx.call = .soleAdmin (.setScoreEmbargo wallet none)) :
    (embargoes (step exec w tx)).stored wallet = some .indefinite := by
  have ran := returns.ok
  rw [places] at ran
  have moved := setScoreEmbargo_spec ran
  generalize embargoes (step exec w tx) = after at moved
  cases moved with
  | unchanged other => cases other
  | placed room => exact Function.update_self _ _ _

/-- An indefinite embargo stays in force, whatever else happens, as long as it is renewed in
time: every act, and the query, finds its entry alive. -/
theorem indefinite_embargo_in_force {p : Perishing} {tx : Transaction} {acts : List Act}
    {env : ContractEnv} (places : tx.call = .soleAdmin (.setScoreEmbargo wallet none))
    (returns : Returns exec (p.seenAt tx.env.sequence) tx)
    (kept : (upkeep minimal others).Along (KeepsEmbargo wallet)
      ((upkeep minimal others).step p (.call tx)) acts)
    (lives : env.sequence ≤ ((upkeep minimal others).run p (.call tx :: acts)).liveUntil
      (.scoreEmbargo wallet))
    (noFailover : NoFailover ((upkeep minimal others).run p (.call tx :: acts)).world) :
    Refused env (((upkeep minimal others).run p (.call tx :: acts)).seenAt env.sequence)
      wallet := by
  have indefinite : (embargoes ((upkeep minimal others).run p (.call tx :: acts)).world).stored
      wallet = some .indefinite := by
    rw [Upkeep.run_cons]
    refine Upkeep.run_invariant (u := upkeep minimal others)
      (I := fun p => (embargoes p.world).stored wallet = some .indefinite) ?_
      (setScoreEmbargo_stored returns places) kept
    intro p a held keeps
    change (embargoes (a.effect (p.seenAt a.env.sequence))).stored wallet = _
    rw [effect_stored keeps.2, seenAt_stored keeps.1]
    exact held
  exact refused_of_embargoed (embargoed_of_indefinite ((seenAt_stored lives).trans indefinite))
    noFailover

/-- The environment of the samples at a later ledger. -/
def sampleLedger (signers : List Address) (sequence : Nat) (bounded : sequence < 2 ^ 32) :
    ContractEnv :=
  { sampleEnv signers with
    sequence
    sequence_lt := bounded }

/-- The contract as it is deployed, of a network where new entries live for 16 ledgers. -/
abbrev perishing : Perishing := ⟨deployed, fun _ => 0⟩

abbrev sampleUpkeep : Upkeep DataKey Val Event Act := upkeep 16 fun _ _ liveUntil => liveUntil

/-- An indefinite embargo of account 3 at ledger 100. -/
def sampleIndefinite : Act :=
  .call ⟨sampleLedger [account 1] 100 (sampleEnv []).sequence_lt,
    .soleAdmin (.setScoreEmbargo (account 3) none)⟩

/-- Read once, half a year on, the embargo holds for half a year more. -/
theorem indefinite_embargo_in_force_sample :
    Refused (sampleLedger [] 6000000 (by decide))
      ((sampleUpkeep.run perishing [sampleIndefinite,
        .isEmbargoed (sampleLedger [] 3000000 (by decide)) (account 3)]).seenAt 6000000)
      (account 3) :=
  indefinite_embargo_in_force rfl (returns_of_isOk (by decide +kernel))
    ⟨⟨by decide +kernel, trivial⟩, trivial⟩ (by decide +kernel)
    (fun isPaused => absurd isPaused (by decide +kernel))

/-- Nobody looks at the embargo, and it is gone. -/
theorem indefinite_embargo_gone :
    embargoed (sampleLedger [] 100 (by decide))
      ((sampleUpkeep.run perishing [sampleIndefinite]).seenAt 100) (account 3) = true ∧
    embargoed (sampleLedger [] 3110501 (by decide))
      ((sampleUpkeep.run perishing [sampleIndefinite]).seenAt 3110501) (account 3) = false := by
  decide +kernel

end Embargoes

/-! ### Bonds -/

/-- The act does not settle the dispute about the key. -/
def Act.Unsettling (wallet : Address) (pair : Symbol) (w : State) : Act → Prop
  | .call tx => ¬ Settles wallet pair w tx
  | .isEmbargoed .. | .getOpenDisputes _ => True

/-- The act is made while the dispute about the key lives, and does not settle it. -/
def KeepsDispute (wallet : Address) (pair : Symbol) (p : Perishing) (a : Act) : Prop :=
  a.env.sequence ≤ p.liveUntil (.scoreDispute wallet pair) ∧
    a.Unsettling wallet pair (p.seenAt a.env.sequence)

/-- Settling the dispute now pays the challenger the bond and the bonus. -/
def TimeoutPays (env : ContractEnv) (w : State) (wallet : Address) (pair : Symbol)
    (challenger : Address) (bond : Int) : Prop :=
  Returns exec w ⟨env, .user (.resolveDisputeTimeout wallet pair)⟩ ∧
    Pays env (feeToken w) challenger (satAddI128 bond (bonusOn bond)) w
      (step exec w ⟨env, .user (.resolveDisputeTimeout wallet pair)⟩)

section Bonds

variable {wallet challenger : Address} {pair : Symbol} {w : State} {dispute : ScoreDispute}
  {tx : Transaction}

theorem step_bondsPositive (bonds : BondsPositive w) : BondsPositive (step exec w tx) := by
  by_cases returns : Returns exec w tx
  · exact (exec_bonds (w := { w with authorized := [] }) bonds returns.ok).positive
  · rwa [step_of_not_returns returns]

theorem step_admin (admin : (adminOf w).isSome = true) :
    (adminOf (step exec w tx)).isSome = true := by
  by_cases returns : Returns exec w tx
  · rcases exec_admin returns.ok with same | ⟨newAdmin, _, isAdmin⟩
    · rw [same]
      exact admin
    · rw [isAdmin]
      rfl
  · rwa [step_of_not_returns returns]

/-- A dispute that is there is not opened again, and stays unless it is settled. -/
theorem step_dispute_of_unsettled (bonds : BondsPositive w)
    (isOpen : disputeOf w wallet pair = some dispute)
    (unsettled : ¬ Settles wallet pair w tx) :
    disputeOf (step exec w tx) wallet pair = some dispute := by
  by_cases returns : Returns exec w tx
  swap
  · rwa [step_of_not_returns returns]
  have stepped := exec_disputes (w := { w with authorized := [] }) bonds returns.ok
  have spared {wallet' : Address} {assetPair' : Symbol}
      (isKey : wallet' = wallet ∧ assetPair' = pair → tx.call.settles wallet pair)
      (closed : PutsDispute wallet' assetPair' none { w with authorized := [] } (step exec w tx)) :
      disputeOf (step exec w tx) wallet pair = some dispute :=
    (closed.of_ne fun same => unsettled ⟨returns, isKey same⟩).trans isOpen
  generalize tx.call = call at stepped spared
  cases stepped with
  | @opened _ wallet' assetPair' _ _ opening =>
    obtain ⟨_, puts⟩ := opening.dispute
    refine (puts.of_ne ?_).trans isOpen
    rintro ⟨rfl, rfl⟩
    cases opening.free.symm.trans isOpen
  | timedOut _ settling => exact spared id settling.closed
  | corrected settling => exact spared id settling.closed
  | other silent same => exact (same.entry _ _ rfl).trans isOpen

variable {minimal : Nat} {others : State → Act → (DataKey → Nat) → DataKey → Nat}

/-- The contract some run with lifetimes leads to. -/
def Arises (minimal : Nat) (others : State → Act → (DataKey → Nat) → DataKey → Nat)
    (p : Perishing) : Prop :=
  ∃ balance liveUntil acts,
    p = (upkeep minimal others).run ⟨genesis balance, liveUntil⟩ acts

theorem effect_bondsPositive {a : Act} (bonds : BondsPositive w) : BondsPositive (a.effect w) := by
  cases a with
  | call tx => exact step_bondsPositive bonds
  | isEmbargoed env wallet => exact bonds
  | getOpenDisputes env => exact bonds

theorem seenAt_bondsPositive {p : Perishing} {sequence : Nat} (bonds : BondsPositive p.world) :
    BondsPositive (p.seenAt sequence) := by
  intro wallet pair dispute isOpen
  refine bonds wallet pair dispute ?_
  by_cases lives : sequence ≤ p.liveUntil (.scoreDispute wallet pair)
  · exact (p.seenAt_temporary lives).symm.trans isOpen
  · exact absurd isOpen (by simp [disputeOf, Perishable.seenAt_past lives])

theorem Arises.bondsPositive {p : Perishing} (arises : Arises minimal others p) :
    BondsPositive p.world := by
  obtain ⟨balance, liveUntil, acts, rfl⟩ := arises
  refine Upkeep.run_induction (I := fun p => BondsPositive p.world) ?_ nofun
  intro p a bonds
  exact effect_bondsPositive (seenAt_bondsPositive bonds)

/-- A bond the contract holds, and what it takes to pay it out. -/
structure BondHeld (wallet : Address) (pair : Symbol) (dispute : ScoreDispute) (w : State) :
    Prop where
  admin : (adminOf w).isSome = true
  bonds : BondsPositive w
  isOpen : disputeOf w wallet pair = some dispute

theorem BondHeld.effect {a : Act} (held : BondHeld wallet pair dispute w)
    (unsettling : a.Unsettling wallet pair w) : BondHeld wallet pair dispute (a.effect w) := by
  cases a with
  | call tx =>
    exact ⟨step_admin held.admin, step_bondsPositive held.bonds,
      step_dispute_of_unsettled held.bonds held.isOpen unsettling⟩
  | isEmbargoed env wallet => exact held
  | getOpenDisputes env => exact held

theorem BondHeld.seenAt {p : Perishing} {sequence : Nat}
    (held : BondHeld wallet pair dispute p.world)
    (lives : sequence ≤ p.liveUntil (.scoreDispute wallet pair)) :
    BondHeld wallet pair dispute (p.seenAt sequence) :=
  ⟨held.admin, seenAt_bondsPositive held.bonds, (p.seenAt_temporary lives).trans held.isOpen⟩

/-- After the deadline the timeout goes through, given the token and the balance. -/
theorem BondHeld.timeoutPays {env : ContractEnv} {token : Address}
    (held : BondHeld wallet pair dispute w) (late : dispute.deadline < env.timestamp)
      (isToken : feeToken w = some token)
    (enough : satAddI128 dispute.bond (bonusOn dispute.bond) ≤ w.balance token env.self) :
    TimeoutPays env w wallet pair dispute.challenger dispute.bond := by
  have positive := bonusPaid_pos (held.bonds wallet pair dispute held.isOpen)
  have returns : Returns exec w ⟨env, .user (.resolveDisputeTimeout wallet pair)⟩ := by
    unfold Returns
    simp only [exec, execUser, resolveDisputeTimeout, closeDispute, removeFromDisputeIndex, wp_bind,
      wp_has, wp_require, wp_load, wp_okOr, wp_asks, wp_transfer, wp_erase, wp_loadOr,
      wp_whenever, wp_save, wp_emit]
    refine ⟨held.admin, dispute, held.isOpen, decide_eq_true late, token, isToken,
      ⟨positive.le, enough, .inl trivial⟩, ?_⟩
    split <;> trivial
  have bonds' : BondsPositive { w with authorized := [] } := held.bonds
  obtain ⟨settled, _, settling⟩ := resolveDisputeTimeout_settling bonds' returns.ok
  obtain rfl := Option.some.inj (settling.isOpen.symm.trans held.isOpen)
  exact ⟨returns, settling.paid⟩

theorem bondHeld_of_opened {bond : Int} {bondSalt : Bytes} (bonds : BondsPositive w)
    (opens : tx.call = .user (.openScoreDispute challenger wallet pair bond bondSalt))
    (returns : Returns exec w tx) :
    ∃ challengedScore, BondHeld wallet pair
      ⟨challenger, bond, satAdd64 tx.env.timestamp disputeChallengePeriodSecs, challengedScore⟩
      (step exec w tx) := by
  have returned : openScoreDispute challenger wallet pair bond bondSalt tx.env
      { w with authorized := [] } = .ok () (step exec w tx) := by
    have ran := returns.ok
    rwa [opens] at ran
  obtain ⟨challengedScore, puts⟩ := (openScoreDispute_opening returned).dispute
  refine ⟨challengedScore, step_admin ?_, step_bondsPositive bonds, puts.self⟩
  obtain ⟨_, _, active, _⟩ := bind_ok.mp returned
  obtain ⟨_, _, known, active⟩ := bind_ok.mp active
  obtain ⟨isKnown, rfl⟩ := has_ok.mp known
  obtain ⟨_, _, required, _⟩ := bind_ok.mp active
  exact isKnown.trans (require_ok.mp required).1

/-- A bond can be claimed once the deadline has passed, as long as the dispute is renewed in
time: every act, and the claim, finds its entry alive. -/
theorem bond_paid_after_deadline {p : Perishing} {acts : List Act} {env : ContractEnv}
    {bond : Int} {bondSalt : Bytes} {token : Address} (arises : Arises minimal others p)
    (opens : tx.call = .user (.openScoreDispute challenger wallet pair bond bondSalt))
    (returns : Returns exec (p.seenAt tx.env.sequence) tx)
    (kept : (upkeep minimal others).Along (KeepsDispute wallet pair)
      ((upkeep minimal others).step p (.call tx)) acts)
    (lives : env.sequence ≤ ((upkeep minimal others).run p (.call tx :: acts)).liveUntil
      (.scoreDispute wallet pair))
    (late : satAdd64 tx.env.timestamp disputeChallengePeriodSecs < env.timestamp)
    (isToken : feeToken ((upkeep minimal others).run p (.call tx :: acts)).world = some token)
    (enough : satAddI128 bond (bonusOn bond) ≤
      ((upkeep minimal others).run p (.call tx :: acts)).world.balance token env.self) :
    TimeoutPays env (((upkeep minimal others).run p (.call tx :: acts)).seenAt env.sequence)
      wallet pair challenger bond := by
  obtain ⟨challengedScore, opened⟩ :=
    bondHeld_of_opened (seenAt_bondsPositive arises.bondsPositive) opens returns
  have held : BondHeld wallet pair
      ⟨challenger, bond, satAdd64 tx.env.timestamp disputeChallengePeriodSecs, challengedScore⟩
      ((upkeep minimal others).run p (.call tx :: acts)).world := by
    rw [Upkeep.run_cons]
    refine Upkeep.run_invariant (u := upkeep minimal others)
      (I := fun p => BondHeld wallet pair _ p.world) ?_ opened kept
    intro p a held keeps
    exact (held.seenAt keeps.1).effect keeps.2
  exact (held.seenAt lives).timeoutPays late isToken enough

/-- The disputed contract of the samples, with lifetimes. -/
abbrev perishingDispute : Perishing :=
  sampleUpkeep.run ⟨genesis disputeHoldings, fun _ => 1000⟩ (beforeSampleDispute.map .call)

/-- The claim of the challenger of the samples, a week later and at a given ledger. -/
def sampleClaim (sequence : Nat) (bounded : sequence < 2 ^ 32) : ContractEnv :=
  { sampleTimeout.env with
    sequence
    sequence_lt := bounded }

theorem arises_perishingDispute : Arises 16 (fun _ _ liveUntil => liveUntil) perishingDispute :=
  ⟨disputeHoldings, fun _ => 1000, beforeSampleDispute.map .call, rfl⟩

theorem bond_paid_after_deadline_sample :
    TimeoutPays (sampleClaim 777000 (by decide))
      ((sampleUpkeep.run perishingDispute [.call sampleDispute]).seenAt 777000) (account 4)
      samplePair (account 3) 50 := by
  have opened : Returns exec (perishingDispute.seenAt sampleDispute.env.sequence) sampleDispute :=
    returns_of_isOk (by decide +kernel)
  have lives : (sampleClaim 777000 (by decide)).sequence ≤
      (sampleUpkeep.run perishingDispute [.call sampleDispute]).liveUntil
        (.scoreDispute (account 4) samplePair) := by decide +kernel
  have isToken : feeToken (sampleUpkeep.run perishingDispute [.call sampleDispute]).world =
      some (account 9) := by decide +kernel
  exact bond_paid_after_deadline arises_perishingDispute rfl opened trivial lives
    (by decide +kernel)
    isToken (by decide +kernel)

/-- When the entry of the dispute is gone nobody is paid, though the bond is with the
contract. -/
theorem bond_stranded :
    let after := (sampleUpkeep.run perishingDispute [.call sampleDispute]).seenAt 800000
    after.balance (account 9) (account 3) = 50 ∧ feeToken after = some (account 9) ∧
      satAddI128 50 (bonusOn 50) ≤ after.balance (account 9) (account 0) ∧
      (resolveDisputeTimeout (account 4) samplePair (sampleClaim 800000 (by decide)) after).result =
        some (.error .disputeNotFound) := by
  decide +kernel

end Bonds

end LedgerLens
