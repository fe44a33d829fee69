import LedgerLens.System.Credits
import LedgerLens.System.Disputes
import LedgerLens.Host.Limiter

/-!
The bonds of the open disputes, which the contract holds, and the accounts that administer and
serve it. The main results are `admin_consents` and `signers_stay_quorate`.
-/

namespace LedgerLens

open Host Host.Prog Host.Totals Storage

def bondOf (w : State) (entry : Entry) : Int :=
  (disputeOf w entry.1 entry.2).elim 0 ScoreDispute.bond

/-- The bonds of all open disputes. -/
noncomputable def openBonds (w : State) : Int := ∑ entry, bondOf w entry

/-! ### Bonds -/

@[reducible] def Tag.isAdmin : Tag → Bool
  | .admin => true
  | _ => false

section Bonds

variable {w w' : State} {wallet : Address} {pair : Symbol}

theorem openBonds_of_same (same : Same Tag.isDocket w w') : openBonds w' = openBonds w := by
  unfold openBonds bondOf disputeOf
  simp only [same.entry _ (.scoreDispute _ _) rfl]

theorem BondsPositive.of_same (positive : BondsPositive w) (same : Same Tag.isDocket w w') :
    BondsPositive w' := by
  intro wallet pair dispute isOpen
  exact positive wallet pair dispute ((same.entry _ _ rfl).symm.trans isOpen)

theorem PutsDispute.openBonds_eq {dispute : Option ScoreDispute}
    (puts : PutsDispute wallet pair dispute w w') :
    openBonds w' =
      openBonds w - bondOf w (wallet, pair) + dispute.elim 0 ScoreDispute.bond := by
  have updated : bondOf w' =
      Function.update (bondOf w) (wallet, pair) (dispute.elim 0 ScoreDispute.bond) := by
    funext ⟨wallet', assetPair'⟩
    rw [Function.update_apply, bondOf, puts]
    split <;> rfl
  rw [openBonds, updated, sum_update, openBonds]

theorem PutsDispute.bondsPositive {dispute : Option ScoreDispute} (positive : BondsPositive w)
    (puts : PutsDispute wallet pair dispute w w') (ofNew : ∀ d ∈ dispute, 0 < d.bond) :
    BondsPositive w' := by
  intro wallet' assetPair' d isOpen
  rw [puts] at isOpen
  split at isOpen
  · exact ofNew d isOpen
  · exact positive wallet' assetPair' d isOpen

end Bonds

/-! ### Signers -/

/-- Signers that all count, and a threshold that they reach. Without signers it is at most one. -/
structure Quorate (limit : Nat) (signers : List Address) (threshold : Nat) : Prop where
  nodup : signers.Nodup
  size : signers.length ≤ limit
  reached : threshold ≤ max 1 signers.length

/-- Both sets of signers are in order. -/
def Staffed (w : State) : Prop :=
  Quorate maxAdminSigners (adminSet w) (adminThreshold w) ∧
    Quorate maxServiceSigners (serviceSet w) (serviceThreshold w)

@[reducible] def Tag.isSigners : Tag → Bool
  | .adminSet | .adminThreshold | .serviceSet | .serviceThreshold => true
  | _ => false

/-! ### Calls -/

/-- The bonds a call puts up or gives back. -/
def bondFlow (w : State) : Call → Int
  | .user (.openScoreDispute _ _ _ bond _) => bond
  | .user (.resolveDisputeTimeout wallet pair) => -bondOf w (wallet, pair)
  | .admins _ (.resolveDisputeAdmin wallet pair _) => -bondOf w (wallet, pair)
  | _ => 0

structure MovesBonds (flow : Int) (w w' : State) : Prop where
  total : openBonds w' = openBonds w + flow
  positive : BondsPositive w'

section Calls

variable {env : ContractEnv} {w w' : State} {u : Unit}

theorem bondFlow_of_silent {call : Call}
    (silent : ∀ wallet pair, ¬ call.opens wallet pair ∧ ¬ call.settles wallet pair) :
    bondFlow w call = 0 := by
  unfold bondFlow
  split
  · exact ((silent _ _).1 ⟨rfl, rfl⟩).elim
  · exact ((silent _ _).2 ⟨rfl, rfl⟩).elim
  · exact ((silent _ _).2 ⟨rfl, rfl⟩).elim
  · rfl

theorem OpensDispute.movesBonds {challenger wallet : Address} {pair : Symbol} {bond : Int}
    (bonds : BondsPositive w) (free : disputeOf w wallet pair = none) (positive : 0 < bond)
    (opens : OpensDispute env challenger wallet pair bond w w') : MovesBonds bond w w' := by
  obtain ⟨dispute, puts, rfl⟩ := opens.opened
  refine ⟨?_, puts.bondsPositive bonds fun d isNew => ?_⟩
  · rw [puts.openBonds_eq, bondOf, free, Option.elim_none, sub_zero, Option.elim_some]
  · rwa [← Option.some.inj isNew]

theorem SettlesDispute.movesBonds {wallet : Address} {pair : Symbol} {payout : Int → Int}
    (bonds : BondsPositive w) (settles : SettlesDispute env wallet pair payout w w') :
    MovesBonds (-bondOf w (wallet, pair)) w w' := by
  refine ⟨?_, settles.closed.bondsPositive bonds nofun⟩
  rw [settles.closed.openBonds_eq, Option.elim_none, add_zero, Int.sub_eq_add_neg]

theorem exec_bonds {call : Call} (bonds : BondsPositive w)
    (ran : exec call env w = .ok u w') : MovesBonds (bondFlow w call) w w' := by
  cases exec_disputes bonds ran with
  | opened opening =>
    obtain ⟨free, positive, _, opens⟩ := openScoreDispute_opens ran
    exact opens.movesBonds bonds free positive
  | timedOut _ settling => exact settling.settles.movesBonds bonds
  | corrected settling => exact settling.settles.movesBonds bonds
  | other silent same =>
    rw [bondFlow_of_silent silent]
    exact ⟨by rw [openBonds_of_same same, add_zero], bonds.of_same same⟩

/-- Whoever becomes admin signs for it, and the seat is never left empty. -/
theorem exec_admin {call : Call} (ran : exec call env w = .ok u w') :
    adminOf w' = adminOf w ∨ ∃ newAdmin, env.signed newAdmin = true ∧
      adminOf w' = some newAdmin := by
  have unchanged (free : (footprint call).all (fun t => !t.isAdmin) = true) :
      adminOf w' = adminOf w := by
    have same : Same Tag.isAdmin w w' := About.of_all free ((exec_keeps call).ok ran)
    exact same.entry _ _ rfl
  rcases call with call | ⟨signers, call⟩ | call
  · cases call
    case initializeContract newAdmin service =>
      simp only [ok_iff_wp, exec, execUser, initializeContract, wp_bind, wp_has, wp_require,
        wp_requireAuth, wp_save] at ran
      obtain ⟨_, ⟨signed, _⟩, _, rfl⟩ := ran
      exact .inr ⟨newAdmin, signed, by simp [adminOf, Ledger.entry_put_of_ne]⟩
    case acceptAdmin =>
      simp only [ok_iff_wp, exec, execUser, acceptAdmin, wp_bind, wp_has, wp_require, wp_load,
        wp_okOr, wp_requireAuth, wp_save, wp_erase] at ran
      obtain ⟨_, pending, _, ⟨signed, _⟩, _, rfl⟩ := ran
      exact .inr ⟨pending, signed, by simp [adminOf, Ledger.entry_put_of_ne]⟩
    all_goals exact .inl (unchanged rfl)
  · exact .inl (unchanged (by cases call <;> rfl))
  · exact .inl (unchanged (by cases call <;> rfl))

theorem exec_staffed {call : Call} (staffed : Staffed w)
    (ran : exec call env w = .ok u w') : Staffed w' := by
  have unchanged (free : (footprint call).all (fun t => !t.isSigners) = true) : Staffed w' := by
    have same : Same Tag.isSigners w w' := About.of_all free ((exec_keeps call).ok ran)
    have entry (k : DataKey) := same.entry .inst k
    unfold Staffed
    rwa [adminThreshold, adminSet, serviceThreshold, serviceSet, entry _ rfl, entry _ rfl,
      entry _ rfl, entry _ rfl]
  unfold Staffed at staffed ⊢
  rcases call with call | ⟨signers, call⟩ | call
  · exact unchanged (by cases call <;> rfl)
  · cases call
    case addAdminSigner | removeAdminSigner | setAdminThreshold =>
      obtain ⟨v, ⟨same, _⟩, changed⟩ := asPolicyAdmins_ok ran
      simp [ok_iff_wp, appendGovernanceAction, same] at changed
      -- the state after the call is written out, what is left is about lists and their lengths
      grind [Ledger.entry_put_of_ne, Ledger.entry_put_self, Quorate, List.Nodup.erase,
        List.nodup_append]
    case addServiceSigner | removeServiceSigner | setServiceThreshold =>
      obtain ⟨v, v', ⟨⟩, ⟨same, _⟩, changed⟩ := asAdmins_ok ran
      simp [ok_iff_wp, appendGovernanceAction, recordSignerState, same] at changed
      grind [Ledger.entry_put_of_ne, Ledger.entry_put_self, Quorate, List.Nodup.erase,
        List.nodup_append]
    all_goals exact unchanged rfl
  · exact unchanged (by cases call <;> rfl)

end Calls

/-- Over any run the administrator stays, or is one who signed for the very transaction that
seated them: the seat is neither vacated nor given to anyone without their consent. -/
theorem admin_consents (w : State) (txs : List Transaction) :
    adminOf (run exec w txs) = adminOf w ∨ ∃ before tx after admin,
      txs = before ++ tx :: after ∧ Returns exec (run exec w before) tx ∧
        tx.env.signed admin = true ∧
        adminOf (step exec (run exec w before) tx) = some admin ∧
        adminOf (run exec w txs) = some admin := by
  induction txs generalizing w with
  | nil => exact .inl rfl
  | cons tx rest ih =>
    rcases ih (step exec w tx) with same | ⟨before, other, after, admin, rfl, seated⟩
    · rw [run_cons, same]
      by_cases returns : Returns exec w tx
      · rcases exec_admin returns.ok with kept | ⟨admin, signed, seated⟩
        · exact .inl kept
        · exact .inr ⟨[], tx, rest, admin, rfl, returns, signed, seated, seated⟩
      · exact .inl (by rw [step_of_not_returns returns])
    · exact .inr ⟨tx :: before, other, after, admin, rfl, seated⟩

/-- However signers come and go, none is listed twice, there are no more than allowed, and nobody
locks the others out: the threshold can be met. -/
theorem signers_stay_quorate (balances : Balances) (txs : List Transaction) :
    Staffed (run exec (genesis balances) txs) := by
  refine run_induction (I := Staffed) (fun w tx staffed => ?_) ?_
  · by_cases returns : Returns exec w tx
    · exact exec_staffed (w := { w with authorized := [] }) staffed returns.ok
    · rwa [step_of_not_returns returns]
  · exact ⟨⟨.nil, Nat.zero_le _, Nat.zero_le _⟩, ⟨.nil, Nat.zero_le _, le_max_left ..⟩⟩

end LedgerLens
