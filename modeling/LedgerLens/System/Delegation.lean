import LedgerLens.Entry.Readers
import LedgerLens.Host.Chain
import LedgerLens.System.Authority
import LedgerLens.System.Footprints

/-!
Delegation. A wallet without a score of its own may have that of a custodian,
and a custodian may delegate in turn. What is registered is checked for cycles
over a bounded number of hops only, and the readers follow the chain over
different numbers of hops. The main result is `run_delegates_acyclic`.
-/

namespace LedgerLens

open Host Host.Prog Host.Chain Storage

/-! ### Cycles -/

/-- The walk of `set_score_delegate` finds no way back exactly when none of the
custodians it visits delegates to the wallet. -/
theorem leadsBack_eq_false_iff {w : State} {subWallet current : Address} {depth : Nat} :
    leadsBack w.ledger subWallet depth current = false ↔
      ∀ n < depth, hops (delegateOf w) (n + 1) current ≠ some subWallet := by
  induction depth generalizing current with
  | zero => simp [leadsBack]
  | succ depth ih =>
    have along (n : Nat) :
        hops (delegateOf w) (n + 1) current =
          (delegateOf w current).bind (hops (delegateOf w) n) := rfl
    have walk : leadsBack w.ledger subWallet (depth + 1) current =
        (delegateOf w current).elim false fun next =>
          next = subWallet || leadsBack w.ledger subWallet depth next := rfl
    simp only [along, walk]
    cases delegateOf w current with
    | none => simp
    | some custodian =>
      rw [Nat.forall_lt_succ_left]
      simp [ih, hops]

section Steps

variable {env : ContractEnv} {w w' : State} {subWallet custodian : Address} {u : Unit}

theorem delegateOf_put (ledger : Ledger DataKey Val) (custodian : Option Address) :
    delegateOf { w with ledger := ledger.put .persistent (.scoreDelegate subWallet) custodian } =
      Function.update (delegateOf { w with ledger }) subWallet custodian := by
  funext wallet
  by_cases same : wallet = subWallet
  · subst same
    rw [Function.update_self]
    exact Ledger.entry_put_self ..
  · rw [Function.update_of_ne same]
    exact Ledger.entry_put_of_ne _ _ (by simpa using same)

theorem setScoreDelegate_links (ran : setScoreDelegate subWallet custodian env w = .ok u w') :
    custodian ≠ subWallet ∧
      (∀ n < maxDelegationDepth, hops (delegateOf w) (n + 1) custodian ≠ some subWallet) ∧
        delegateOf w' = Function.update (delegateOf w) subWallet (some custodian) := by
  simp [ok_iff_wp, setScoreDelegate, asSingleAdmin, requireSingleAdmin] at ran
  obtain ⟨_, admin, _, _, other, noWayBack, rfl⟩ := ran
  exact ⟨other, leadsBack_eq_false_iff.mp noWayBack, delegateOf_put _ _⟩

theorem removeScoreDelegate_links (ran : removeScoreDelegate subWallet env w = .ok u w') :
    delegateOf w' = Function.update (delegateOf w) subWallet none := by
  simp [ok_iff_wp, removeScoreDelegate, asSingleAdmin, requireSingleAdmin] at ran
  obtain ⟨_, admin, _, _, _, rfl⟩ := ran
  exact delegateOf_put _ _

/-- Only the two calls for it move a delegation. -/
theorem scoreDelegate_mem_footprint {call : Call} (writes : Tag.scoreDelegate ∈ footprint call) :
    (∃ subWallet custodian, call = .soleAdmin (.setScoreDelegate subWallet custodian)) ∨
      ∃ subWallet, call = .soleAdmin (.removeScoreDelegate subWallet) := by
  rcases call with call | ⟨signers, call⟩ | call
  · exact absurd writes (by cases call <;> (dsimp only [footprint, userFootprint]; decide))
  · exact absurd writes (by cases call <;> (dsimp only [footprint, adminFootprint]; decide))
  · cases call
    case setScoreDelegate subWallet custodian => exact .inl ⟨subWallet, custodian, rfl⟩
    case removeScoreDelegate subWallet => exact .inr ⟨subWallet, rfl⟩
    all_goals exact absurd writes (by dsimp only [footprint, soleAdminFootprint]; decide)

end Steps

/-- A delegation is registered only with a custodian whose own chain of
custodians ends within the depth the registration looks at. -/
def ShortChain (w : State) (tx : Transaction) : Prop :=
  ∀ subWallet custodian, tx.call = .soleAdmin (.setScoreDelegate subWallet custodian) →
    hops (delegateOf w) (maxDelegationDepth + 1) custodian = none

theorem step_delegates_acyclic {w : State} {tx : Transaction} (acyclic : Acyclic (delegateOf w))
    (short : ShortChain w tx) : Acyclic (delegateOf (step exec w tx)) := by
  by_cases returns : Returns exec w tx
  · by_cases writes : Tag.scoreDelegate ∈ footprint tx.call
    · have ran := returns.ok
      rcases scoreDelegate_mem_footprint writes with
        ⟨subWallet, custodian, isSet⟩ | ⟨subWallet, isRemove⟩
      · rw [isSet] at ran
        obtain ⟨other, noWayBack, links⟩ := setScoreDelegate_links ran
        rw [links]
        -- the walk has seen all of a chain that ends in time
        refine acyclic.update_some (hops_ne_of_ended (short _ _ isSet) fun n shorter reached => ?_)
        cases n with
        | zero => exact other (Option.some.inj reached)
        | succ n => exact noWayBack n (Nat.lt_of_succ_lt_succ shorter) reached
      · rw [isRemove] at ran
        rw [removeScoreDelegate_links ran]
        exact acyclic.update_none
    · have same : delegateOf (step exec w tx) = delegateOf w :=
        funext fun wallet => step_entry writes
      rwa [same]
  · rwa [step_of_not_returns returns]

/-- Delegations stay without a cycle of any length along every run that only
registers custodians whose chains are short enough to be seen whole. -/
theorem run_delegates_acyclic {w : State} {txs : List Transaction}
    (start : Acyclic (delegateOf w)) (short : Along exec ShortChain w txs) :
    Acyclic (delegateOf (run exec w txs)) :=
  run_invariant (fun _ _ => step_delegates_acyclic) start short

/-- The admin registers `custodian` for `wallet`. -/
def delegateTx (wallet custodian : UInt8) : Transaction :=
  soleSample (.setScoreDelegate (account wallet) (account custodian))

theorem deployed_delegateOf (wallet : Address) : delegateOf deployed wallet = none := by
  have untouched : delegateOf (step exec blank
      initSample) wallet = none :=
    step_entry (by dsimp only [footprint, userFootprint, DataKey.tag]; decide)
  exact untouched

/-- Two registrations in a row, the first one with a custodian that will
delegate itself. -/
theorem delegates_acyclic_of_two :
    Along exec ShortChain deployed [delegateTx 11 12, delegateTx 12 13] ∧
      Acyclic (delegateOf (run exec deployed [delegateTx 11 12, delegateTx 12 13])) := by
  have short : Along exec ShortChain deployed [delegateTx 11 12, delegateTx 12 13] := by
    refine ⟨?_, ?_, trivial⟩
    all_goals
      rintro _ _ ⟨⟩
      decide +kernel
  exact ⟨short, run_delegates_acyclic (acyclic_of_forall_eq_none deployed_delegateOf) short⟩

/-- Seven wallets, each delegating to the next and the last one to the first:
the walk of the last registration stops one hop before it is back. -/
theorem delegates_cycle_of_seven :
    hops (delegateOf (run exec deployed
        [delegateTx 11 12, delegateTx 12 13, delegateTx 13 14, delegateTx 14 15, delegateTx 15 16,
          delegateTx 16 17, delegateTx 17 11])) 7 (account 11) = some (account 11) := by
  decide +kernel

/-! ### What a lookup finds -/

section Lookup

variable {env : ContractEnv} {w : State} {wallet owner : Address} {pair : Symbol}
  {score : RiskScore} {n : Nat}

/-- The score found `n` hops along the delegates of the wallet. -/
abbrev ScoreFound (w : State) (pair : Symbol) (n : Nat) (wallet owner : Address)
    (score : RiskScore) : Prop :=
  Found (delegateOf w) (fun a => liveScore w a pair) n wallet owner score

/-- One hop of the walk. -/
theorem followDelegates_succ (depth : Nat) (visited : List Address) (current : Address) :
    followDelegates pair (depth + 1) visited current env w =
      if current ∈ visited then .err .cyclicDelegation w
      else (delegateOf w current).elim (.ok none w) fun custodian =>
        (liveScore w custodian pair).elim
          (followDelegates pair depth (visited ++ [current]) custodian env w)
          fun score => .ok (some score) w := by
  conv_lhs => unfold followDelegates
  by_cases again : current ∈ visited
  · simp [again, run_bind, require]
  · have goesOn : (require (current ∉ visited) .cyclicDelegation : M Unit) env w = .ok () w := by
      simp [again, require]
    have reads : getScoreDelegate current env w = .ok (delegateOf w current) w := rfl
    rw [if_neg again, run_bind_of_ok goesOn, run_bind_of_ok reads]
    cases delegateOf w current with
    | none => rfl
    | some custodian =>
      have scored : getScore custodian pair env w = .ok (liveScore w custodian pair) w :=
        rfl
      rw [Option.elim_some, Option.elim_some, run_bind_of_ok scored]
      cases liveScore w custodian pair <;> rfl

/-- A score that lies ahead is found, whatever was visited before: a visited
wallet is further away from the score than the current one. -/
theorem followDelegates_found {depth : Nat} {visited : List Address} {current : Address}
    (found : ScoreFound w pair (n + 1) current owner score) (near : n < depth)
    (further : ∀ a ∈ visited, ∃ m > n + 1, ∃ o s, ScoreFound w pair m a o s) :
    followDelegates pair depth visited current env w = .ok (some score) w := by
  induction depth generalizing n visited current with
  | zero => exact absurd near (Nat.not_lt_zero n)
  | succ depth ih =>
    have fresh : current ∉ visited := by
      intro listed
      obtain ⟨m, later, o, s, again⟩ := further current listed
      exact absurd (found.unique again).1 (Nat.ne_of_lt later)
    obtain ⟨missing, custodian, step, rest⟩ := found_succ_iff.mp found
    rw [followDelegates_succ, if_neg fresh, step, Option.elim_some]
    cases n with
    | zero =>
      obtain ⟨rfl, held⟩ := found_zero_iff.mp rest
      rw [held]
      rfl
    | succ n =>
      obtain ⟨unscored, _⟩ := found_succ_iff.mp rest
      rw [unscored, Option.elim_none]
      refine ih rest (Nat.lt_of_succ_lt_succ near) fun a listed => ?_
      rcases List.mem_append.mp listed with listed | isCurrent
      · obtain ⟨m, later, ahead⟩ := further a listed
        exact ⟨m, Nat.lt_of_succ_lt later, ahead⟩
      · obtain rfl := List.mem_singleton.mp isCurrent
        exact ⟨n + 2, Nat.lt_succ_self _, owner, score, found⟩

/-- Without a score ahead the walk fails when it comes to a wallet it has
visited, and otherwise finds nothing. -/
theorem followDelegates_missing {depth : Nat} {visited : List Address} {current : Address}
    (unscored : liveScore w current pair = none)
    (missing : ∀ n ≤ depth, ∀ o s, ¬ ScoreFound w pair n current o s) :
    (Meets (delegateOf w) depth visited current ∧
        followDelegates pair depth visited current env w = .err .cyclicDelegation w) ∨
      (¬ Meets (delegateOf w) depth visited current ∧
        followDelegates pair depth visited current env w = .ok none w) := by
  induction depth generalizing visited current with
  | zero => exact .inr ⟨not_meets_zero, rfl⟩
  | succ depth ih =>
    rw [followDelegates_succ, meets_succ_iff]
    by_cases again : current ∈ visited
    · exact .inl ⟨.inl again, if_pos again⟩
    · rw [if_neg again]
      cases step : delegateOf w current with
      | none => exact .inr ⟨by simp [again], rfl⟩
      | some custodian =>
        have ahead (n : Nat) (near : n ≤ depth) (o : Address) (s : RiskScore) :
            ¬ ScoreFound w pair n custodian o s := fun found =>
          missing (n + 1) (Nat.succ_le_succ near) o s (.there unscored step found)
        have unscored : liveScore w custodian pair = none := by
          cases held : liveScore w custodian pair with
          | none => rfl
          | some s => exact absurd (.here held) (ahead 0 (Nat.zero_le _) custodian s)
        rw [Option.elim_some, unscored, Option.elim_none]
        rcases ih unscored ahead with ⟨meets, failed⟩ | ⟨clear, ended⟩
        · exact .inl ⟨.inr ⟨custodian, rfl, meets⟩, failed⟩
        · refine .inr ⟨?_, ended⟩
          rintro (listed | ⟨_, ⟨⟩, meets⟩)
          · exact again listed
          · exact clear meets

theorem lookupScore_of_embargoed (embargo : embargoed env w wallet = true) :
    lookupScore wallet pair env w = .err .scoreEmbargoed w := by
  unfold lookupScore
  rw [run_bind_of_ok (isEmbargoed_run env w wallet), embargo]
  rfl

/-- Past the embargo, the wallet's own score or the walk decides. -/
theorem lookupScore_of_open (open_ : embargoed env w wallet = false) :
    lookupScore wallet pair env w =
      (liveScore w wallet pair).elim
        (followDelegates pair maxDelegationDepth [] wallet env w)
        fun score => .ok (some score) w := by
  have passes : (require (!false) .scoreEmbargoed : M Unit) env w = .ok () w := rfl
  have scored : getScore wallet pair env w = .ok (liveScore w wallet pair) w := rfl
  unfold lookupScore
  rw [run_bind_of_ok (isEmbargoed_run env w wallet), open_, run_bind_of_ok passes,
    run_bind_of_ok scored]
  cases liveScore w wallet pair <;> rfl

/-- A lookup returns the first score along the chain when it is near enough. -/
theorem lookupScore_found (open_ : embargoed env w wallet = false) (near : n ≤ maxDelegationDepth)
    (found : ScoreFound w pair n wallet owner score) :
    lookupScore wallet pair env w = .ok (some score) w := by
  rw [lookupScore_of_open open_]
  cases n with
  | zero =>
    rw [(found_zero_iff.mp found).2]
    rfl
  | succ n =>
    rw [(found_succ_iff.mp found).1, Option.elim_none]
    exact followDelegates_found found near fun a listed => absurd listed List.not_mem_nil

/-- Without a score near enough it fails when the chain comes back to a wallet,
and otherwise returns nothing. -/
theorem lookupScore_missing (open_ : embargoed env w wallet = false)
    (missing : ∀ n ≤ maxDelegationDepth, ∀ o s, ¬ ScoreFound w pair n wallet o s) :
    (Revisits (delegateOf w) maxDelegationDepth wallet ∧
        lookupScore wallet pair env w = .err .cyclicDelegation w) ∨
      (¬ Revisits (delegateOf w) maxDelegationDepth wallet ∧
        lookupScore wallet pair env w = .ok none w) := by
  have unscored : liveScore w wallet pair = none := by
    cases held : liveScore w wallet pair with
    | none => rfl
    | some s => exact absurd (.here held) (missing 0 (Nat.zero_le _) wallet s)
  rw [lookupScore_of_open open_, unscored, Option.elim_none, ← meets_nil_iff]
  exact followDelegates_missing unscored missing

end Lookup

end LedgerLens
