import LedgerLens.Host.Limiter
import LedgerLens.System.Payments
import LedgerLens.System.Rent

/-!
Rewards for keepers. A keeper is rewarded for renewing an entry whose estimated
remaining lifetime has come down to the reward window. A renewal puts the
estimate back to the threshold, so with a window below the threshold an entry is
not rewarded twice in a row; a window as wide as the threshold is accepted too. The main result is
`rewarded_renewals_spaced_iff`.
-/

namespace LedgerLens

open Host Host.Prog Storage

/-! ### The pool -/

abbrev keeperPool (w : State) : Int := (w.ledger.entry .inst .keeperRewardPool).getD 0

abbrev keeperCap (w : State) : Int := (w.ledger.entry .inst .keeperRewardPerLedgerCap).getD 0

/-- What keepers were paid in a ledger. -/
abbrev keeperSpent (w : State) (sequence : Nat) : Int :=
  (w.ledger.entry .temporary (.keeperRewardLedgerSpent sequence)).getD 0

/-- What a keeper is paid of a requested reward. -/
def keeperPayable (env : ContractEnv) (w : State) (requested : Int) : Int :=
  if keeperCap w > 0 then
    min (min requested (keeperPool w))
      (max (satSubI128 (keeperCap w) (keeperSpent w env.sequence)) 0)
  else min requested (keeperPool w)

section Pool

variable {env : ContractEnv} {w : State}

@[simp] theorem wp_keeperRewardPayable {Q : Int → State → Prop} (requested : Int) :
    wp (keeperRewardPayable requested) Q env w ↔ Q (keeperPayable env w requested) w := by
  simp only [keeperRewardPayable, keeperPayable, wp_bind, wp_loadOr, wp_ite, wp_asks, wp_pure]
  split <;> rfl

end Pool

/-- What a payment to a keeper changes. -/
@[reducible] def Tag.isKeeperPool : Tag → Bool
  | .keeperRewardPool | .keeperRewardLedgerSpent => true
  | _ => false

/-! ### Renewals that are rewarded -/

abbrev keeperPerEntry (w : State) : Int := (w.ledger.entry .inst .keeperRewardPerEntry).getD 0

abbrev keeperWindow (w : State) : Nat :=
  (w.ledger.entry .inst .keeperRewardWindow).getD defaultKeeperRewardWindow

/-- The entries of a list that the loop of `keeper_extend_entry_ttls` renews, in
the order of the list. -/
def renewedEntries (env : ContractEnv) : State → List Entry → List Entry
  | _, [] => []
  | w, entry :: rest =>
    match keeperRenew 0 entry env w with
    | .ok renewed w' => (if renewed = 1 then [entry] else []) ++ renewedEntries env w' rest
    | _ => []

/-- A call by a keeper: the account to be rewarded and the entries to renew. -/
abbrev KeeperCall := Address × List Entry

def execKeeper (call : KeeperCall) : M Unit := dropResult (keeperExtendEntryTtls call.1 call.2)

/-- The renewals of a transaction that count towards a reward, with the ledger
they happen in. -/
def rewardedRenewals (w : State) (tx : Tx External KeeperCall) : List (Nat × Entry) :=
  if Returns execKeeper w tx ∧ keeperPerEntry w > 0 then
    (renewedEntries tx.env { w with authorized := [tx.call.1] } tx.call.2).map
      fun entry => (tx.env.sequence, entry)
  else []

/-- Renewals of one entry are in different ledgers, at least `gap` apart. -/
def Spaced (gap : Nat) (renewals : List (Nat × Entry)) : Prop :=
  renewals.Pairwise fun a b => a.2 = b.2 → a.1 ≠ b.1 ∧ a.1 + gap ≤ b.1

/-! ### One entry -/

/-- The entry has a score and is estimated to live no longer than the window. -/
def Tracking.rewardable (t : Tracking) (window sequence : Nat) (entry : Entry) : Bool :=
  t.live entry && (t.touched entry).elim false fun last =>
    scoreTtlThreshold - (sequence - last) ≤ window

@[reducible] def Tag.isKeeperParams : Tag → Bool
  | .keeperRewardPerEntry | .keeperRewardWindow => true
  | _ => false

section Entries

variable {env : ContractEnv} {w : State}

theorem keeperEntryEligible_run (env : ContractEnv) (w : State) (entry : Entry) :
    keeperEntryEligible entry.1 entry.2 env w =
      .ok (((tracking w.ledger).touched entry).elim false fun last =>
        scoreTtlThreshold - (env.sequence - last) ≤ keeperWindow w) w := rfl

/-- The loop body: an entry that is rewardable is renewed and counted. -/
theorem keeperRenew_returns (env : ContractEnv) (w : State) (entry : Entry) :
    ∃ w', (∀ renewed, keeperRenew renewed entry env w =
        .ok (renewed + if (tracking w.ledger).rewardable (keeperWindow w) env.sequence entry then 1
          else 0) w') ∧
      tracking w'.ledger =
        if (tracking w.ledger).rewardable (keeperWindow w) env.sequence entry then
          (tracking w.ledger).touch env.sequence entry
        else tracking w.ledger := by
  unfold keeperRenew Tracking.rewardable
  simp only [run_bind_of_ok (keeperEntryEligible_run env w entry)]
  cases Option.elim _ _ _ with
  | false => exact ⟨w, by simp, by simp⟩
  | true =>
    obtain ⟨live, w', extended, rfl, tracked⟩ :=
      extendScoreEntryTtl_tracking env w entry.1 entry.2
    refine ⟨w', ?_, ?_⟩
    · intro renewed
      rw [Bool.and_true]
      exact run_bind_of_ok extended
    · rw [Bool.and_true]
      exact tracked

theorem keeperWindow_renew {renewed count : Nat} {entry : Entry} {w' : State}
    (ran : keeperRenew renewed entry env w = .ok count w') : keeperWindow w' = keeperWindow w := by
  have same : Same Tag.isKeeperParams w w' := Keeps.ok ran
  rw [keeperWindow, same.entry _ _ rfl]

end Entries

/-! ### Whole runs -/

/-- Renewals that are spaced among each other, and from the last touch of their
entries. -/
structure Follows (gap : Nat) (t : Tracking) (renewals : List (Nat × Entry)) : Prop where
  spaced : Spaced gap renewals
  after : ∀ renewal ∈ renewals, ∀ last, t.touched renewal.2 = some last → last + gap ≤ renewal.1

section Runs

variable {env : ContractEnv} {w w' : State} {gap window sequence : Nat} {t : Tracking}
  {entry : Entry} {later : List (Nat × Entry)}

/-- A rewardable entry was touched long ago, and what comes later keeps its
distance from this renewal. -/
theorem Follows.cons (below : window < scoreTtlThreshold)
    (rewardable : t.rewardable window sequence entry = true)
    (follows : Follows (scoreTtlThreshold - window) (t.touch sequence entry) later) :
    Follows (scoreTtlThreshold - window) t ((sequence, entry) :: later) := by
  have old (last : Nat) (touched : t.touched entry = some last) :
      last + (scoreTtlThreshold - window) ≤ sequence := by
    simp only [Tracking.rewardable, touched, Option.elim_some, Bool.and_eq_true,
      decide_eq_true_eq] at rewardable
    omega
  have again (renewal : Nat × Entry) (listed : renewal ∈ later)
      (same : renewal.2 = entry) : sequence + (scoreTtlThreshold - window) ≤ renewal.1 :=
    follows.after renewal listed sequence (by rw [same]; exact Function.update_self ..)
  refine ⟨List.pairwise_cons.mpr ⟨fun renewal listed same => ?_, follows.spaced⟩, ?_⟩
  · have := again renewal listed same.symm
    dsimp only
    omega
  · intro renewal listed last touched
    rcases List.mem_cons.mp listed with rfl | listed
    · exact old last touched
    · by_cases same : renewal.2 = entry
      · have := again renewal listed same
        have := old last (same ▸ touched)
        omega
      · exact follows.after renewal listed last ((Function.update_of_ne same _ _).trans touched)

/-- The loop renews what it counts. -/
theorem Follows.fold {entries : List Entry} {renewed count : Nat}
    (below : keeperWindow w < scoreTtlThreshold)
    (ran : fold keeperRenew renewed entries env w = .ok count w')
    (follows : Follows (scoreTtlThreshold - keeperWindow w) (tracking w'.ledger) later) :
    count = renewed + (renewedEntries env w entries).length ∧
      Follows (scoreTtlThreshold - keeperWindow w) (tracking w.ledger)
        ((renewedEntries env w entries).map (fun entry => (env.sequence, entry)) ++ later) := by
  induction entries generalizing w renewed with
  | nil =>
    cases ran
    exact ⟨rfl, follows⟩
  | cons entry rest ih =>
    obtain ⟨v, first, tracked⟩ := keeperRenew_returns env w entry
    have same := keeperWindow_renew (first renewed)
    unfold Host.Prog.fold at ran
    rw [run_bind_of_ok (first renewed)] at ran
    rw [← same] at follows below
    obtain ⟨counted, follows⟩ := ih below ran follows
    rw [same] at follows below
    rw [renewedEntries, first 0]
    by_cases rewardable : (tracking w.ledger).rewardable (keeperWindow w) env.sequence entry = true
    · rw [if_pos rewardable] at tracked counted ⊢
      rw [tracked] at follows
      refine ⟨?_, Follows.cons below rewardable follows⟩
      simp only [if_true, List.length_append, List.length_singleton]
      omega
    · rw [if_neg rewardable] at tracked counted ⊢
      rw [tracked] at follows
      exact ⟨counted, follows⟩

/-- What a call that returns does to the entries is done by its loop. -/
theorem keeperExtendEntryTtls_loop {keeper : Address} {entries : List Entry}
    {renewed : Nat} {paid : Int}
    (ran : keeperExtendEntryTtls keeper entries env w = .ok (renewed, paid) w') :
    ∃ v, fold keeperRenew 0 entries env { w with authorized := keeper :: w.authorized } =
      .ok renewed v ∧ SameTracking v w' := by
  obtain ⟨_, _, ⟨⟩, ran⟩ := bind_ok.mp ran
  obtain ⟨_, ran⟩ := require_bind_ok.mp ran
  obtain ⟨_, ran⟩ := require_bind_ok.mp ran
  obtain ⟨_, v₁, authorized, ran⟩ := bind_ok.mp ran
  obtain ⟨reward, _, ⟨⟩, ran⟩ := bind_ok.mp ran
  obtain ⟨count, v₂, folded, paying⟩ := bind_ok.mp ran
  obtain ⟨_, rfl⟩ := requireAuth_ok.mp authorized
  split at paying
  · obtain ⟨_, _, payment, ⟨⟩⟩ := bind_ok.mp paying
    exact ⟨v₂, folded, Keeps.ok payment⟩
  · cases paying
    exact ⟨_, folded, Std.Refl.refl _⟩

/-- The parameters are not for keepers to change. -/
theorem step_keeperParams (w : State) (tx : Tx External KeeperCall) :
    Same Tag.isKeeperParams w (step execKeeper w tx) := by
  have keeps : Keeps (Same Tag.isKeeperParams) (execKeeper tx.call) := by
    unfold execKeeper
    infer_instance
  rcases invoke_cases (execKeeper tx.call) tx.env w with same | ⟨_, ran⟩
  · rw [step, same]
    exact Std.Refl.refl w
  · exact ⟨(keeps.ok ran).entry, by rintro ⟨⟩, by rintro ⟨⟩⟩

theorem Follows.step {tx : Tx External KeeperCall} (below : keeperWindow w < scoreTtlThreshold)
    (rewarded : keeperPerEntry w > 0)
    (follows : Follows (scoreTtlThreshold - keeperWindow w)
      (tracking (step execKeeper w tx).ledger) later) :
    Follows (scoreTtlThreshold - keeperWindow w) (tracking w.ledger)
      (rewardedRenewals w tx ++ later) := by
  unfold rewardedRenewals
  by_cases returns : Returns execKeeper w tx
  · rw [if_pos ⟨returns, rewarded⟩]
    obtain ⟨⟨renewed, paid⟩, _, ran, ⟨⟩⟩ := bind_ok.mp returns.ok
    obtain ⟨v, folded, same⟩ := keeperExtendEntryTtls_loop ran
    unfold SameTracking at same
    rw [same] at follows
    exact (Follows.fold (w := { w with authorized := [tx.call.1] }) below folded follows).2
  · rw [if_neg fun both => returns both.1, List.nil_append]
    rwa [step_of_not_returns returns] at follows

theorem follows_run {txs : List (Tx External KeeperCall)}
    (below : keeperWindow w < scoreTtlThreshold) (rewarded : keeperPerEntry w > 0) :
    Follows (scoreTtlThreshold - keeperWindow w) (tracking w.ledger)
      (trace execKeeper rewardedRenewals w txs).flatten := by
  induction txs generalizing w with
  | nil => exact ⟨List.Pairwise.nil, nofun⟩
  | cons tx rest ih =>
    have params := step_keeperParams w tx
    have window : keeperWindow (step execKeeper w tx) = keeperWindow w := by
      rw [keeperWindow, params.entry _ _ rfl]
    have perEntry : keeperPerEntry (step execKeeper w tx) = keeperPerEntry w := by
      rw [keeperPerEntry, params.entry _ _ rfl]
    have later := ih (w := step execKeeper w tx) (window ▸ below) (perEntry ▸ rewarded)
    rw [window] at later
    exact later.step below rewarded

/-- Without a reward no renewal counts towards one. -/
theorem rewardedRenewals_run_of_unrewarded {txs : List (Tx External KeeperCall)}
    (unrewarded : keeperPerEntry w = 0) :
    (trace execKeeper rewardedRenewals w txs).flatten = [] := by
  induction txs generalizing w with
  | nil => rfl
  | cons tx rest ih =>
    have perEntry : keeperPerEntry (step execKeeper w tx) = keeperPerEntry w := by
      rw [keeperPerEntry, (step_keeperParams w tx).entry _ _ rfl]
    rw [trace, List.flatten_cons, ih (perEntry.trans unrewarded), rewardedRenewals,
      if_neg (by omega)]
    rfl

end Runs

/-! ### The window -/

/-- A score was just written, and no pool pays for its renewal. -/
def sampleScored : State :=
  run exec blank
    [initSample, submitSample (account 4) 40]

/-- The parameters as `set_keeper_reward_params` stores them. -/
def withKeeperParams (w : State) (rewardPerEntry : Int) (window : Nat) : State :=
  { w with
    ledger := (w.ledger.put .inst .keeperRewardPerEntry (some rewardPerEntry)).put .inst
      .keeperRewardWindow (some window) }

/-- Account 5 asks for the same entry twice. -/
def sampleTwice : Tx External KeeperCall :=
  ⟨sampleEnv [account 5], account 5, [(account 4, samplePair), (account 4, samplePair)]⟩

section Params

variable (w : State) (rewardPerEntry : Int) (window : Nat)

@[simp] theorem keeperPerEntry_withKeeperParams :
    keeperPerEntry (withKeeperParams w rewardPerEntry window) = rewardPerEntry := by
  simp [keeperPerEntry, withKeeperParams, Ledger.entry_put_of_ne]

@[simp] theorem keeperWindow_withKeeperParams :
    keeperWindow (withKeeperParams w rewardPerEntry window) = window := by
  simp [keeperWindow, withKeeperParams]

theorem withKeeperParams_entry {d : Durability} {k : DataKey}
    (other : k.tag.isKeeperParams = false) :
    (withKeeperParams w rewardPerEntry window).ledger.entry d k = w.ledger.entry d k := by
  have ne {k' : DataKey} (isParams : k'.tag.isKeeperParams = true) : k ≠ k' := by
    rintro rfl
    simp [other] at isParams
  rw [withKeeperParams, Ledger.entry_put_of_ne _ _ (ne rfl), Ledger.entry_put_of_ne _ _ (ne rfl)]

theorem tracking_withKeeperParams :
    tracking (withKeeperParams w rewardPerEntry window).ledger = tracking w.ledger := by
  unfold tracking
  simp only [withKeeperParams_entry, Tag.isKeeperParams]

end Params

/-- With the widest window every entry that has a score is rewardable. -/
theorem Tracking.rewardable_widest {t : Tracking} {entry : Entry} {last : Nat}
    (live : t.live entry = true) (touched : t.touched entry = some last) (sequence : Nat) :
    t.rewardable scoreTtlThreshold sequence entry = true := by
  simp [rewardable, live, touched]

/-- Asked for twice, it is renewed twice. -/
theorem renewed_twice {env : ContractEnv} {w : State} {entry : Entry} {last : Nat}
    (widest : keeperWindow w = scoreTtlThreshold) (live : (tracking w.ledger).live entry = true)
    (touched : (tracking w.ledger).touched entry = some last) :
    ∃ v, fold keeperRenew 0 [entry, entry] env w = .ok 2 v ∧
      renewedEntries env w [entry, entry] = [entry, entry] := by
  obtain ⟨v, first, tracked⟩ := keeperRenew_returns env w entry
  have again := keeperWindow_renew (first 0)
  have rewardable := Tracking.rewardable_widest live touched env.sequence
  rw [widest, if_pos rewardable] at first tracked
  obtain ⟨v', second, _⟩ := keeperRenew_returns env v entry
  have rewardable' : (tracking v.ledger).rewardable (keeperWindow v) env.sequence entry = true := by
    rw [again, widest, tracked]
    exact Tracking.rewardable_widest (t := (tracking w.ledger).touch env.sequence entry) live
      (Function.update_self ..) _
  rw [if_pos rewardable'] at second
  refine ⟨v', ?_, ?_⟩
  · unfold fold
    rw [run_bind_of_ok (first 0)]
    unfold fold
    rw [run_bind_of_ok (second _)]
    rfl
  · rw [renewedEntries, first 0]
    dsimp only
    rw [renewedEntries, second 0]
    rfl

/-- A pool that is empty pays nothing. -/
theorem wp_payKeeperReward_of_empty {env : ContractEnv} {w : State} {Q : Int → State → Prop}
    {keeper : Address} {requested : Int} (empty : keeperPool w ≤ 0)
    (holds : Q (keeperPayable env w requested) w) : wp (payKeeperReward keeper requested)
      Q env w := by
  have nothing : ¬ keeperPayable env w requested > 0 := by
    unfold keeperPayable
    split <;> omega
  simp only [payKeeperReward, wp_bind, wp_keeperRewardPayable, wp_ite, if_neg nothing, wp_pure]
  exact holds

theorem rewardedRenewals_twice {rewardPerEntry : Int} (positive : rewardPerEntry > 0) :
    rewardedRenewals (withKeeperParams sampleScored rewardPerEntry scoreTtlThreshold) sampleTwice =
      [(100, account 4, samplePair), (100, account 4, samplePair)] := by
  have tracked := tracking_withKeeperParams sampleScored rewardPerEntry scoreTtlThreshold
  have widest := keeperWindow_withKeeperParams sampleScored rewardPerEntry scoreTtlThreshold
  have live : (tracking sampleScored.ledger).live (account 4, samplePair) = true := by
    decide +kernel
  have touched : (tracking sampleScored.ledger).touched (account 4, samplePair) = some 100 := by
    decide +kernel
  rw [← tracked] at live touched
  obtain ⟨v, folded, renewed⟩ : ∃ v, fold keeperRenew 0
      [(account 4, samplePair), (account 4, samplePair)] sampleTwice.env
        { withKeeperParams sampleScored rewardPerEntry scoreTtlThreshold with
          authorized := [account 5] } = .ok 2 v ∧ _ :=
    renewed_twice widest live touched
  have empty : keeperPool v ≤ 0 := by
    have same : Same Tag.isKeeperPool _ v := Keeps.ok folded
    rw [keeperPool, same.entry _ _ rfl, withKeeperParams_entry _ _ _ rfl]
    decide +kernel
  have returns : Returns execKeeper (withKeeperParams sampleScored rewardPerEntry scoreTtlThreshold)
      sampleTwice := by
    unfold Returns execKeeper keeperExtendEntryTtls
    simp only [wp_bind, wp_has, wp_require, wp_requireAuth, wp_loadOr, wp_pure, wp_ite]
    refine ⟨?_, by decide, ⟨by decide, by simp⟩, 2, v, folded, ?_⟩
    · rw [withKeeperParams_entry _ _ _ rfl]
      decide +kernel
    · dsimp only
      split
      · exact wp_payKeeperReward_of_empty empty trivial
      · trivial
  rw [rewardedRenewals, if_pos ⟨returns, by rw [keeperPerEntry_withKeeperParams]; exact positive⟩]
  exact congrArg (List.map fun entry => (100, entry)) renewed

/-- Rewarded renewals of an entry are spaced exactly when the window is below the
threshold, or nothing is paid. -/
theorem rewarded_renewals_spaced_iff (rewardPerEntry : Int) (window : Nat)
    (accepted : 0 ≤ rewardPerEntry ∧ rewardPerEntry ≤ maxKeeperRewardPerEntry ∧
      window ≤ scoreTtlThreshold) :
    (∀ (w : State) (txs : List (Tx External KeeperCall)), keeperPerEntry w = rewardPerEntry →
        keeperWindow w = window → (ledgers txs).Pairwise (· ≤ ·) →
          Spaced (scoreTtlThreshold - window) (trace execKeeper rewardedRenewals w txs).flatten) ↔
      window < scoreTtlThreshold ∨ rewardPerEntry = 0 := by
  constructor
  · intro spaced
    by_contra! wide
    obtain rfl : window = scoreTtlThreshold := le_antisymm accepted.2.2 wide.1
    have twice := spaced (withKeeperParams sampleScored rewardPerEntry scoreTtlThreshold)
      [sampleTwice] (keeperPerEntry_withKeeperParams ..)
        (keeperWindow_withKeeperParams ..) (by simp)
    rw [trace, trace, List.flatten_cons, List.flatten_nil, List.append_nil,
      rewardedRenewals_twice (lt_of_le_of_ne accepted.1 wide.2.symm)] at twice
    exact ((List.pairwise_cons.mp twice).1 _ List.mem_cons_self rfl).1 rfl
  · rintro (below | rfl) w txs perEntry isWindow _
    · subst isWindow
      by_cases rewarded : keeperPerEntry w > 0
      · exact (follows_run below rewarded).spaced
      · rw [rewardedRenewals_run_of_unrewarded (by omega)]
        exact List.Pairwise.nil
    · rw [rewardedRenewals_run_of_unrewarded perEntry]
      exact List.Pairwise.nil

theorem rewarded_renewals_spaced_narrow :
    (0 ≤ (5 : Int) ∧ (5 : Int) ≤ maxKeeperRewardPerEntry ∧ 1000 ≤ scoreTtlThreshold) ∧
      Spaced (scoreTtlThreshold - 1000)
        (trace execKeeper rewardedRenewals (withKeeperParams sampleScored 5 1000)
          [sampleTwice]).flatten := by
  have accepted : 0 ≤ (5 : Int) ∧ (5 : Int) ≤ maxKeeperRewardPerEntry ∧
      1000 ≤ scoreTtlThreshold := by decide
  refine ⟨accepted, (rewarded_renewals_spaced_iff 5 1000 accepted).mpr (.inl (by decide)) _ _ ?_ ?_
    (by simp)⟩
  · exact keeperPerEntry_withKeeperParams ..
  · exact keeperWindow_withKeeperParams ..

/-- With a window of 518400 ledgers a keeper is paid 10 for renewing an entry that
was written in the same ledger, twice. -/
def sampleRewards : List Transaction :=
  [initSample, submitSample (account 4) 40, adminSample (.setKeeperRewardToken (account 9)),
    adminSample (.fundKeeperRewardPool 100), adminSample (.setKeeperRewardParams 5 518400 0)]

theorem rewarded_renewals_not_spaced_widest :
    Along exec (fun w tx => Returns exec w tx) (genesis fun _ _ => 1000) sampleRewards ∧
      (keeperExtendEntryTtls (account 5) [(account 4, samplePair), (account 4, samplePair)]
        (sampleEnv [account 5]) { run exec (genesis fun _ _ => 1000) sampleRewards with
          authorized := [] }).value? = some (2, 10) ∧
      ¬ Spaced (scoreTtlThreshold - 518400)
        (trace execKeeper rewardedRenewals (run exec (genesis fun _ _ => 1000) sampleRewards)
          [sampleTwice]).flatten := by
  have renewals : rewardedRenewals (run exec (genesis fun _ _ => 1000) sampleRewards) sampleTwice =
      [(100, account 4, samplePair), (100, account 4, samplePair)] := by decide +kernel
  refine ⟨by decide +kernel, by decide +kernel, fun spaced => ?_⟩
  rw [trace, trace, List.flatten_cons, List.flatten_nil, List.append_nil, renewals] at spaced
  exact ((List.pairwise_cons.mp spaced).1 _ List.mem_cons_self rfl).1 rfl

end LedgerLens
