import LedgerLens.System.Payments
import Mathlib.Data.Set.Card

/-!
Disputes. A challenger puts up a bond against a score; the bond is paid back when
the administrators correct the score, and with a bonus when they let the deadline
pass. Which disputes are open is kept twice, as one entry per key and as an index
of the keys. The main result is `disputes_accounted`.
-/

namespace LedgerLens

open Host Host.Prog Storage

abbrev feeToken (w : State) : Option Address := w.ledger.entry .inst .feeToken

abbrev disputeOf (w : State) (wallet : Address) (pair : Symbol) : Option ScoreDispute :=
  w.ledger.entry .temporary (.scoreDispute wallet pair)

abbrev disputeIndex (w : State) : List Entry :=
  (w.ledger.entry .persistent .disputeIndex).getD []

/-- What the challenger gets on top of the bond when a dispute times out. -/
def bonusOn (bond : Int) : Int := (satMulI128 bond disputeBonusPct).tdiv 100

/-! ### The docket -/

/-- The open disputes and the index of their keys. -/
structure Docket where
  dispute : Entry → Option ScoreDispute
  index : List Entry

namespace Docket

variable (docket : Docket) (key : Entry) (challenger : Address)

def challenged : Bool :=
  (docket.dispute key).elim false fun dispute => dispute.challenger = challenger

def opened (dispute : ScoreDispute) : Docket where
  dispute := Function.update docket.dispute key (some dispute)
  index := docket.index ++ [key]

def closed : Docket where
  dispute := Function.update docket.dispute key none
  index := docket.index.erase key

/-- The index lists the open disputes, each once and not too many of them, nor
too many of one challenger; nobody put up nothing. -/
structure Sound : Prop where
  distinct : docket.index.Nodup
  listed : ∀ key, key ∈ docket.index ↔ (docket.dispute key).isSome = true
  few : docket.index.length ≤ maxOpenDisputes
  fair : ∀ challenger,
    docket.index.countP (docket.challenged · challenger) ≤ maxDisputesPerActor
  positive : ∀ key dispute, docket.dispute key = some dispute → 0 < dispute.bond

variable {docket key challenger}

theorem challenged_of_ne {other : Entry} {dispute : Option ScoreDispute}
    {index : List Entry} (different : other ≠ key) :
    (Docket.mk (Function.update docket.dispute key dispute) index).challenged other challenger =
      docket.challenged other challenger := by
  unfold challenged
  dsimp only
  rw [Function.update_of_ne different]

theorem Sound.opened (sound : docket.Sound) {dispute : ScoreDispute}
    (free : docket.dispute key = none) (positive : 0 < dispute.bond)
    (room : docket.index.length < maxOpenDisputes)
    (turn : docket.index.countP (docket.challenged · dispute.challenger) < maxDisputesPerActor) :
    (docket.opened key dispute).Sound := by
  have unlisted : key ∉ docket.index := fun listed => by
    simpa [free] using (sound.listed key).mp listed
  refine ⟨?_, fun other => ?_, ?_, fun challenger => ?_, fun other d isOpen => ?_⟩
  · exact List.nodup_append.mpr ⟨sound.distinct, List.nodup_singleton key, by
      rintro a listed _ single rfl
      exact unlisted (List.mem_singleton.mp single ▸ listed)⟩
  · simp only [Docket.opened, List.mem_append, List.mem_singleton]
    obtain rfl | different := eq_or_ne other key
    · simp
    · simp [different, sound.listed other]
  · rw [Docket.opened, List.length_append]
    exact room
  · have others : docket.index.countP ((docket.opened key dispute).challenged · challenger) =
        docket.index.countP (docket.challenged · challenger) :=
      List.countP_congr fun other listed => by
        have different : other ≠ key := fun same => unlisted (same ▸ listed)
        rw [Docket.opened, challenged_of_ne different]
    have last : (docket.opened key dispute).challenged key challenger =
        decide (dispute.challenger = challenger) := by
      simp [challenged, Docket.opened]
    change (docket.index ++ [key]).countP _ ≤ _
    rw [List.countP_append, others, List.countP_singleton, last]
    by_cases same : dispute.challenger = challenger
    · subst same
      simpa using Nat.succ_le_of_lt turn
    · simpa [same] using sound.fair challenger
  · obtain rfl | different := eq_or_ne other key
    · simp only [Docket.opened, Function.update_self, Option.some.injEq] at isOpen
      exact isOpen ▸ positive
    · simp only [Docket.opened, Function.update_of_ne different] at isOpen
      exact sound.positive other d isOpen

theorem Sound.closed (sound : docket.Sound) : (docket.closed key).Sound := by
  refine ⟨sound.distinct.erase key, fun other => ?_, ?_, fun challenger => ?_,
    fun other d isOpen => ?_⟩
  · rw [Docket.closed, sound.distinct.mem_erase_iff]
    obtain rfl | different := eq_or_ne other key
    · simp
    · simp [different, sound.listed other]
  · exact (List.length_erase_le).trans sound.few
  · have others : (docket.index.erase key).countP ((docket.closed key).challenged · challenger) =
        (docket.index.erase key).countP (docket.challenged · challenger) :=
      List.countP_congr fun other listed => by
        rw [Docket.closed, challenged_of_ne (sound.distinct.mem_erase_iff.mp listed).1]
    change (docket.index.erase key).countP _ ≤ _
    rw [others]
    exact (List.erase_sublist.countP_le).trans (sound.fair challenger)
  · obtain rfl | different := eq_or_ne other key
    · simp [Docket.closed] at isOpen
    · simp only [Docket.closed, Function.update_of_ne different] at isOpen
      exact sound.positive other d isOpen

/-- The keys a challenger disputes are among the listed ones. -/
theorem Sound.ncard_le (sound : docket.Sound) (challenger : Address) :
    Set.ncard {key | docket.challenged key challenger = true} ≤ maxDisputesPerActor := by
  have within : {key | docket.challenged key challenger = true} ⊆
      ((docket.index.filter (docket.challenged · challenger)).toFinset : Set
        Entry) := by
    intro key isChallenged
    have isOpen : (docket.dispute key).isSome = true := by
      rw [Set.mem_ofPred_eq, challenged] at isChallenged
      cases found : docket.dispute key with
      | none => simp [found] at isChallenged
      | some dispute => rfl
    simpa [(sound.listed key).mpr isOpen] using isChallenged
  calc Set.ncard {key | docket.challenged key challenger = true}
      ≤ (docket.index.filter (docket.challenged · challenger)).toFinset.card := by
        rw [← Set.ncard_coe_finset]
        exact Set.ncard_le_ncard within (Finset.finite_toSet _)
    _ ≤ (docket.index.filter (docket.challenged · challenger)).length := List.toFinset_card_le _
    _ = docket.index.countP (docket.challenged · challenger) := List.countP_eq_length_filter.symm
    _ ≤ maxDisputesPerActor := sound.fair challenger

end Docket

/-- The docket the contract keeps. -/
def docketOf (w : State) : Docket where
  dispute key := disputeOf w key.1 key.2
  index := disputeIndex w

/-! ### One entry -/

/-- Nobody ever put up nothing. -/
def BondsPositive (w : State) : Prop :=
  ∀ wallet pair dispute, disputeOf w wallet pair = some dispute → 0 < dispute.bond

/-- One dispute was replaced, the others are as they were. -/
def PutsDispute (wallet : Address) (pair : Symbol) (dispute : Option ScoreDispute)
    (w w' : State) : Prop :=
  ∀ wallet' assetPair', disputeOf w' wallet' assetPair' =
    if (wallet', assetPair') = (wallet, pair) then dispute else disputeOf w wallet' assetPair'

@[reducible] def Tag.isBond : Tag → Bool
  | .scoreDispute => true
  | _ => false

@[reducible] def Tag.isDocket : Tag → Bool
  | .scoreDispute | .disputeIndex => true
  | _ => false

/-- What the entry points for disputes look at. -/
@[reducible] def Tag.isDisputed : Tag → Bool
  | .scoreDispute | .disputeIndex | .feeToken | .balances => true
  | _ => false

section Disputes

variable {env : ContractEnv} {w w' : State} {wallet challenger : Address} {pair : Symbol}
  {u : Unit}

theorem Same.bond (same : Same Tag.isDisputed w w') : Same Tag.isBond w w' :=
  same.mono fun t isBond => by
    unfold Tag.isBond at isBond
    split at isBond
    · rfl
    · cases isBond

theorem Same.docket (same : Same Tag.isDisputed w w') : Same Tag.isDocket w w' :=
  same.mono fun t isDocket => by
    unfold Tag.isDocket at isDocket
    split at isDocket
    · rfl
    · rfl
    · cases isDocket

theorem docketOf_same (same : Same Tag.isDocket w w') : docketOf w' = docketOf w := by
  unfold docketOf disputeOf disputeIndex
  simp only [same.entry _ (.scoreDispute _ _) rfl, same.entry _ .disputeIndex rfl]

section

variable {v v' : State} {dispute : Option ScoreDispute}

theorem PutsDispute.of_same (puts : PutsDispute wallet pair dispute v v')
    (before : Same Tag.isBond w v) (after : Same Tag.isBond v' w') :
    PutsDispute wallet pair dispute w w' := by
  intro wallet' assetPair'
  rw [disputeOf, after.entry _ _ rfl, ← disputeOf, puts, disputeOf, before.entry _ _ rfl]

theorem putsDispute_of_put
    (put : w'.ledger = w.ledger.put .temporary (.scoreDispute wallet pair) dispute) :
    PutsDispute wallet pair dispute w w' := by
  intro wallet' assetPair'
  rw [disputeOf, put]
  split
  · next same =>
    cases same
    exact Ledger.entry_put_self ..
  · next other =>
    refine Ledger.entry_put_of_ne _ _ fun same => other ?_
    cases same
    rfl

theorem PutsDispute.self (puts : PutsDispute wallet pair dispute w w') :
    disputeOf w' wallet pair = dispute := by
  rw [puts, if_pos rfl]

theorem PutsDispute.of_ne {wallet' : Address} {assetPair' : Symbol}
    (puts : PutsDispute wallet pair dispute w w')
    (other : ¬ (wallet = wallet' ∧ pair = assetPair')) :
    disputeOf w' wallet' assetPair' = disputeOf w wallet' assetPair' := by
  rw [puts, if_neg fun same => other ?_]
  cases same
  exact ⟨rfl, rfl⟩

theorem PutsDispute.docket_eq {index : List Entry}
    (puts : PutsDispute wallet pair dispute w w') (isIndex : disputeIndex w' = index) :
    docketOf w' = ⟨Function.update (docketOf w).dispute (wallet, pair) dispute, index⟩ := by
  have updated : (docketOf w').dispute =
      Function.update (docketOf w).dispute (wallet, pair) dispute := by
    funext ⟨wallet', assetPair'⟩
    rw [Function.update_apply]
    exact puts wallet' assetPair'
  rw [← updated, ← isIndex]
  rfl

end

/-! ### Opening -/

/-- The disputes of one challenger are counted off the index. -/
theorem countDispute_run (env : ContractEnv) (w : State) (challenger : Address) (count : Nat)
    (entries : List Entry) :
    fold (countDispute challenger) count entries env w =
      .ok (count + entries.countP ((docketOf w).challenged · challenger)) w := by
  induction entries generalizing count with
  | nil => rfl
  | cons entry rest ih =>
    have first : countDispute challenger count entry env w =
        .ok (count + if (docketOf w).challenged entry challenger then 1 else 0) w := rfl
    unfold fold
    rw [run_bind_of_ok first, ih, List.countP_cons]
    congr 1
    omega

theorem addToDisputeIndex_index (added : addToDisputeIndex wallet pair env w = .ok true w') :
    ((wallet, pair) ∉ disputeIndex w →
      (disputeIndex w).length < maxOpenDisputes ∧
        disputeIndex w' = disputeIndex w ++ [(wallet, pair)]) := by
  intro unlisted
  rw [addToDisputeIndex, ok_iff_wp] at added
  simp only [wp_bind, wp_loadOr, if_neg unlisted, wp_ite, wp_pure, wp_save] at added
  split at added
  · simp at added
  · next room =>
    obtain ⟨-, rfl⟩ := added
    exact ⟨not_le.mp room, by simp [disputeIndex]⟩

/-- The challenger puts up the bond of a new dispute. -/
structure OpensDispute (env : ContractEnv) (challenger wallet : Address) (pair : Symbol)
    (bond : Int) (w w' : State) : Prop where
  opened : ∃ dispute, PutsDispute wallet pair (some dispute) w w' ∧ dispute.bond = bond
  paid : Receives env (feeToken w) challenger bond w w'

/-- What is known of a dispute that was opened. -/
structure Opening (env : ContractEnv) (challenger wallet : Address) (pair : Symbol)
    (bond : Int) (w w' : State) : Prop where
  positive : 0 < bond
  signed : env.signed challenger = true
  free : disputeOf w wallet pair = none
  turn : (disputeIndex w).countP ((docketOf w).challenged · challenger) < maxDisputesPerActor
  entered : (wallet, pair) ∉ disputeIndex w →
    (disputeIndex w).length < maxOpenDisputes ∧
      disputeIndex w' = disputeIndex w ++ [(wallet, pair)]
  dispute : ∃ challengedScore, PutsDispute wallet pair
    (some ⟨challenger, bond, satAdd64 env.timestamp disputeChallengePeriodSecs, challengedScore⟩)
    w w'
  paid : Receives env (feeToken w) challenger bond w w'

/-- How the opening of a dispute ends. -/
theorem opening_of_tail {v : State} {token : Address} {bond : Int}
    (ran : (do
      transfer token challenger (← asks Env.self) bond
      let challengedScore := (← peekScore wallet pair).elim 0 RiskScore.score
      let deadline := satAdd64 (← now) disputeChallengePeriodSecs
      store .temporary (.scoreDispute wallet pair)
        { challenger, bond, deadline, challengedScore }
      emit (.disputeOpened wallet pair bond deadline) : M Unit) env v = .ok u w') :
    (∃ challengedScore, PutsDispute wallet pair
      (some ⟨challenger, bond, satAdd64 env.timestamp disputeChallengePeriodSecs, challengedScore⟩)
      v w') ∧ disputeIndex w' = disputeIndex v ∧ Receives env (some token) challenger
        bond v w' := by
  simp only [ok_iff_wp, wp_bind, wp_asks, wp_transfer, wp_load, wp_save, wp_emit] at ran
  obtain ⟨⟨_, enough, signed⟩, _, rfl⟩ := ran
  have before : Same Tag.isBond v (v.moved token challenger env.self bond) :=
    ⟨fun _ _ _ => rfl, by rintro ⟨⟩, by rintro ⟨⟩⟩
  refine ⟨⟨_, (putsDispute_of_put rfl).of_same before (Std.Refl.refl _)⟩, ?_,
    token, rfl, enough, signed, rfl⟩
  rw [disputeIndex, Ledger.entry_put_of_ne _ _ (by simp)]
  rfl

theorem openScoreDispute_opening {bond : Int} {bondSalt : Bytes}
    (ran : openScoreDispute challenger wallet pair bond bondSalt env w = .ok u w') :
    Opening env challenger wallet pair bond w w' := by
  obtain ⟨_, v₁, active, ran⟩ := bind_ok.mp ran
  obtain ⟨_, v₂, bounded, ran⟩ := bind_ok.mp ran
  obtain ⟨_, v₃, short, ran⟩ := bind_ok.mp ran
  obtain ⟨positive, ran⟩ := require_bind_ok.mp ran
  obtain ⟨_, _, ⟨⟩, ran⟩ := bind_ok.mp ran
  obtain ⟨token, _, found, ran⟩ := bind_ok.mp ran
  obtain ⟨isToken, rfl⟩ := okOr_ok.mp found
  obtain ⟨_, v₄, authorized, ran⟩ := bind_ok.mp ran
  obtain ⟨_, v₅, revealed, ran⟩ := bind_ok.mp ran
  obtain ⟨_, _, ⟨⟩, ran⟩ := bind_ok.mp ran
  obtain ⟨free, ran⟩ := require_bind_ok.mp ran
  obtain ⟨_, _, ⟨⟩, ran⟩ := bind_ok.mp ran
  obtain ⟨count, _, counted, ran⟩ := bind_ok.mp ran
  obtain ⟨rfl, rfl⟩ := Outcome.ok.inj ((countDispute_run ..).symm.trans counted)
  obtain ⟨turn, ran⟩ := require_bind_ok.mp ran
  obtain ⟨added, v₆, indexed, ran⟩ := bind_ok.mp ran
  obtain ⟨rfl, opening⟩ := require_bind_ok.mp ran
  have entering : Same Tag.isDisputed w v₃ :=
    IsTrans.trans _ _ _ (IsTrans.trans _ _ _ (Keeps.ok active) (Keeps.ok bounded)) (Keeps.ok short)
  have revealing : Same Tag.isDisputed w v₅ :=
    IsTrans.trans _ _ _ (IsTrans.trans _ _ _ entering (Keeps.ok authorized)) (Keeps.ok revealed)
  have docket := docketOf_same revealing.docket
  have index : disputeIndex v₅ = disputeIndex w := congrArg Docket.index docket
  have indexing : Same Tag.isBond v₅ v₆ := Keeps.ok indexed
  have unmoved : v₆.balance = w.balance := by
    have same : Same Tag.isBalances v₅ v₆ := Keeps.ok indexed
    exact (same.balance rfl).trans (revealing.balance rfl)
  obtain ⟨⟨challengedScore, puts⟩, isIndex, paid⟩ := opening_of_tail opening
  refine ⟨of_decide_eq_true positive, (requireAuth_ok.mp authorized).1.1, ?_, ?_, ?_,
    ⟨challengedScore, puts.of_same (IsTrans.trans _ _ _ revealing.bond indexing) (Std.Refl.refl _)⟩,
    ?_⟩
  · rw [disputeOf, ← revealing.entry _ _ rfl]
    exact Option.isNone_iff_eq_none.mp free
  · have turn := of_decide_eq_true turn
    rw [zero_add] at turn
    rwa [← docket, ← index]
  · rw [isIndex, ← index]
    exact addToDisputeIndex_index indexed
  · rw [show feeToken w = some token from (entering.entry _ _ rfl).symm.trans isToken]
    exact paid.of_balance_eq unmoved

theorem openScoreDispute_opens {bond : Int} {bondSalt : Bytes}
    (ran : openScoreDispute challenger wallet pair bond bondSalt env w = .ok u w') :
    disputeOf w wallet pair = none ∧ 0 < bond ∧ env.signed challenger = true ∧
      OpensDispute env challenger wallet pair bond w w' := by
  have opening := openScoreDispute_opening ran
  obtain ⟨_, puts⟩ := opening.dispute
  exact ⟨opening.free, opening.positive, opening.signed, ⟨_, puts, rfl⟩, opening.paid⟩

/-! ### Settling -/

theorem removeFromDisputeIndex_index
    (removed : removeFromDisputeIndex wallet pair env w = .ok u w') :
    disputeIndex w' = (disputeIndex w).erase (wallet, pair) := by
  rw [removeFromDisputeIndex, ok_iff_wp] at removed
  simp only [wp_bind, wp_loadOr, wp_whenever, wp_save, decide_eq_true_eq] at removed
  split at removed
  · obtain ⟨-, rfl⟩ := removed
    simp [disputeIndex]
  · next unlisted =>
    obtain ⟨-, rfl⟩ := removed
    exact (List.erase_of_not_mem unlisted).symm

theorem closeDispute_closes (ran : closeDispute wallet pair env w = .ok u w') :
    PutsDispute wallet pair none w w' ∧
      disputeIndex w' = (disputeIndex w).erase (wallet, pair) ∧ w'.balance = w.balance := by
  obtain ⟨_, v, removed, unindexed⟩ := bind_ok.mp ran
  obtain ⟨-, rfl⟩ := erase_ok.mp removed
  have same : Same Tag.isBond _ w' := Keeps.ok unindexed
  have unmoved : Same Tag.isBalances _ w' := Keeps.ok unindexed
  refine ⟨(putsDispute_of_put rfl).of_same (Std.Refl.refl _) same, ?_, unmoved.balance rfl⟩
  rw [removeFromDisputeIndex_index unindexed, disputeIndex, Ledger.entry_put_of_ne _ _ (by simp)]

/-- A dispute is closed: its challenger is paid, its bond is no longer held. -/
structure SettlesDispute (env : ContractEnv) (wallet : Address) (pair : Symbol)
    (payout : Int → Int) (w w' : State) : Prop where
  closed : PutsDispute wallet pair none w w'
  paid : ∃ dispute, disputeOf w wallet pair = some dispute ∧
    Pays env (feeToken w) dispute.challenger (payout dispute.bond) w w'

/-- What is known of a dispute that was settled. -/
structure Settling (env : ContractEnv) (wallet : Address) (pair : Symbol)
    (payout : Int → Int) (dispute : ScoreDispute) (w w' : State) : Prop where
  isOpen : disputeOf w wallet pair = some dispute
  closed : PutsDispute wallet pair none w w'
  unlisted : disputeIndex w' = (disputeIndex w).erase (wallet, pair)
  paid : Pays env (feeToken w) dispute.challenger (payout dispute.bond) w w'

theorem Settling.settles {payout : Int → Int} {dispute : ScoreDispute}
    (settling : Settling env wallet pair payout dispute w w') :
    SettlesDispute env wallet pair payout w w' :=
  ⟨settling.closed, dispute, settling.isOpen, settling.paid⟩

theorem bonusOn_nonneg {bond : Int} (positive : 0 < bond) : 0 ≤ bonusOn bond := by
  refine Int.tdiv_nonneg ?_ (by decide)
  unfold satMulI128 i128Bound disputeBonusPct
  omega

theorem bonusPaid_pos {bond : Int} (positive : 0 < bond) : 0 < satAddI128 bond (bonusOn bond) := by
  have := bonusOn_nonneg positive
  unfold satAddI128 i128Bound
  omega

/-- Bonds that are not astronomic earn the tenth part, rounded down. -/
theorem bonusPaid_eq {bond : Int} (positive : 0 < bond) (small : bond < 2 ^ 120) :
    satAddI128 bond (bonusOn bond) = bond + disputeBonusPct * bond / 100 := by
  have product : satMulI128 bond disputeBonusPct = disputeBonusPct * bond := by
    unfold satMulI128 i128Bound disputeBonusPct
    omega
  rw [bonusOn, product, Int.tdiv_eq_ediv_of_nonneg (by unfold disputeBonusPct; omega)]
  unfold satAddI128 i128Bound disputeBonusPct
  omega

/-- How both settlements end. -/
theorem settling_of_tail {v : State} {dispute : ScoreDispute} {token : Address}
    {payout : Int → Int} {event : Event} (same : Same Tag.isDisputed w v)
    (isOpen : disputeOf w wallet pair = some dispute) (isToken : feeToken w = some token)
    (positive : 0 < payout dispute.bond)
    (ran : (do
      transfer token (← asks Env.self) dispute.challenger (payout dispute.bond)
      closeDispute wallet pair
      emit event : M Unit) env v = .ok u w') : Settling env wallet pair payout dispute w w' := by
  obtain ⟨_, _, ⟨⟩, ran⟩ := bind_ok.mp ran
  obtain ⟨_, _, transferred, ran⟩ := bind_ok.mp ran
  obtain ⟨⟨_, enough, _⟩, rfl⟩ := transfer_ok.mp transferred
  obtain ⟨_, v', closing, emitted⟩ := bind_ok.mp ran
  obtain ⟨-, rfl⟩ := emit_ok.mp emitted
  obtain ⟨closed, unlisted, unmoved⟩ := closeDispute_closes closing
  refine ⟨isOpen, closed.of_same ?_ ?_, ?_, ?_⟩
  · exact ⟨same.bond.entry, nofun, nofun⟩
  · exact ⟨fun _ _ _ => rfl, nofun, nofun⟩
  · have index : disputeIndex v = disputeIndex w :=
      congrArg Docket.index (docketOf_same same.docket)
    rw [← index]
    exact unlisted
  · rw [Pays, if_pos positive]
    exact ⟨token, isToken, same.balance rfl ▸ enough,
      unmoved.trans (World.moved_balance_congr (same.balance rfl) ..)⟩

theorem resolveDisputeTimeout_settling (bonds : BondsPositive w)
    (ran : resolveDisputeTimeout wallet pair env w = .ok u w') :
    ∃ dispute, dispute.deadline < env.timestamp ∧
      Settling env wallet pair (fun bond => satAddI128 bond (bonusOn bond)) dispute w w' := by
  obtain ⟨_, _, known, ran⟩ := bind_ok.mp ran
  obtain ⟨_, ran⟩ := require_bind_ok.mp ran
  obtain ⟨_, rfl⟩ := has_ok.mp known
  obtain ⟨_, _, ⟨⟩, ran⟩ := bind_ok.mp ran
  obtain ⟨dispute, _, found, ran⟩ := bind_ok.mp ran
  obtain ⟨isOpen, rfl⟩ := okOr_ok.mp found
  obtain ⟨_, _, ⟨⟩, ran⟩ := bind_ok.mp ran
  obtain ⟨late, ran⟩ := require_bind_ok.mp ran
  obtain ⟨_, _, ⟨⟩, ran⟩ := bind_ok.mp ran
  obtain ⟨token, _, found, ran⟩ := bind_ok.mp ran
  obtain ⟨isToken, rfl⟩ := okOr_ok.mp found
  exact ⟨dispute, of_decide_eq_true late, settling_of_tail (Std.Refl.refl _) isOpen isToken
    (bonusPaid_pos (bonds wallet pair dispute isOpen)) ran⟩

set_option synthInstance.maxSize 100000000 in
/-- The correction an administrator makes leaves the dispute to what follows. -/
theorem correction_ends (m : M Unit) (wallet : Address) (pair : Symbol)
    (correctedScore : Nat) :
    EndsIn (Same Tag.isDisputed) m (do
      let corrected := correctedRiskScore correctedScore (← now)
      setScore wallet pair corrected
      pushScoreHistory wallet pair corrected
      registerPairForWallet wallet pair
      incrementScoreCount wallet pair
      incrementPairScoreCount pair
      refreshAggregateCache wallet
      emit (.scoreSubmitted wallet pair corrected)
      m) :=
  inferInstance

theorem resolveDisputeAdmin_settling {signers : List Address} {correctedScore : Nat}
    (bonds : BondsPositive w)
    (ran : resolveDisputeAdmin signers wallet pair correctedScore env w = .ok u w') :
    ∃ dispute, Settling env wallet pair id dispute w w' := by
  obtain ⟨_, v₁, reading, ran⟩ := bind_ok.mp ran
  obtain ⟨_, v₂, idle, ran⟩ := bind_ok.mp ran
  obtain ⟨_, v₃, known, ran⟩ := bind_ok.mp ran
  obtain ⟨_, v₄, present, ran⟩ := bind_ok.mp ran
  obtain ⟨_, v₅, asking, ran⟩ := bind_ok.mp ran
  obtain ⟨_, v₆, unpaused, ran⟩ := bind_ok.mp ran
  obtain ⟨_, v₇, authorized, ran⟩ := bind_ok.mp ran
  obtain ⟨_, v₈, valid, ran⟩ := bind_ok.mp ran
  obtain ⟨_, _, ⟨⟩, ran⟩ := bind_ok.mp ran
  obtain ⟨dispute, _, found, ran⟩ := bind_ok.mp ran
  obtain ⟨isOpen, rfl⟩ := okOr_ok.mp found
  obtain ⟨_, _, ⟨⟩, ran⟩ := bind_ok.mp ran
  obtain ⟨token, _, found, ran⟩ := bind_ok.mp ran
  obtain ⟨isToken, rfl⟩ := okOr_ok.mp found
  have opening : Same Tag.isDisputed w v₈ := by
    have first : Same Tag.isDisputed w v₂ := IsTrans.trans _ _ _ (Keeps.ok reading) (Keeps.ok idle)
    have second : Same Tag.isDisputed v₂ v₄ :=
      IsTrans.trans _ _ _ (Keeps.ok known) (Keeps.ok present)
    have third : Same Tag.isDisputed v₄ v₆ :=
      IsTrans.trans _ _ _ (Keeps.ok asking) (Keeps.ok unpaused)
    have fourth : Same Tag.isDisputed v₆ v₈ :=
      IsTrans.trans _ _ _ (Keeps.ok authorized) (Keeps.ok valid)
    exact IsTrans.trans _ _ _ (IsTrans.trans _ _ _ first second) (IsTrans.trans _ _ _ third fourth)
  have isOpen' : disputeOf w wallet pair = some dispute :=
    (opening.entry _ _ rfl).symm.trans isOpen
  have isToken' : feeToken w = some token := (opening.entry _ _ rfl).symm.trans isToken
  obtain ⟨v, corrected, settling⟩ :=
    (correction_ends _ wallet pair correctedScore).ended ran
  exact ⟨dispute, settling_of_tail (IsTrans.trans _ _ _ opening corrected) isOpen' isToken'
    (bonds wallet pair dispute isOpen') settling⟩

end Disputes

/-! ### Calls -/

/-- The call enters a dispute about the key. -/
def Call.opens (wallet : Address) (pair : Symbol) : Call → Prop
  | .user (.openScoreDispute _ wallet' assetPair' _ _) => wallet' = wallet ∧ assetPair' = pair
  | _ => False

/-- The call settles the dispute about the key, one way or the other. -/
def Call.settles (wallet : Address) (pair : Symbol) : Call → Prop
  | .user (.resolveDisputeTimeout wallet' assetPair') => wallet' = wallet ∧ assetPair' = pair
  | .admins _ (.resolveDisputeAdmin wallet' assetPair' _) =>
    wallet' = wallet ∧ assetPair' = pair
  | _ => False

/-- Everything a call can do to the docket. -/
inductive DisputeStep (env : ContractEnv) (w w' : State) : Call → Prop where
  | opened {challenger wallet : Address} {pair : Symbol} {bond : Int} {bondSalt : Bytes} :
      Opening env challenger wallet pair bond w w' →
      DisputeStep env w w' (.user (.openScoreDispute challenger wallet pair bond bondSalt))
  | timedOut {wallet : Address} {pair : Symbol} {dispute : ScoreDispute} :
      dispute.deadline < env.timestamp →
      Settling env wallet pair (fun bond => satAddI128 bond (bonusOn bond)) dispute w w' →
      DisputeStep env w w' (.user (.resolveDisputeTimeout wallet pair))
  | corrected {signers : List Address} {wallet : Address} {pair : Symbol} {score : Nat}
      {dispute : ScoreDispute} :
      Settling env wallet pair id dispute w w' →
      DisputeStep env w w' (.admins signers (.resolveDisputeAdmin wallet pair score))
  | other {call : Call} :
      (∀ wallet pair, ¬ call.opens wallet pair ∧ ¬ call.settles wallet pair) →
      Same Tag.isDocket w w' → DisputeStep env w w' call

section Calls

variable {env : ContractEnv} {w w' : State} {u : Unit}

theorem exec_disputes {call : Call} (bonds : BondsPositive w)
    (ran : exec call env w = .ok u w') : DisputeStep env w w' call := by
  have other (silent : ∀ wallet pair,
        ¬ call.opens wallet pair ∧ ¬ call.settles wallet pair)
      (free : (footprint call).all (fun t => !t.isDocket) = true) : DisputeStep env w w' call :=
    .other silent (About.of_all free ((exec_keeps call).ok ran))
  rcases call with call | ⟨signers, call⟩ | call
  · cases call
    case openScoreDispute challenger wallet pair bond bondSalt =>
      exact .opened (openScoreDispute_opening ran)
    case resolveDisputeTimeout wallet pair =>
      obtain ⟨dispute, late, settling⟩ := resolveDisputeTimeout_settling bonds ran
      exact .timedOut late settling
    all_goals exact other (fun _ _ => ⟨id, id⟩) rfl
  · cases call
    case resolveDisputeAdmin wallet pair score =>
      obtain ⟨dispute, settling⟩ := resolveDisputeAdmin_settling bonds ran
      exact .corrected settling
    all_goals exact other (fun _ _ => ⟨id, id⟩) rfl
  · exact other (fun _ _ => ⟨id, id⟩) (by cases call <;> rfl)

theorem Opening.unlisted {challenger wallet : Address} {pair : Symbol} {bond : Int}
    (sound : (docketOf w).Sound) (opening : Opening env challenger wallet pair bond w w') :
    (wallet, pair) ∉ disputeIndex w := by
  intro listed
  have isOpen : (disputeOf w wallet pair).isSome = true := (sound.listed _).mp listed
  simp [opening.free] at isOpen

theorem Opening.docket_eq {challenger wallet : Address} {pair : Symbol} {bond : Int}
    (sound : (docketOf w).Sound) (opening : Opening env challenger wallet pair bond w w') :
    ∃ challengedScore, docketOf w' = (docketOf w).opened (wallet, pair)
      ⟨challenger, bond, satAdd64 env.timestamp disputeChallengePeriodSecs, challengedScore⟩ := by
  obtain ⟨challengedScore, puts⟩ := opening.dispute
  exact ⟨challengedScore, puts.docket_eq (opening.entered (opening.unlisted sound)).2⟩

theorem Settling.docket_eq {wallet : Address} {pair : Symbol} {payout : Int → Int}
    {dispute : ScoreDispute} (settling : Settling env wallet pair payout dispute w w') :
    docketOf w' = (docketOf w).closed (wallet, pair) :=
  settling.closed.docket_eq settling.unlisted

theorem DisputeStep.sound {call : Call} (sound : (docketOf w).Sound)
    (stepped : DisputeStep env w w' call) : (docketOf w').Sound := by
  cases stepped with
  | opened opening =>
    obtain ⟨challengedScore, after⟩ := opening.docket_eq sound
    rw [after]
    exact sound.opened opening.free opening.positive (opening.entered (opening.unlisted sound)).1
      opening.turn
  | timedOut _ settling =>
    rw [settling.docket_eq]
    exact sound.closed
  | corrected settling =>
    rw [settling.docket_eq]
    exact sound.closed
  | other _ same =>
    rw [docketOf_same same]
    exact sound

theorem Docket.Sound.bonds (sound : (docketOf w).Sound) : BondsPositive w :=
  fun wallet pair dispute isOpen => sound.positive (wallet, pair) dispute isOpen

end Calls

/-! ### Runs -/

/-- A successful call that enters a dispute about the key. -/
def Opens (wallet : Address) (pair : Symbol) (w : State) (tx : Transaction) : Prop :=
  Returns exec w tx ∧ tx.call.opens wallet pair

/-- A successful call that settles the dispute about the key. -/
def Settles (wallet : Address) (pair : Symbol) (w : State) (tx : Transaction) : Prop :=
  Returns exec w tx ∧ tx.call.settles wallet pair

/-- The challenger is paid the bond by a correction, or the bond and a bonus when
the deadline has passed. -/
def PaidOut (challenger : Address) (bond : Int) (deadline : Nat) (w : State) (tx : Transaction) :
    Prop :=
  match tx.call with
  | .admins _ (.resolveDisputeAdmin ..) =>
    Pays tx.env (feeToken w) challenger bond w (step exec w tx)
  | .user (.resolveDisputeTimeout ..) =>
    deadline < tx.env.timestamp ∧
      Pays tx.env (feeToken w) challenger (bond + disputeBonusPct * bond / 100) w (step exec w tx)
  | _ => False

section Runs

variable {w : State} {tx : Transaction} {wallet challenger : Address} {pair : Symbol}

theorem step_disputes (sound : (docketOf w).Sound) (returns : Returns exec w tx) :
    DisputeStep tx.env { w with authorized := [] } (step exec w tx) tx.call :=
  exec_disputes (w := { w with authorized := [] }) sound.bonds returns.ok

theorem step_docket_sound (sound : (docketOf w).Sound) : (docketOf (step exec w tx)).Sound := by
  by_cases returns : Returns exec w tx
  · exact DisputeStep.sound (w := { w with authorized := [] }) sound (step_disputes sound returns)
  · rwa [step_of_not_returns returns]

theorem genesis_docket_sound (balance : Balances) : (docketOf (genesis balance)).Sound where
  distinct := List.nodup_nil
  listed key := ⟨nofun, nofun⟩
  few := Nat.zero_le _
  fair challenger := Nat.zero_le _
  positive _ _ isOpen := by cases isOpen

theorem run_docket_sound (balance : Balances) (txs : List Transaction) :
    (docketOf (run exec (genesis balance) txs)).Sound :=
  run_induction (I := fun w => (docketOf w).Sound) (fun _ _ => step_docket_sound)
    (genesis_docket_sound balance)

/-- A step that does not enter a dispute about the key settles it or leaves it. -/
theorem step_disputeOf (sound : (docketOf w).Sound) (quiet : ¬ Opens wallet pair w tx) :
    disputeOf (step exec w tx) wallet pair = none ∨
      disputeOf (step exec w tx) wallet pair = disputeOf w wallet pair ∧
        ¬ Settles wallet pair w tx := by
  by_cases returns : Returns exec w tx
  swap
  · rw [step_of_not_returns returns]
    exact .inr ⟨rfl, fun settles => returns settles.1⟩
  have settling {wallet' : Address} {assetPair' : Symbol}
      (isKey : tx.call.settles wallet pair ↔ wallet' = wallet ∧ assetPair' = pair)
      (closed : PutsDispute wallet' assetPair' none { w with authorized := [] } (step exec w tx)) :
      disputeOf (step exec w tx) wallet pair = none ∨
        disputeOf (step exec w tx) wallet pair = disputeOf w wallet pair ∧
          ¬ Settles wallet pair w tx := by
    by_cases same : wallet' = wallet ∧ assetPair' = pair
    · obtain ⟨rfl, rfl⟩ := same
      exact .inl closed.self
    · exact .inr ⟨closed.of_ne same, fun settles => same (isKey.mp settles.2)⟩
  have stepped := step_disputes sound returns
  generalize isCall : tx.call = call at stepped settling
  cases stepped with
  | opened opening =>
    obtain ⟨_, puts⟩ := opening.dispute
    refine .inr ⟨puts.of_ne fun same => quiet ⟨returns, ?_⟩, fun settles => ?_⟩
    · rw [isCall]
      exact same
    · rw [Settles, isCall] at settles
      exact settles.2
  | timedOut _ settled => exact settling Iff.rfl settled.closed
  | corrected settled => exact settling Iff.rfl settled.closed
  | other silent same =>
    refine .inr ⟨same.entry _ _ rfl, fun settles => ?_⟩
    rw [Settles, isCall] at settles
    exact (silent wallet pair).2 settles.2

/-- Until it is settled, a dispute stays as it was opened. -/
theorem run_disputeOf {between : List Transaction} (sound : (docketOf w).Sound)
    (quiet : Along exec (fun w tx => ¬ Opens wallet pair w tx) w between) :
    disputeOf (run exec w between) wallet pair = none ∨
      disputeOf (run exec w between) wallet pair = disputeOf w wallet pair ∧
        Along exec (fun w tx => ¬ Settles wallet pair w tx) w between := by
  induction between generalizing w with
  | nil => exact .inr ⟨rfl, trivial⟩
  | cons tx rest ih =>
    rcases ih (step_docket_sound sound) quiet.2 with closed | ⟨kept, unsettled⟩
    · exact .inl closed
    rcases step_disputeOf sound quiet.1 with closed | ⟨same, notSettled⟩
    · exact .inl (kept.trans closed)
    · exact .inr ⟨kept.trans same, notSettled, unsettled⟩

theorem Settles.isOpen (sound : (docketOf w).Sound) (settles : Settles wallet pair w tx) :
    disputeOf w wallet pair ≠ none := by
  obtain ⟨returns, isSettling⟩ := settles
  have stepped := step_disputes sound returns
  generalize tx.call = call at stepped isSettling
  intro isNone
  cases stepped with
  | opened _ => exact isSettling
  | timedOut _ settling =>
    obtain ⟨rfl, rfl⟩ := isSettling
    cases isNone.symm.trans settling.isOpen
  | corrected settling =>
    obtain ⟨rfl, rfl⟩ := isSettling
    cases isNone.symm.trans settling.isOpen
  | other silent _ => exact (silent wallet pair).2 isSettling

/-- A settlement pays the challenger of the dispute that is open. -/
theorem Settles.paidOut {dispute : ScoreDispute} (sound : (docketOf w).Sound)
    (isOpen : disputeOf w wallet pair = some dispute) (small : dispute.bond < 2 ^ 120)
    (settles : Settles wallet pair w tx) :
    PaidOut dispute.challenger dispute.bond dispute.deadline w tx := by
  have positive := sound.bonds wallet pair dispute isOpen
  obtain ⟨returns, isSettling⟩ := settles
  have stepped := step_disputes sound returns
  unfold PaidOut
  generalize tx.call = call at stepped isSettling
  cases stepped with
  | opened _ => exact isSettling.elim
  | timedOut late settling =>
    obtain ⟨rfl, rfl⟩ := isSettling
    obtain rfl := Option.some.inj (settling.isOpen.symm.trans isOpen)
    refine ⟨late, ?_⟩
    rw [← bonusPaid_eq positive small]
    exact settling.paid
  | corrected settling =>
    obtain ⟨rfl, rfl⟩ := isSettling
    obtain rfl := Option.some.inj (settling.isOpen.symm.trans isOpen)
    exact settling.paid
  | other silent _ => exact ((silent wallet pair).2 isSettling).elim

end Runs

/-- The index lists exactly the open disputes, each once and not too many of
them, nor too many of one challenger. -/
structure DisputesIndexed (w : State) : Prop where
  distinct : (disputeIndex w).Nodup
  listed : ∀ wallet pair,
    (wallet, pair) ∈ disputeIndex w ↔ (disputeOf w wallet pair).isSome = true
  few : (disputeIndex w).length ≤ maxOpenDisputes
  fair : ∀ challenger, Set.ncard {key : Entry | ∃ dispute,
    disputeOf w key.1 key.2 = some dispute ∧ dispute.challenger = challenger} ≤ maxDisputesPerActor

/-- Before another dispute about the key is opened, it is settled at most once,
and then its challenger is paid. -/
def PaidOnce (wallet : Address) (pair : Symbol) (challenger : Address) (bond : Int)
    (deadline : Nat) (w : State) (txs : List Transaction) : Prop :=
  ∀ between closing after, txs = between ++ closing :: after →
    Along exec (fun w tx => ¬ Opens wallet pair w tx) w between →
    Settles wallet pair (run exec w between) closing →
      Along exec (fun w tx => ¬ Settles wallet pair w tx) w between ∧
        PaidOut challenger bond deadline (run exec w between) closing

theorem Docket.Sound.indexed {w : State} (sound : (docketOf w).Sound) : DisputesIndexed w where
  distinct := sound.distinct
  listed wallet pair := sound.listed (wallet, pair)
  few := sound.few
  fair challenger := by
    convert sound.ncard_le challenger using 4 with key
    change _ ↔ ((disputeOf w key.1 key.2).elim false _) = true
    cases disputeOf w key.1 key.2 <;> simp

theorem paidOnce_of_open {w : State} {wallet : Address} {pair : Symbol}
    {dispute : ScoreDispute}
    (sound : (docketOf w).Sound) (isOpen : disputeOf w wallet pair = some dispute)
    (small : dispute.bond < 2 ^ 120) (txs : List Transaction) :
    PaidOnce wallet pair dispute.challenger dispute.bond dispute.deadline w txs := by
  intro between closing after isRun quiet settles
  have soundLater : (docketOf (run exec w between)).Sound :=
    run_induction (I := fun w => (docketOf w).Sound) (fun _ _ => step_docket_sound) sound
  rcases run_disputeOf sound quiet with closed | ⟨kept, unsettled⟩
  · exact absurd closed (settles.isOpen soundLater)
  · exact ⟨unsettled, settles.paidOut soundLater (kept.trans isOpen) small⟩

/-- In every reachable state the index is exact, and every dispute that was opened
is paid out at most once: the bond by a correction, the bond and a bonus after the
deadline. -/
theorem disputes_accounted (balance : Balances) (txs : List Transaction) :
    DisputesIndexed (run exec (genesis balance) txs) ∧
      ∀ before env challenger wallet pair bond bondSalt after,
        txs = before ++
          ⟨env, .user (.openScoreDispute challenger wallet pair bond bondSalt)⟩ :: after →
        Returns exec (run exec (genesis balance) before)
          ⟨env, .user (.openScoreDispute challenger wallet pair bond bondSalt)⟩ →
        bond < 2 ^ 120 →
        PaidOnce wallet pair challenger bond
          (satAdd64 env.timestamp disputeChallengePeriodSecs)
          (step exec (run exec (genesis balance) before)
            ⟨env, .user (.openScoreDispute challenger wallet pair bond bondSalt)⟩) after := by
  refine ⟨(run_docket_sound balance txs).indexed, ?_⟩
  intro before env challenger wallet pair bond bondSalt after isRun returns small
  have sound := run_docket_sound balance before
  have stepped := step_disputes sound returns
  cases stepped with
  | opened opening =>
    obtain ⟨challengedScore, puts⟩ := opening.dispute
    exact paidOnce_of_open (step_docket_sound sound) puts.self small after
  | other silent _ => exact ((silent wallet pair).1 ⟨rfl, rfl⟩).elim

/-! ### A dispute that times out -/

/-- Account 3 has 100 and the contract, account 0, some fees. -/
def disputeHoldings : Balances := fun _ holder =>
  if holder = account 3 then 100 else if holder = account 0 then 10 else 0

def sampleSalt : Bytes := List.replicate 16 7

/-- Account 3 commits to a bond of 50 against the score of account 4. -/
def beforeSampleDispute : List Transaction :=
  [.user (.initializeContract (account 1) (account 2)), .soleAdmin (.setFeeToken (account 9)),
    .user (.commitDisputeBond (account 3) (account 4) samplePair
      (i128LeBytes 50 ++ sampleSalt))].map
    fun call => ⟨hashedEnv [account 1, account 3], call⟩

def sampleDispute : Transaction :=
  ⟨hashedEnv [account 3],
    .user (.openScoreDispute (account 3) (account 4) samplePair 50 sampleSalt)⟩

/-- Anyone may settle it a week later. -/
def sampleTimeout : Transaction :=
  ⟨{ hashedEnv [] with timestamp := 1604801, timestamp_lt := by decide },
    .user (.resolveDisputeTimeout (account 4) samplePair)⟩

theorem disputes_accounted_sample :
    Returns exec (run exec (genesis disputeHoldings) beforeSampleDispute) sampleDispute ∧
      (50 : Int) < 2 ^ 120 ∧
      (run exec (genesis disputeHoldings)
        (beforeSampleDispute ++ [sampleDispute, sampleTimeout])).balance (account 9) (account 3) =
          105 ∧
      DisputesIndexed (run exec (genesis disputeHoldings)
        (beforeSampleDispute ++ [sampleDispute, sampleTimeout])) ∧
      PaidOnce (account 4) samplePair (account 3) 50
        (satAdd64 sampleDispute.env.timestamp disputeChallengePeriodSecs)
        (step exec (run exec (genesis disputeHoldings) beforeSampleDispute) sampleDispute)
        [sampleTimeout] := by
  have opened : Returns exec (run exec (genesis disputeHoldings) beforeSampleDispute)
      sampleDispute := by decide +kernel
  have accounted := disputes_accounted disputeHoldings
    (beforeSampleDispute ++ [sampleDispute, sampleTimeout])
  exact ⟨opened, by decide, by decide +kernel, accounted.1,
    accounted.2 beforeSampleDispute _ _ _ _ _ _ _ rfl opened (by decide)⟩

end LedgerLens
