import LedgerLens.Host.Limiter
import LedgerLens.System.Credits

/-!
Tiered fees: a metered query costs what the schedule says for its place in the consumer's
volume window. The main results are `schedule_always_valid` and `meteredQueries_cost_their_tier`.
-/

namespace LedgerLens

open Host Host.Prog Storage

/-! ### The fee of a volume -/

/-- The fee of the highest tier that a volume reaches, nothing below the lowest. -/
def TierFee (tiers : List FeeTier) (volume : Nat) (fee : Int) : Prop :=
  (∃ tier ∈ tiers, tier.minVolume ≤ volume ∧ fee = tier.fee ∧
    ∀ other ∈ tiers, other.minVolume ≤ volume → other.minVolume ≤ tier.minVolume) ∨
  (fee = 0 ∧ ∀ tier ∈ tiers, volume < tier.minVolume)

/-- A scan that stops at the first miss finds all there is to find in a sorted list. -/
theorem takeWhile_eq_filter {α : Type} {p : α → Bool} {xs : List α}
    (sorted : xs.Pairwise fun a b => p b = true → p a = true) : xs.takeWhile p = xs.filter p := by
  induction xs with
  | nil => rfl
  | cons x rest ih =>
    obtain ⟨first, sorted⟩ := List.pairwise_cons.mp sorted
    cases reached : p x with
    | true => rw [List.takeWhile_cons_of_pos reached, List.filter_cons_of_pos reached, ih sorted]
    | false =>
      have none : rest.filter p = [] :=
        List.filter_eq_nil_iff.mpr fun y listed hit => by
          rw [first y listed hit] at reached
          cases reached
      rw [List.takeWhile_cons_of_neg (by simp [reached]),
        List.filter_cons_of_neg (by simp [reached]), none]

/-- With ascending volumes the scan ends at the highest tier reached. -/
theorem computeGateFee_tierFee {tiers : List FeeTier}
    (sorted : (tiers.map FeeTier.minVolume).Pairwise (· < ·)) (volume : Nat) :
    TierFee tiers volume (computeGateFee tiers volume) := by
  rw [List.pairwise_map] at sorted
  have downward : tiers.Pairwise fun a b => decide (b.minVolume ≤ volume) = true →
      decide (a.minVolume ≤ volume) = true :=
    sorted.imp fun less reached =>
      decide_eq_true (less.le.trans (of_decide_eq_true reached))
  unfold computeGateFee
  rw [takeWhile_eq_filter downward]
  cases last : (tiers.filter fun tier => tier.minVolume ≤ volume).getLast? with
  | none =>
    refine .inr ⟨rfl, fun tier listed => ?_⟩
    have missed := List.filter_eq_nil_iff.mp (List.getLast?_eq_none_iff.mp last) tier listed
    exact not_le.mp fun reached => missed (decide_eq_true reached)
  | some tier =>
    obtain ⟨lower, split⟩ := List.getLast?_eq_some_iff.mp last
    have reached : tier ∈ tiers.filter fun tier => tier.minVolume ≤ volume := by
      rw [split]
      exact List.mem_append_right _ List.mem_cons_self
    obtain ⟨listed, below⟩ := List.mem_filter.mp reached
    refine .inl ⟨tier, listed, of_decide_eq_true below, rfl, fun other among under => ?_⟩
    have kept : other ∈ lower ++ [tier] := by
      rw [← split]
      exact List.mem_filter.mpr ⟨among, decide_eq_true under⟩
    have ordered := sorted.filter fun tier => tier.minVolume ≤ volume
    rw [split, List.pairwise_append] at ordered
    rcases List.mem_append.mp kept with before | same
    · exact (ordered.2.2 other before tier List.mem_cons_self).le
    · rw [List.mem_singleton.mp same]

/-- A volume counts only through the tiers it reaches. -/
theorem TierFee.congr {tiers : List FeeTier} {volume volume' : Nat} {fee : Int}
    (is : TierFee tiers volume fee)
    (same : ∀ tier ∈ tiers, tier.minVolume ≤ volume' ↔ tier.minVolume ≤ volume) :
    TierFee tiers volume' fee := by
  rcases is with ⟨tier, listed, reached, isFee, greatest⟩ | ⟨isFee, none⟩
  · exact .inl ⟨tier, listed, (same tier listed).mpr reached, isFee,
      fun other among under => greatest other among ((same other among).mp under)⟩
  · refine .inr ⟨isFee, fun tier listed => not_le.mp fun reached => ?_⟩
    exact absurd ((same tier listed).mp reached) (not_le.mpr (none tier listed))

/-- The fee of a valid schedule is never negative. -/
theorem TierFee.nonneg {tiers : List FeeTier} {volume : Nat} {fee : Int}
    (is : TierFee tiers volume fee) (valid : feeTiersValid tiers = true) : 0 ≤ fee := by
  rcases is with ⟨tier, listed, _, rfl, _⟩ | ⟨rfl, _⟩
  · unfold feeTiersValid at valid
    simp only [Bool.and_eq_true, List.all_eq_true, decide_eq_true_eq] at valid
    exact (valid.1.2 tier listed).1
  · exact le_rfl

/-! ### Schedules -/

abbrev scheduleOf (w : State) : List FeeTier := (w.ledger.entry .inst .feeTierSchedule).getD []

/-- The schedule in force is one that `set_fee_tier_schedule` accepts. -/
def Scheduled (w : State) : Prop := feeTiersValid (scheduleOf w) = true

theorem exec_scheduled {call : Call} {env : ContractEnv} {w w' : State} {u : Unit}
    (scheduled : Scheduled w) (ran : exec call env w = .ok u w') : Scheduled w' := by
  have unchanged (free : (footprint call).contains .feeTierSchedule = false) : Scheduled w' := by
    have outside : Tag.feeTierSchedule ∉ footprint call := by simpa using free
    have same : w'.ledger.entry .inst .feeTierSchedule = w.ledger.entry .inst .feeTierSchedule :=
      ((exec_keeps call).ok ran).entry _ _ outside
    unfold Scheduled scheduleOf
    rwa [same]
  rcases call with call | ⟨signers, call⟩ | call
  · exact unchanged (by cases call <;> rfl)
  · cases call
    case setFeeTierSchedule tiers =>
      obtain ⟨v, v', checked, _, changed⟩ := asAdmins_ok ran
      obtain ⟨valid, _⟩ := require_ok.mp checked
      simp only [ok_iff_wp, wp_save] at changed
      obtain ⟨_, rfl⟩ := changed
      unfold Scheduled scheduleOf
      rwa [Ledger.entry_put_self]
    all_goals exact unchanged rfl
  · exact unchanged (by cases call <;> rfl)

theorem step_scheduled {w : State} (tx : Transaction) (scheduled : Scheduled w) :
    Scheduled (step exec w tx) := by
  by_cases returns : Returns exec w tx
  · exact exec_scheduled (w := { w with authorized := [] }) scheduled returns.ok
  · rwa [step_of_not_returns returns]

/-- No run brings a schedule into force that its setter would refuse. -/
theorem schedule_always_valid (balances : Balances) (txs : List Transaction) :
    feeTiersValid (scheduleOf (run exec (genesis balances) txs)) = true :=
  run_induction (I := Scheduled) (fun _ tx => step_scheduled tx) rfl

/-! ### Charges -/

/-- A metered query that was charged: the ledger it came in, the rules in force and what the
consumer's credit fell by. -/
structure Charge where
  sequence : Nat
  windowLen : Nat
  tiers : List FeeTier
  fee : Int
  deriving DecidableEq

abbrev volumeRecord (w : State) (consumer : Address) : Option (Nat × Nat) :=
  w.ledger.entry .persistent (.consumerVolumeWindow consumer)

abbrev creditOf (w : State) (consumer : Address) : Int := (creditBook w.ledger).holding consumer

/-- The consumer of a credit-funded query. -/
def payerOf : Call → Option Address
  | .user (.queryRiskGatePrepaid consumer _ _ _) => some consumer
  | _ => none

/-- The charge of a transaction, if it is a query of the consumer that returns and for which
the consumer is not exempt. -/
def chargeOf (consumer : Address) (w : State) (tx : Transaction) : Option Charge :=
  if payerOf tx.call = some consumer ∧ Returns exec w tx ∧ feeExempt tx.env w consumer = false then
    some {
      sequence := tx.env.sequence
      windowLen := (w.ledger.entry .inst .feeTierWindowLedgers).getD defaultFeeTierWindowLedgers
      tiers := scheduleOf w
      fee := creditOf w consumer - creditOf (step exec w tx) consumer }
  else none

/-- The charges of a consumer in a run. -/
def charges (consumer : Address) (w : State) (txs : List Transaction) : List Charge :=
  (trace exec (chargeOf consumer) w txs).reduceOption

/-- A charge comes soon enough after the one that opened the window. -/
def sameWindow (first charge : Charge) : Bool := charge.sequence - first.sequence < charge.windowLen

section Queries

variable {env : ContractEnv} {w w' : State} {consumer payer wallet : Address} {pair : Symbol}
  {gateThreshold : Nat} {open_ : Bool}

/-- The writes of a fee. -/
theorem payFee_ok {fee : Int} {u : Unit}
    (ran : (do
      debitGateBalance payer fee
      subGateCreditLiability fee
      store .inst .gateCreditRevenue (satAddI128 (← getGateCreditRevenue) fee) : M Unit) env w =
        .ok u w') :
    (∀ consumer, volumeRecord w' consumer = volumeRecord w consumer) ∧
      creditOf w' payer = creditOf w payer - fee := by
  simp only [ok_iff_wp, wp_bind, wp_debitGateBalance, wp_subGateCreditLiability, wp_loadOr,
    wp_save] at ran
  obtain ⟨_, _, rfl⟩ := ran
  refine ⟨fun consumer => ?_, ?_⟩
  · rw [volumeRecord, Ledger.entry_put_of_ne _ _ (by simp), Ledger.entry_put_of_ne _ _ (by simp),
      Ledger.entry_put_of_ne _ _ (by simp)]
  · unfold creditOf
    rw [creditBook_put_revenue, creditBook_put_liability, creditBook_put_balance]
    simp

/-- What a query that returns does to the volumes and the credit of its payer. -/
theorem queryRiskGateMetered_ok (scheduled : Scheduled w)
    (ran : RentRelayCredits.queryRiskGateMetered payer wallet pair gateThreshold env w =
      .ok open_ w') :
    (feeExempt env w payer = true ∧
      ∀ consumer, volumeRecord w' consumer = volumeRecord w consumer) ∨
    (feeExempt env w payer = false ∧
      volumeRecord w' payer =
        some ((volumeWindow env w payer).1, satAdd32 (volumeWindow env w payer).2 1) ∧
      (∀ consumer ≠ payer, volumeRecord w' consumer = volumeRecord w consumer) ∧
      TierFee (scheduleOf w) (volumeWindow env w payer).2
        (creditOf w payer - creditOf w' payer)) := by
  obtain ⟨_, _, ⟨⟩, ran⟩ := bind_ok.mp ran
  obtain ⟨_, ran⟩ := require_bind_ok.mp ran
  obtain ⟨_, _, authorized, ran⟩ := bind_ok.mp ran
  obtain ⟨_, v, charged, queried⟩ := bind_ok.mp ran
  obtain ⟨_, rfl⟩ := requireAuth_ok.mp authorized
  have only : Only placeTag [.serviceSilentAlertEmitted, .consumerReadQuota] v w' :=
    Keeps.ok queried
  have records (consumer : Address) : volumeRecord w' consumer = volumeRecord v consumer :=
    only.entry .persistent (.consumerVolumeWindow consumer)
      (show Tag.consumerVolumeWindow ∉ _ by decide)
  have same : SameBook v w' := Keeps.ok queried
  have credit : creditOf w' payer = creditOf v payer := congrArg (·.holding payer) same
  have counted (consumer : Address) (other : consumer ≠ payer) :
      volumeRecord (countQuery env { w with authorized := payer :: w.authorized } payer) consumer =
        volumeRecord w consumer :=
    Ledger.entry_put_of_ne _ _ (by simpa using other)
  have before : creditOf (countQuery env { w with authorized := payer :: w.authorized } payer)
      payer = creditOf w payer :=
    congrArg (·.holding payer) (countQuery_sameBook env _ payer)
  have valid : TierFee (scheduleOf w) (volumeWindow env w payer).2 (tierFeeDue env w payer) :=
    computeGateFee_tierFee (by
      unfold Scheduled feeTiersValid at scheduled
      simp only [Bool.and_eq_true] at scheduled
      exact of_decide_eq_true scheduled.2) _
  rcases chargeGateQuery_cases charged with
    ⟨exempt, rfl⟩ | ⟨charges, notPositive, rfl⟩ | ⟨charges, positive, paid⟩
  · exact .inl ⟨exempt, records⟩
  · refine .inr ⟨charges, ?_, ?_, ?_⟩
    · rw [records]
      exact Ledger.entry_put_self ..
    · intro consumer other
      rw [records, counted consumer other]
    · have free : tierFeeDue env w payer = 0 := le_antisymm notPositive (valid.nonneg scheduled)
      rw [credit, before, sub_self, ← free]
      exact valid
  · obtain ⟨kept, paid⟩ := payFee_ok paid
    refine .inr ⟨charges, ?_, ?_, ?_⟩
    · rw [records, kept]
      exact Ledger.entry_put_self ..
    · intro consumer other
      rw [records, kept, counted consumer other]
    · rw [credit, paid, before, sub_sub_cancel]
      exact valid

end Queries

section Steps

variable {w : State} {consumer : Address} {tx : Transaction} {charge : Charge}

theorem payerOf_cases (call : Call) :
    (∃ payer wallet pair gateThreshold,
      call = .user (.queryRiskGatePrepaid payer wallet pair gateThreshold)) ∨
    payerOf call = none ∧ Tag.consumerVolumeWindow ∉ footprint call := by
  have of_free (free : (footprint call).contains .consumerVolumeWindow = false) :
      Tag.consumerVolumeWindow ∉ footprint call := by simpa using free
  rcases call with call | ⟨signers, call⟩ | call
  · cases call
    case queryRiskGatePrepaid payer wallet pair gateThreshold =>
      exact .inl ⟨payer, wallet, pair, gateThreshold, rfl⟩
    all_goals exact .inr ⟨rfl, of_free rfl⟩
  · exact .inr ⟨rfl, of_free (by cases call <;> rfl)⟩
  · exact .inr ⟨rfl, of_free (by cases call <;> rfl)⟩

/-- What is not charged to the consumer leaves its volume alone. -/
theorem step_uncharged (scheduled : Scheduled w) (none : chargeOf consumer w tx = none) :
    volumeRecord (step exec w tx) consumer = volumeRecord w consumer := by
  by_cases returns : Returns exec w tx
  · obtain ⟨env, call⟩ := tx
    rcases payerOf_cases call with ⟨payer, wallet, pair, gateThreshold, rfl⟩ | ⟨_, outside⟩
    · obtain ⟨_, _, queried, ⟨⟩⟩ := bind_ok.mp returns.ok
      rcases queryRiskGateMetered_ok (w := { w with authorized := [] }) scheduled queried with
        ⟨_, same⟩ | ⟨charges, _, others, _⟩
      · exact same consumer
      · refine others consumer ?_
        rintro rfl
        unfold chargeOf at none
        rw [if_pos ⟨rfl, returns, charges⟩] at none
        cases none
    · exact invoke_entry (exec_keeps call) env w .persistent outside
  · rw [step_of_not_returns returns]

theorem step_charged (scheduled : Scheduled w) (is : chargeOf consumer w tx = some charge) :
    volumeRecord (step exec w tx) consumer =
      some ((volumeWindow tx.env w consumer).1, satAdd32 (volumeWindow tx.env w consumer).2 1) ∧
    feeTiersValid charge.tiers = true ∧
    TierFee charge.tiers (volumeWindow tx.env w consumer).2 charge.fee := by
  unfold chargeOf at is
  split at is
  · next charged =>
    obtain ⟨isPayer, returns, charges⟩ := charged
    cases is
    obtain ⟨env, call⟩ := tx
    rcases payerOf_cases call with ⟨payer, wallet, pair, gateThreshold, rfl⟩ | ⟨other, _⟩
    · cases isPayer
      obtain ⟨_, _, queried, ⟨⟩⟩ := bind_ok.mp returns.ok
      rcases queryRiskGateMetered_ok (w := { w with authorized := [] }) scheduled queried with
        ⟨exempt, _⟩ | ⟨_, record, _, fee⟩
      · exact absurd (exempt.symm.trans charges) (by decide)
      · exact ⟨record, scheduled, fee⟩
    · rw [isPayer] at other
      cases other
  · cases is

/-- The window a charge falls into, by what is stored. -/
theorem volumeWindow_of_charge (is : chargeOf consumer w tx = some charge) :
    volumeWindow tx.env w consumer =
      (volumeRecord w consumer).elim (charge.sequence, 0) fun record =>
        if charge.sequence - record.1 < charge.windowLen then record else (charge.sequence, 0) := by
  unfold chargeOf at is
  split at is
  · cases is
    unfold volumeWindow volumeRecord
    dsimp only
    cases w.ledger.entry .persistent (.consumerVolumeWindow consumer) with
    | none => rw [Option.getD_none, ite_self]; rfl
    | some record => simp only [Option.getD_some, Option.elim_some, ge_iff_le, ← not_lt, ite_not]
  · cases is

end Steps

/-! ### Runs -/

/-- The schedule is valid, and the fee is what it says for the place. -/
abbrev RightFee (place : Nat) (charge : Charge) : Prop :=
  feeTiersValid charge.tiers = true ∧ TierFee charge.tiers place charge.fee

/-- The volumes of a schedule are those of a 32-bit machine. -/
abbrev TiersSized (charge : Charge) : Prop := ∀ tier ∈ charge.tiers, tier.minVolume < u32Bound

/-- The open window of a consumer is stored by its first ledger and by the number of its
charges, as far as that fits. -/
structure OpenWindow (consumer : Address) (w : State) (first : Charge) (opened : List Charge) :
    Prop where
  record : volumeRecord w consumer = some (first.sequence, min opened.length (u32Bound - 1))
  fees : EachPlace RightFee opened

section Runs

variable {w : State} {consumer : Address} {tx : Transaction} {first charge : Charge}
  {opened : List Charge}

theorem charges_cons_none {rest : List Transaction} (none : chargeOf consumer w tx = none) :
    charges consumer w (tx :: rest) = charges consumer (step exec w tx) rest := by
  rw [charges, trace, none]
  rfl

theorem charges_cons_some {rest : List Transaction} (is : chargeOf consumer w tx = some charge) :
    charges consumer w (tx :: rest) = charge :: charges consumer (step exec w tx) rest := by
  rw [charges, trace, is]
  rfl

/-- A charge that finds no window, or comes too late for it, opens the next. -/
theorem OpenWindow.of_first (scheduled : Scheduled w) (is : chargeOf consumer w tx = some charge)
    (opens : volumeWindow tx.env w consumer = (charge.sequence, 0)) :
    OpenWindow consumer (step exec w tx) charge [charge] := by
  obtain ⟨record, fee⟩ := step_charged scheduled is
  rw [opens] at record fee
  exact ⟨record, .singleton fee⟩

/-- One that comes in time takes the next place in the window. -/
theorem OpenWindow.next (window : OpenWindow consumer w first opened) (scheduled : Scheduled w)
    (sized : TiersSized charge) (is : chargeOf consumer w tx = some charge)
    (within : sameWindow first charge = true) :
    OpenWindow consumer (step exec w tx) first (opened ++ [charge]) := by
  obtain ⟨record, fee⟩ := step_charged scheduled is
  have found := volumeWindow_of_charge is
  rw [window.record, Option.elim_some, if_pos (of_decide_eq_true within)] at found
  rw [found] at record fee
  refine ⟨?_, window.fees.append ⟨fee.1, fee.2.congr ?_⟩⟩
  · rw [record, List.length_append, List.length_singleton, satAdd32]
    congr 2
    omega
  · intro tier listed
    have fits := sized tier listed
    rw [le_min_iff]
    omega

theorem OpenWindow.uncharged (window : OpenWindow consumer w first opened)
    (scheduled : Scheduled w) (none : chargeOf consumer w tx = none) :
    OpenWindow consumer (step exec w tx) first opened :=
  ⟨(step_uncharged scheduled none).trans window.record, window.fees⟩

theorem OpenWindow.run (window : OpenWindow consumer w first opened) (scheduled : Scheduled w)
    {txs : List Transaction} (sized : ∀ charge ∈ charges consumer w txs, TiersSized charge) :
    ∀ window ∈ windowsFrom sameWindow first opened (charges consumer w txs),
      EachPlace RightFee window := by
  induction txs generalizing w first opened with
  | nil =>
    intro other listed
    rw [List.mem_singleton.mp listed]
    exact window.fees
  | cons tx rest ih =>
    have after := step_scheduled tx scheduled
    cases is : chargeOf consumer w tx with
    | none =>
      rw [charges_cons_none is] at sized ⊢
      exact ih (window.uncharged scheduled is) after sized
    | some charge =>
      rw [charges_cons_some is] at sized ⊢
      have later := fun charge listed => sized charge (List.mem_cons_of_mem _ listed)
      have here := sized charge List.mem_cons_self
      rw [windowsFrom]
      split
      · next within => exact ih (window.next scheduled here is within) after later
      · next late =>
        have opens := volumeWindow_of_charge is
        rw [window.record, Option.elim_some, if_neg fun soon => late (decide_eq_true soon)] at opens
        intro other listed
        rcases List.mem_cons.mp listed with rfl | listed
        · exact window.fees
        · exact ih (.of_first scheduled is opens) after later other listed

/-- From a state in which the consumer has no volume on record. -/
theorem windows_of_fresh (fresh : volumeRecord w consumer = none) (scheduled : Scheduled w)
    {txs : List Transaction} (sized : ∀ charge ∈ charges consumer w txs, TiersSized charge) :
    ∀ window ∈ windows sameWindow (charges consumer w txs), EachPlace RightFee window := by
  induction txs generalizing w with
  | nil => exact fun _ listed => absurd listed List.not_mem_nil
  | cons tx rest ih =>
    have after := step_scheduled tx scheduled
    cases is : chargeOf consumer w tx with
    | none =>
      rw [charges_cons_none is] at sized ⊢
      exact ih ((step_uncharged scheduled is).trans fresh) after sized
    | some charge =>
      rw [charges_cons_some is] at sized ⊢
      have opens := volumeWindow_of_charge is
      rw [fresh, Option.elim_none] at opens
      exact (OpenWindow.of_first scheduled is opens).run after
        fun charge listed => sized charge (List.mem_cons_of_mem _ listed)

end Runs

/-- In every run every charged query of a consumer costs what the schedule in force says for its
place in the volume window, whatever schedules and windows are set; and a query that fails
for want of credit leaves the credit and the volume as they were. -/
theorem meteredQueries_cost_their_tier (consumer : Address) (balances : Balances)
    (txs : List Transaction)
    (sized : ∀ charge ∈ charges consumer (genesis balances) txs, TiersSized charge) :
    (∀ window ∈ windows sameWindow (charges consumer (genesis balances) txs),
      EachPlace RightFee window) ∧
    ∀ env wallet pair gateThreshold w',
      let w := run exec (genesis balances) txs
      let after := step exec w
        ⟨env, .user (.queryRiskGatePrepaid consumer wallet pair gateThreshold)⟩
      RentRelayCredits.queryRiskGateMetered consumer wallet pair gateThreshold env
        { w with authorized := [] } = .err .insufficientGateCredits w' →
      creditOf after consumer = creditOf w consumer ∧
        volumeRecord after consumer = volumeRecord w consumer := by
  refine ⟨?_, ?_⟩
  · have scheduled : Scheduled (genesis balances) := by
      unfold Scheduled
      exact (by decide : feeTiersValid [] = true)
    exact windows_of_fresh rfl scheduled sized
  · intro env wallet pair gateThreshold w' w after failed
    have kept : after = w := by
      refine step_of_not_returns fun returns => ?_
      obtain ⟨_, _, queried, _⟩ := bind_ok.mp returns.ok
      rw [failed] at queried
      cases queried
    rw [kept]
    exact ⟨rfl, rfl⟩

/-- Account 3 pays 5 for each of its first two queries in a window and 3 from then on. -/
def sampleTieredRun : List Transaction :=
  initSample ::
    [.admins [] (.setGateCreditToken (account 9)),
      .admins [] (.setFeeTierSchedule [⟨0, 5⟩, ⟨2, 3⟩]),
      .user (.depositGateCredits (account 3) 14),
      .user (.queryRiskGatePrepaid (account 3) (account 4) samplePair 50),
      .user (.queryRiskGatePrepaid (account 3) (account 4) samplePair 50),
      .user (.queryRiskGatePrepaid (account 3) (account 4) samplePair 50),
      .user (.queryRiskGatePrepaid (account 3) (account 4) samplePair 50)].map
        fun call => ⟨sampleEnv [account 1, account 3], call⟩

/-- The fourth query finds a credit of 1 and fails. -/
theorem meteredQueries_cost_their_tier_sample :
    let paid := charges (account 3) (genesis sampleFunds) sampleTieredRun
    paid.map Charge.fee = [5, 5, 3] ∧ windows sameWindow paid = [paid] ∧
      EachPlace RightFee paid := by
  have one : windows sameWindow (charges (account 3) (genesis sampleFunds) sampleTieredRun) =
      [charges (account 3) (genesis sampleFunds) sampleTieredRun] := by decide +kernel
  have sized : ∀ charge ∈ charges (account 3) (genesis sampleFunds) sampleTieredRun,
      TiersSized charge := by decide +kernel
  refine ⟨by decide +kernel, one, ?_⟩
  refine (meteredQueries_cost_their_tier (account 3) sampleFunds sampleTieredRun sized).1 _ ?_
  rw [one]
  exact List.mem_cons_self

end LedgerLens
