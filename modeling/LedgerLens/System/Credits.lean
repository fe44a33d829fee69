import LedgerLens.System.Payments

/-!
Prepaid gate credits. The contract keeps a balance for every depositor, the
total it owes them and the revenue it earned from metered queries, each in an
entry of its own. They are the book of prepaid accounts, and every transaction
moves them as one move of such a book. The main result is `gate_credits_conserved`.
-/

namespace LedgerLens

open Host Host.Prog Host.Totals Storage

/-! ### The book -/

/-- The accounts as the ledger records them. -/
def creditBook (ledger : Ledger DataKey Val) : Book Address where
  holding depositor := (ledger.entry .persistent (.gateCreditBalance depositor)).getD 0
  liability := (ledger.entry .inst .gateCreditLiabilityTotal).getD 0
  revenue := (ledger.entry .inst .gateCreditRevenue).getD 0

/-- The withdrawal a depositor has asked for: the amount and when it unlocks. -/
abbrev creditRequest (w : State) (depositor : Address) : Option (Int × Nat) :=
  w.ledger.entry .persistent (.gateCreditWithdrawalRequest depositor)

/-- Whoever asked for a withdrawal asked for something. -/
def RequestsPositive (w : State) : Prop :=
  ∀ depositor request, creditRequest w depositor = some request → 0 < request.1

@[reducible] def Tag.isBook : Tag → Bool
  | .gateCreditBalance | .gateCreditLiabilityTotal | .gateCreditRevenue => true
  | _ => false

@[reducible] def Tag.isCreditRequest : Tag → Bool
  | .gateCreditWithdrawalRequest => true
  | _ => false

theorem creditBook_congr {ledger ledger' : Ledger DataKey Val}
    (same : ∀ d k, k.tag.isBook = true → ledger'.entry d k = ledger.entry d k) :
    creditBook ledger' = creditBook ledger := by
  unfold creditBook
  congr 1
  · funext depositor
    rw [same _ _ rfl]
  · rw [same _ _ rfl]
  · rw [same _ _ rfl]

def SameBook (w w' : State) : Prop := creditBook w'.ledger = creditBook w.ledger

instance : About SameBook Tag.isBook where
  of_only _ _ _ free only :=
    creditBook_congr fun d k isBook => only.entry d k fun listed => by simp
      [free _ listed] at isBook

def SameRequests (w w' : State) : Prop :=
  ∀ depositor, creditRequest w' depositor = creditRequest w depositor

instance : About SameRequests Tag.isCreditRequest where
  of_only _ _ _ free only depositor :=
    only.entry _ (.gateCreditWithdrawalRequest depositor) fun listed =>
      Bool.noConfusion (free _ listed)

theorem RequestsPositive.of_same {w w' : State} (requests : RequestsPositive w)
    (same : SameRequests w w') : RequestsPositive w' := by
  intro depositor request asked
  exact requests depositor request ((same depositor).symm.trans asked)

section Puts

variable (ledger : Ledger DataKey Val)

@[simp] theorem creditBook_put_balance (depositor : Address) (v : Option Int) :
    creditBook (ledger.put .persistent (.gateCreditBalance depositor) v) =
      { creditBook ledger with
        holding := Function.update (creditBook ledger).holding depositor (v.getD 0) } := by
  unfold creditBook
  congr 1
  funext other
  rw [Function.update_apply]
  split
  · next same => rw [same, Ledger.entry_put_self]
  · next other => rw [Ledger.entry_put_of_ne _ _ (by simpa using other)]

@[simp] theorem creditBook_put_liability (v : Option Int) :
    creditBook (ledger.put .inst .gateCreditLiabilityTotal v) =
      { creditBook ledger with liability := v.getD 0 } := by
  simp [creditBook, Ledger.entry_put_of_ne]

@[simp] theorem creditBook_put_revenue (v : Option Int) :
    creditBook (ledger.put .inst .gateCreditRevenue v) =
      { creditBook ledger with revenue := v.getD 0 } := by
  simp [creditBook, Ledger.entry_put_of_ne]

theorem creditBook_put_of_other (d : Durability) (k : DataKey) (v : Option (Val k))
    (other : k.tag.isBook = false) : creditBook (ledger.put d k v) = creditBook ledger :=
  creditBook_congr fun _ k' isBook => Ledger.entry_put_of_ne _ _ fun same => by
    simp [same, other] at isBook

end Puts

/-! ### The entry points -/

/-- The book is moved by `move`, which its accounts cover. -/
structure MovesBook (move : Move Address) (w w' : State) : Prop where
  covered : move.Covered (creditBook w.ledger)
  book : creditBook w'.ledger = (creditBook w.ledger).after move

section Entries

variable {env : ContractEnv} {w w' : State}

section

variable {Q : Unit → State → Prop} (depositor : Address) (balance : Int)

/-- A balance as it is stored: zero is no entry. -/
def storedBalance : Option Int := if balance = 0 then none else some balance

@[simp] theorem storedBalance_getD : (storedBalance balance).getD 0 = balance := by
  unfold storedBalance
  split
  · next zero => exact zero.symm
  · rfl

@[simp] theorem wp_setGateCreditBalance :
    wp (setGateCreditBalance depositor balance) Q env w ↔
      Q () { w with ledger :=
        w.ledger.put .persistent (.gateCreditBalance depositor) (storedBalance balance) } := by
  unfold setGateCreditBalance storedBalance
  split <;> simp

/-- A balance and the total owed, written one after the other. -/
theorem creditBook_put_adjust {ledger : Ledger DataKey Val} {depositor : Address}
    {balance total change : Int}
    (newBalance : balance = (creditBook ledger).holding depositor + change)
    (newTotal : total = (creditBook ledger).liability + change) :
    creditBook ((ledger.put .persistent (.gateCreditBalance depositor)
        (storedBalance balance)).put .inst .gateCreditLiabilityTotal (some total)) =
      (creditBook ledger).adjust depositor change := by
  simp [Book.adjust, newBalance, newTotal]

theorem depositGateCredits_book {depositor : Address} {amount balance : Int}
    (exactBalance : satAddI128 ((creditBook w.ledger).holding depositor) amount =
      (creditBook w.ledger).holding depositor + amount)
    (exactTotal : satAddI128 (creditBook w.ledger).liability amount =
      (creditBook w.ledger).liability + amount)
    (ran : depositGateCredits depositor amount env w = .ok balance w') :
    MovesBook (.deposit depositor amount) w w' := by
  simp only [ok_iff_wp, depositGateCredits, wp_bind, wp_require, wp_requireAuth, wp_load, wp_okOr,
    wp_asks, wp_transfer, wp_loadOr, wp_setGateCreditBalance, wp_save, wp_pure,
    decide_eq_true_eq] at ran
  obtain ⟨positive, _, _, _, _, _, rfl⟩ := ran
  refine ⟨positive.le, creditBook_put_adjust exactBalance ?_⟩
  rw [Ledger.entry_put_of_ne _ _ (by simp)]
  exact exactTotal

@[simp] theorem wp_debitGateBalance (amount : Int) :
    wp (debitGateBalance depositor amount) Q env w ↔
      amount ≤ (creditBook w.ledger).holding depositor ∧
        Q () { w with
          ledger := w.ledger.put .persistent (.gateCreditBalance depositor)
            (storedBalance ((creditBook w.ledger).holding depositor - amount)) } := by
  simp [debitGateBalance, creditBook]

@[simp] theorem wp_subGateCreditLiability (amount : Int) :
    wp (subGateCreditLiability amount) Q env w ↔
      Q () { w with
        ledger := w.ledger.put .inst .gateCreditLiabilityTotal
          (some (max ((creditBook w.ledger).liability - amount) 0)) } := by
  simp [subGateCreditLiability, creditBook]

end

/-- Debit a balance and the total owed. The account covers the amount, so the
total does, and the clamp at zero does nothing. -/
theorem creditBook_put_draw {ledger : Ledger DataKey Val} {depositor : Address} {amount : Int}
    (sound : (creditBook ledger).Sound)
    (covered : amount ≤ (creditBook ledger).holding depositor) :
    creditBook ((ledger.put .persistent (.gateCreditBalance depositor)
        (storedBalance ((creditBook ledger).holding depositor - amount))).put .inst
          .gateCreditLiabilityTotal (some (max ((creditBook ledger).liability - amount) 0))) =
      (creditBook ledger).adjust depositor (-amount) := by
  have owed := covered.trans (sound.holding_le depositor)
  exact creditBook_put_adjust Int.sub_eq_add_neg
    ((max_eq_left (sub_nonneg.mpr owed)).trans Int.sub_eq_add_neg)

/-- What a depositor has asked for. -/
def requestedAmount (w : State) (depositor : Address) : Int :=
  (creditRequest w depositor).elim 0 Prod.fst

theorem withdrawGateCredits_book {depositor : Address} {amount : Int}
    (sound : (creditBook w.ledger).Sound) (requests : RequestsPositive w)
    (ran : withdrawGateCredits depositor env w = .ok amount w') :
    MovesBook (.withdraw depositor (requestedAmount w depositor)) w w' ∧ RequestsPositive w' := by
  simp only [ok_iff_wp, withdrawGateCredits, wp_bind, wp_requireAuth, wp_load, wp_okOr, wp_asks,
    wp_require, wp_erase, wp_loadOr, wp_debitGateBalance, wp_subGateCreditLiability, wp_transfer,
    wp_pure, decide_eq_true_eq, creditBook_put_balance] at ran
  obtain ⟨_, request, asked, _, _, covered, _, _, _, _, rfl⟩ := ran
  have same : creditBook (w.ledger.put .persistent (.gateCreditWithdrawalRequest depositor) none) =
      creditBook w.ledger :=
    creditBook_put_of_other _ _ _ _ rfl
  have amountIs : requestedAmount w depositor = request.1 := by
    rw [requestedAmount, creditRequest, asked]
    rfl
  rw [same] at covered
  rw [amountIs]
  refine ⟨⟨⟨(requests depositor request asked).le, covered⟩, ?_⟩, ?_⟩
  · rw [← same] at sound covered ⊢
    exact creditBook_put_draw sound covered
  · intro other request' asked'
    refine requests other request' ?_
    obtain rfl | isOther := eq_or_ne other depositor
    · simp [creditRequest, Ledger.entry_put_of_ne] at asked'
    · simpa [creditRequest, isOther, Ledger.entry_put_of_ne] using asked'

theorem withdrawGateCreditsRequest_positive {depositor : Address} {amount : Int} {unlockAt : Nat}
    (requests : RequestsPositive w)
    (ran : withdrawGateCreditsRequest depositor amount env w = .ok unlockAt w') :
    RequestsPositive w' := by
  simp only [ok_iff_wp, withdrawGateCreditsRequest, wp_bind, wp_requireAuth, wp_loadOr, wp_asks,
    wp_require, wp_save, wp_pure, decide_eq_true_eq] at ran
  obtain ⟨_, positive, _, rfl⟩ := ran
  intro other request asked
  obtain rfl | isOther := eq_or_ne other depositor
  · simp only [creditRequest, Ledger.entry_put_self, Option.some.injEq] at asked
    rw [← asked]
    exact positive.1
  · refine requests other request ?_
    simpa [creditRequest, isOther, Ledger.entry_put_of_ne] using asked

theorem withdrawGateCreditRevenue_book {signers : List Address} {recipient : Address}
    {amount : Int} {u : Unit}
    (ran : withdrawGateCreditRevenue signers recipient amount env w = .ok u w') :
    MovesBook (.collect amount) w w' := by
  obtain ⟨_, v, checked, ⟨same, _⟩, changed⟩ := asAdmins_ok ran
  obtain ⟨positive, rfl⟩ := require_ok.mp checked
  simp only [ok_iff_wp, wp_bind, wp_loadOr, wp_require, wp_save, wp_load, wp_okOr, wp_asks,
    wp_transfer, decide_eq_true_eq] at changed
  obtain ⟨covered, _, _, _, _, rfl⟩ := changed
  refine ⟨⟨(of_decide_eq_true positive).le, ?_⟩, ?_⟩
  · rw [← same]
    exact covered
  · rw [← same]
    exact creditBook_put_revenue _ _

/-- The window of metered queries this ledger belongs to: where it started and
how many the consumer has made in it. -/
def volumeWindow (env : ContractEnv) (w : State) (consumer : Address) : Nat × Nat :=
  let last := (w.ledger.entry .persistent (.consumerVolumeWindow consumer)).getD (env.sequence, 0)
  let windowLen := (w.ledger.entry .inst .feeTierWindowLedgers).getD defaultFeeTierWindowLedgers
  if env.sequence - last.1 ≥ windowLen then (env.sequence, 0) else last

@[simp] theorem wp_advanceConsumerVolumeWindow {Q : Nat → State → Prop} (consumer : Address) :
    wp (advanceConsumerVolumeWindow consumer) Q env w ↔
      Q (volumeWindow env w consumer).2 { w with
        ledger := w.ledger.put .persistent (.consumerVolumeWindow consumer)
          (some ((volumeWindow env w consumer).1, satAdd32
            (volumeWindow env w consumer).2 1)) } := by
  simp only [advanceConsumerVolumeWindow, volumeWindow, wp_bind, wp_loadOr, wp_asks, wp_save,
    wp_pure]

/-- The consumer pays nothing for metered queries. -/
def feeExempt (env : ContractEnv) (w : State) (consumer : Address) : Bool :=
  (w.ledger.entry .persistent (.feeExemption consumer)).elim false fun e => env.timestamp < e.1

/-- What a metered query costs the consumer. -/
def gateFeeDue (env : ContractEnv) (w : State) (consumer : Address) : Int :=
  if feeExempt env w consumer then 0
  else
    max 0 (computeGateFee ((w.ledger.entry .inst .feeTierSchedule).getD [])
      (volumeWindow env w consumer).2)

/-- The writes that charge a fee. -/
theorem charge_book {consumer : Address} {fee : Int} {u : Unit}
    (sound : (creditBook w.ledger).Sound) (positive : 0 < fee)
    (exactRevenue : fee ≤ (creditBook w.ledger).holding consumer →
      satAddI128 (creditBook w.ledger).revenue fee = (creditBook w.ledger).revenue + fee)
    (ran : (do
      debitGateBalance consumer fee
      subGateCreditLiability fee
      store .inst .gateCreditRevenue (satAddI128 (← getGateCreditRevenue) fee) : M Unit) env w =
        .ok u w') : MovesBook (.charge consumer fee) w w' := by
  simp only [ok_iff_wp, wp_bind, wp_debitGateBalance, wp_subGateCreditLiability, wp_loadOr,
    wp_save, creditBook_put_balance] at ran
  obtain ⟨covered, _, rfl⟩ := ran
  refine ⟨⟨positive.le, covered⟩, ?_⟩
  rw [creditBook_put_revenue, creditBook_put_draw sound covered,
    Ledger.entry_put_of_ne _ _ (by simp), Ledger.entry_put_of_ne _ _ (by simp)]
  exact congrArg (fun revenue => { (creditBook w.ledger).adjust consumer (-fee) with revenue })
    (exactRevenue covered)

section

variable (env : ContractEnv) (w : State) (consumer : Address)

/-- The volume a metered query counts first. -/
def countQuery : State :=
  { w with
    ledger := w.ledger.put .persistent (.consumerVolumeWindow consumer)
      (some ((volumeWindow env w consumer).1, satAdd32 (volumeWindow env w consumer).2 1)) }

/-- The fee of a query at the consumer's volume. -/
def tierFeeDue : Int :=
  computeGateFee ((w.ledger.entry .inst .feeTierSchedule).getD []) (volumeWindow env w consumer).2

theorem countQuery_sameBook : SameBook w (countQuery env w consumer) := by
  have counted : advanceConsumerVolumeWindow consumer env w =
      .ok (volumeWindow env w consumer).2 (countQuery env w consumer) :=
    ok_iff_wp.mpr ((wp_advanceConsumerVolumeWindow consumer).mpr ⟨rfl, rfl⟩)
  exact Keeps.ok counted

end

/-- A query is free for an exempt consumer; otherwise it is counted, and a fee above zero is
charged. -/
theorem chargeGateQuery_cases {consumer : Address} {u : Unit}
    (ran : chargeGateQuery consumer env w = .ok u w') :
    (feeExempt env w consumer = true ∧ w' = w) ∨
    (feeExempt env w consumer = false ∧ tierFeeDue env w consumer ≤ 0 ∧
      w' = countQuery env w consumer) ∨
    (feeExempt env w consumer = false ∧ 0 < tierFeeDue env w consumer ∧
      (do
        debitGateBalance consumer (tierFeeDue env w consumer)
        subGateCreditLiability (tierFeeDue env w consumer)
        store .inst .gateCreditRevenue
          (satAddI128 (← getGateCreditRevenue) (tierFeeDue env w consumer)) : M Unit) env
        (countQuery env w consumer) = .ok u w') := by
  obtain ⟨_, _, ⟨⟩, ran⟩ := bind_ok.mp ran
  obtain ⟨_, _, ⟨⟩, ran⟩ := bind_ok.mp ran
  unfold whenever at ran
  by_cases exempt : feeExempt env w consumer = true
  · have notCharged : (!feeExempt env w consumer) = false := by simp [exempt]
    unfold feeExempt at notCharged
    rw [notCharged] at ran
    cases ran
    exact .inl ⟨exempt, rfl⟩
  · have isCharged : (!feeExempt env w consumer) = true := by simp [exempt]
    have exempt := Bool.eq_false_of_not_eq_true exempt
    unfold feeExempt at isCharged
    rw [if_pos isCharged] at ran
    obtain ⟨_, v, advanced, ran⟩ := bind_ok.mp ran
    obtain ⟨_, _, ⟨⟩, ran⟩ := bind_ok.mp ran
    simp only [ok_iff_wp, wp_advanceConsumerVolumeWindow] at advanced
    obtain ⟨rfl, rfl⟩ := advanced
    have schedule : DataKey.feeTierSchedule ≠ .consumerVolumeWindow consumer := by simp
    simp only [Ledger.entry_put_of_ne _ _ schedule] at ran
    split at ran
    · next positive => exact .inr (.inr ⟨exempt, of_decide_eq_true positive, ran⟩)
    · next notPositive =>
      cases ran
      exact .inr (.inl ⟨exempt, not_lt.mp fun positive =>
        notPositive (decide_eq_true positive), rfl⟩)

theorem chargeGateQuery_book {consumer : Address} {u : Unit} (sound : (creditBook w.ledger).Sound)
    (exactRevenue : gateFeeDue env w consumer ≤ (creditBook w.ledger).holding consumer →
      satAddI128 (creditBook w.ledger).revenue (gateFeeDue env w consumer) =
        (creditBook w.ledger).revenue + gateFeeDue env w consumer)
    (ran : chargeGateQuery consumer env w = .ok u w') :
    MovesBook (.charge consumer (gateFeeDue env w consumer)) w w' := by
  have free {v : State} (same : SameBook w v) : MovesBook (.charge consumer 0) w v :=
    ⟨⟨le_rfl, sound.holding_nonneg consumer⟩, by rw [Book.after_charge_zero, same]⟩
  have same := countQuery_sameBook env w consumer
  rcases chargeGateQuery_cases ran with
    ⟨exempt, rfl⟩ | ⟨charged, notPositive, rfl⟩ | ⟨charged, positive, paid⟩
  · rw [gateFeeDue, if_pos exempt]
    exact free rfl
  · have due : gateFeeDue env w consumer = 0 := by
      rw [gateFeeDue, if_neg (by simp [charged])]
      exact max_eq_left notPositive
    rw [due]
    exact free same
  · have due : gateFeeDue env w consumer = tierFeeDue env w consumer := by
      rw [gateFeeDue, if_neg (by simp [charged])]
      exact max_eq_right positive.le
    rw [due] at exactRevenue ⊢
    unfold SameBook at same
    rw [← same] at sound exactRevenue
    obtain ⟨covered, book⟩ := charge_book sound positive exactRevenue paid
    rw [same] at covered book
    exact ⟨covered, book⟩

theorem queryRiskGatePrepaid_book {consumer wallet : Address} {pair : Symbol}
    {gateThreshold : Nat} {open_ : Bool} (sound : (creditBook w.ledger).Sound)
    (exactRevenue : gateFeeDue env w consumer ≤ (creditBook w.ledger).holding consumer →
      satAddI128 (creditBook w.ledger).revenue (gateFeeDue env w consumer) =
        (creditBook w.ledger).revenue + gateFeeDue env w consumer)
    (ran : RentRelayCredits.queryRiskGateMetered consumer wallet pair
      gateThreshold env w =
      .ok open_ w') : MovesBook (.charge consumer (gateFeeDue env w consumer)) w w' := by
  obtain ⟨_, _, ⟨⟩, ran⟩ := bind_ok.mp ran
  obtain ⟨_, ran⟩ := require_bind_ok.mp ran
  obtain ⟨_, _, authorized, ran⟩ := bind_ok.mp ran
  obtain ⟨_, v, charged, queried⟩ := bind_ok.mp ran
  obtain ⟨_, rfl⟩ := requireAuth_ok.mp authorized
  have same : SameBook v w' := Keeps.ok queried
  obtain ⟨covered, book⟩ :=
    chargeGateQuery_book (w := { w with authorized := consumer :: w.authorized }) sound exactRevenue
      charged
  exact ⟨covered, same.trans book⟩

end Entries

/-! ### Transactions -/

/-- The move a call makes when it returns. -/
def callMove (env : ContractEnv) (w : State) : Call → Move Address
  | .user (.depositGateCredits depositor amount) => .deposit depositor amount
  | .user (.withdrawGateCredits depositor) => .withdraw depositor (requestedAmount w depositor)
  | .user (.queryRiskGatePrepaid consumer _ _ _) => .charge consumer (gateFeeDue env w consumer)
  | .admins _ (.withdrawGateCreditRevenue _ amount) => .collect amount
  | _ => .rest

def creditMove (w : State) (tx : Transaction) : Move Address :=
  if Returns exec w tx then callMove tx.env w tx.call else .rest

/-- The saturating additions of the call are exact. -/
def exactCredits (env : ContractEnv) (w : State) : Call → Bool
  | .user (.depositGateCredits depositor amount) =>
    satAddI128 ((creditBook w.ledger).holding depositor) amount ==
        (creditBook w.ledger).holding depositor + amount &&
      satAddI128 (creditBook w.ledger).liability amount ==
        (creditBook w.ledger).liability + amount
  | .user (.queryRiskGatePrepaid consumer _ _ _) =>
    satAddI128 (creditBook w.ledger).revenue (gateFeeDue env w consumer) ==
      (creditBook w.ledger).revenue + gateFeeDue env w consumer
  | _ => true

structure CreditsSound (w : State) : Prop where
  book : (creditBook w.ledger).Sound
  requests : RequestsPositive w

section Steps

variable {env : ContractEnv} {w w' : State} {u : Unit}

theorem movesBook_rest (same : SameBook w w') : MovesBook .rest w w' := ⟨trivial, same⟩

theorem execUser_book {call : UserCall} (sound : CreditsSound w)
    (isExact : exactCredits env w (.user call) = true)
    (ran : execUser call env w = .ok u w') : MovesBook (callMove env w (.user call)) w w' := by
  cases call
  case depositGateCredits depositor amount =>
    obtain ⟨balance, _, deposited, ⟨⟩⟩ := bind_ok.mp ran
    simp only [exactCredits, Bool.and_eq_true, beq_iff_eq] at isExact
    exact depositGateCredits_book isExact.1 isExact.2 deposited
  case withdrawGateCredits depositor =>
    obtain ⟨amount, _, withdrawn, ⟨⟩⟩ := bind_ok.mp ran
    exact (withdrawGateCredits_book sound.book sound.requests withdrawn).1
  case queryRiskGatePrepaid consumer wallet pair gateThreshold =>
    obtain ⟨_, _, queried, ⟨⟩⟩ := bind_ok.mp ran
    exact queryRiskGatePrepaid_book sound.book (fun _ => beq_iff_eq.mp isExact) queried
  all_goals
    exact movesBook_rest
      (About.of_all (show (userFootprint _).all _ = true from rfl) ((execUser_keeps _).ok ran))

theorem execAdmins_book {signers : List Address} {call : AdminCall}
    (ran : execAdmins signers call env w = .ok u w') :
    MovesBook (callMove env w (.admins signers call)) w w' := by
  cases call
  case withdrawGateCreditRevenue recipient amount => exact withdrawGateCreditRevenue_book ran
  all_goals
    exact movesBook_rest
      (About.of_all (show (_ :: adminFootprint _).all _ = true from rfl)
        ((execAdmins_keeps signers _).ok ran))

theorem execSoleAdmin_book {call : SoleAdminCall}
    (ran : execSoleAdmin call env w = .ok u w') :
    MovesBook (callMove env w (.soleAdmin call)) w w' :=
  movesBook_rest (About.of_all (by cases call <;> rfl) ((execSoleAdmin_keeps call).ok ran))

theorem exec_book {call : Call} (sound : CreditsSound w) (isExact : exactCredits env w call = true)
    (ran : exec call env w = .ok u w') : MovesBook (callMove env w call) w w' :=
  match call with
  | .user _ => execUser_book sound isExact ran
  | .admins _ _ => execAdmins_book ran
  | .soleAdmin _ => execSoleAdmin_book ran

/-- Requests are only ever made for positive amounts. -/
theorem exec_requests {call : Call} (sound : CreditsSound w)
    (ran : exec call env w = .ok u w') : RequestsPositive w' := by
  have unchanged (free : (footprint call).all (fun t => !t.isCreditRequest) = true) :
      RequestsPositive w' :=
    sound.requests.of_same (About.of_all free ((exec_keeps call).ok ran))
  rcases call with call | ⟨signers, call⟩ | call
  · cases call
    case withdrawGateCreditsRequest depositor amount =>
      obtain ⟨_, _, requested, ⟨⟩⟩ := bind_ok.mp ran
      exact withdrawGateCreditsRequest_positive sound.requests requested
    case withdrawGateCredits depositor =>
      obtain ⟨_, _, withdrawn, ⟨⟩⟩ := bind_ok.mp ran
      exact (withdrawGateCredits_book sound.book sound.requests withdrawn).2
    all_goals exact unchanged rfl
  · exact unchanged (by cases call <;> rfl)
  · exact unchanged (by cases call <;> rfl)

end Steps

theorem step_book {w : State} {tx : Transaction} (sound : CreditsSound w)
    (isExact : exactCredits tx.env w tx.call = true) :
    MovesBook (creditMove w tx) w (step exec w tx) := by
  unfold creditMove
  by_cases returns : Returns exec w tx
  · rw [if_pos returns]
    obtain ⟨covered, book⟩ :=
      exec_book (w := { w with authorized := [] }) ⟨sound.book, sound.requests⟩ isExact returns.ok
    exact ⟨covered, book⟩
  · rw [if_neg returns, step_of_not_returns returns]
    exact movesBook_rest rfl

theorem step_creditsSound {w : State} {tx : Transaction} (sound : CreditsSound w)
    (isExact : exactCredits tx.env w tx.call = true) : CreditsSound (step exec w tx) := by
  obtain ⟨covered, book⟩ := step_book sound isExact
  refine ⟨book ▸ sound.book.after covered, ?_⟩
  by_cases returns : Returns exec w tx
  · exact exec_requests (w := { w with authorized := [] }) ⟨sound.book, sound.requests⟩ returns.ok
  · rw [step_of_not_returns returns]
    exact sound.requests

/-! ### Runs -/

/-- Every fresh contract owes nothing and has earned nothing. -/
theorem genesis_creditsSound (balance : Balances) : CreditsSound (genesis balance) where
  book := by
    refine ⟨fun _ => le_rfl, ?_, le_rfl⟩
    exact (Finset.sum_eq_zero fun _ _ => rfl).symm
  requests := by
    intro depositor request asked
    cases asked

/-- What the book looks like after a run, in terms of the moves made in it. -/
structure CreditsConserved (start : State) (txs : List Transaction) : Prop where
  balance_nonneg : ∀ depositor, 0 ≤ (creditBook (run exec start txs).ledger).holding depositor
  liability_eq_sum : (creditBook (run exec start txs).ledger).liability =
    ∑ depositor, (creditBook (run exec start txs).ledger).holding depositor
  revenue_eq : (creditBook (run exec start txs).ledger).revenue =
    ((trace exec creditMove start txs).map Move.charged).sum -
      ((trace exec creditMove start txs).map Move.collected).sum
  total_eq : (creditBook (run exec start txs).ledger).liability +
      (creditBook (run exec start txs).ledger).revenue =
    ((trace exec creditMove start txs).map Move.deposited).sum -
      (((trace exec creditMove start txs).map Move.withdrawn).sum +
        ((trace exec creditMove start txs).map Move.collected).sum)
  /-- Whatever is taken from the total owed was owed. -/
  unclamped : Along exec (fun w tx =>
    (creditMove w tx).withdrawn + (creditMove w tx).charged ≤ (creditBook w.ledger).liability)
      start txs

/-- In every run of the contract in which no addition of the credit accounts
saturates, the accounts add up. -/
theorem gate_credits_conserved (balance : Balances) (txs : List Transaction)
    (isExact : Along exec (fun w tx => exactCredits tx.env w tx.call = true)
      (genesis balance) txs) : CreditsConserved (genesis balance) txs := by
  have start := genesis_creditsSound balance
  have sound : CreditsSound (run exec (genesis balance) txs) :=
    run_invariant (fun _ _ sound isExact => step_creditsSound sound isExact) start isExact
  have book : creditBook (run exec (genesis balance) txs).ledger =
      (trace exec creditMove (genesis balance) txs).foldl Book.after
        (creditBook (genesis balance).ledger) :=
    run_simulates (fun w => creditBook w.ledger) Book.after creditMove
      (fun _ _ sound isExact => step_creditsSound sound isExact)
      (fun _ _ sound isExact => (step_book sound isExact).book) start isExact
  have liability := Book.liability_foldl (trace exec creditMove (genesis balance) txs)
    (creditBook (genesis balance).ledger)
  have revenue := Book.revenue_foldl (trace exec creditMove (genesis balance) txs)
    (creditBook (genesis balance).ledger)
  have nothingOwed : (creditBook (genesis balance).ledger).liability = 0 := rfl
  have nothingEarned : (creditBook (genesis balance).ledger).revenue = 0 := rfl
  rw [← book] at liability revenue
  exact {
    balance_nonneg := sound.book.holding_nonneg
    liability_eq_sum := sound.book.liability_eq
    revenue_eq := by omega
    total_eq := by omega
    unclamped := Along.of_invariant (fun _ _ sound isExact => step_creditsSound sound isExact)
      (fun _ _ sound isExact => sound.book.drawn_le (step_book sound isExact).covered)
        start isExact }

/-- Account 3 deposits 100, pays 5 for a query and takes 60 out again; the
administrators collect the 5. -/
def sampleCredits : List Transaction :=
  [.admins [] (.setGateCreditToken (account 9)), .admins [] (.setFeeTierSchedule [⟨0, 5⟩]),
    .user (.depositGateCredits (account 3) 100),
    .user (.queryRiskGatePrepaid (account 3) (account 4) samplePair 50),
    .user (.withdrawGateCreditsRequest (account 3) 60), .user (.withdrawGateCredits (account 3)),
    .admins [] (.withdrawGateCreditRevenue (account 1) 5)].map
      fun call => ⟨sampleEnv [account 1, account 3], call⟩

def sampleFunds : Balances := fun _ holder => if holder = account 3 then 1000 else 0

def sampleCreditRun : List Transaction :=
  initSample :: sampleCredits

theorem gate_credits_conserved_sample :
    Along exec (fun w tx => exactCredits tx.env w tx.call = true) (genesis sampleFunds)
        sampleCreditRun ∧
      (creditBook (run exec (genesis sampleFunds) sampleCreditRun).ledger).holding (account 3) =
        35 ∧
      CreditsConserved (genesis sampleFunds) sampleCreditRun := by
  have isExact : Along exec (fun w tx => exactCredits tx.env w tx.call = true)
      (genesis sampleFunds) sampleCreditRun := by decide +kernel
  exact ⟨isExact, by decide +kernel, gate_credits_conserved sampleFunds sampleCreditRun isExact⟩

end LedgerLens
