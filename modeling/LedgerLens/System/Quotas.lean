import LedgerLens.Entry.Views
import LedgerLens.Host.Limiter
import LedgerLens.System.Calls

/-!
Read quotas: over any stretch of time a consumer reads no more than its bucket holds and
what the bucket gains meanwhile. The main result is `consumerReadQuota_limits`.
-/

namespace LedgerLens

open Host Host.Prog Storage

/-! ### The bucket of a quota -/

section

variable (quota : ConsumerReadQuota) (time : Nat)

/-- What a read leaves of a quota. -/
def ConsumerReadQuota.take : ConsumerReadQuota :=
  { quota with tokens := refilledConsumerQuotaTokens quota time - 1, lastRefill := time }

theorem refilledConsumerQuotaTokens_le :
    refilledConsumerQuotaTokens quota time ≤ quota.capacity := by
  unfold refilledConsumerQuotaTokens
  split <;> exact Nat.min_le_right _ _

/-- Later there are no more tokens than the rate adds. -/
theorem refilledConsumerQuotaTokens_steady {t t' : Nat} (le : t ≤ t') :
    refilledConsumerQuotaTokens quota t' ≤
      refilledConsumerQuotaTokens quota t + quota.refillRate * (t' - t) := by
  have passed : (t' - quota.lastRefill) * quota.refillRate ≤
      (t - quota.lastRefill) * quota.refillRate + quota.refillRate * (t' - t) := by
    rw [Nat.mul_comm quota.refillRate, ← Nat.add_mul]
    exact Nat.mul_le_mul_right _ (by omega)
  unfold refilledConsumerQuotaTokens satAdd32
  split
  · omega
  · dsimp only
    omega

theorem refilledConsumerQuotaTokens_take (available : 0 < refilledConsumerQuotaTokens quota time) :
    refilledConsumerQuotaTokens (quota.take time) time + 1 ≤
      refilledConsumerQuotaTokens quota time := by
  have kept : refilledConsumerQuotaTokens (quota.take time) time ≤
      refilledConsumerQuotaTokens quota time - 1 := by
    unfold ConsumerReadQuota.take
    generalize refilledConsumerQuotaTokens quota time = tokens
    unfold refilledConsumerQuotaTokens satAdd32
    simp only [Nat.sub_self, Nat.zero_mul]
    split <;> omega
  omega

end

/-- The quotas of one capacity and one rate. -/
abbrev QuotaOf (capacity rate : Nat) : Type :=
  { quota : ConsumerReadQuota // quota.capacity = capacity ∧ quota.refillRate = rate }

def quotaMeter (capacity rate : Nat) : Meter (QuotaOf capacity rate) rate where
  available quota time := refilledConsumerQuotaTokens quota.1 time
  take quota time := ⟨quota.1.take time, quota.2⟩
  steady quota _ _ le := by
    have steady := refilledConsumerQuotaTokens_steady quota.1 le
    rwa [quota.2.2] at steady
  taken quota time available := refilledConsumerQuotaTokens_take quota.1 time available

/-! ### Reads -/

section Reads

variable (consumer : Address) (env : ContractEnv) {capacity rate : Nat}
  {quota : QuotaOf capacity rate} {w : State}

theorem remainingConsumerReadQuota_run
    (stored : w.ledger.entry .persistent (.consumerReadQuota consumer) = some quota.1) :
    remainingConsumerReadQuota consumer env w =
      .ok ((quotaMeter capacity rate).available quota env.timestamp) w := by
  change (w.ledger.entry .persistent (.consumerReadQuota consumer)).elim (pure 0 : M Nat)
    (fun quota => do return refilledConsumerQuotaTokens quota (← now)) env w = _
  rw [stored]
  rfl

theorem consumeConsumerReadQuota_run
    (stored : w.ledger.entry .persistent (.consumerReadQuota consumer) = some quota.1) :
    consumeConsumerReadQuota consumer env w =
      if (quotaMeter capacity rate).available quota env.timestamp = 0 then .ok false w
      else .ok true { w with
        ledger := w.ledger.put .persistent (.consumerReadQuota consumer)
          (some (quota.1.take env.timestamp)) } := by
  unfold consumeConsumerReadQuota
  change ((w.ledger.entry .persistent (.consumerReadQuota consumer)).elim (pure true : M Bool)
    _) env w = _
  rw [stored]
  change (if refilledConsumerQuotaTokens quota.1 env.timestamp = 0 then (pure false : M Bool)
    else (do
      store .persistent (.consumerReadQuota consumer) (quota.1.take env.timestamp)
      return true)) env w = if refilledConsumerQuotaTokens quota.1 env.timestamp = 0 then _ else _
  split <;> rfl

end Reads

/-- A transaction of the given consumer in which a read is taken from its quota. -/
def readExec (consumer : Address) : M Unit := dropResult (consumeConsumerReadQuota consumer)

/-- The read is granted. -/
def Granted (w : State) (tx : Tx External Address) : Prop :=
  (consumeConsumerReadQuota tx.call tx.env { w with authorized := [] }).value? = some true

instance (w : State) (tx : Tx External Address) : Decidable (Granted w tx) := by
  unfold Granted
  infer_instance

/-- The times of the reads a consumer was granted in a run. -/
def grantTimes (consumer : Address) : State → List (Tx External Address) → List Nat
  | _, [] => []
  | w, tx :: rest =>
    (if tx.call = consumer ∧ Granted w tx then [tx.env.timestamp] else []) ++
      grantTimes consumer (step readExec w tx) rest

/-- The times at which a consumer asked. -/
def askTimes (consumer : Address) (txs : List (Tx External Address)) : List Nat :=
  (txs.filter fun tx => tx.call = consumer).map fun tx => tx.env.timestamp

section Runs

variable {consumer : Address} {capacity rate : Nat} {quota : QuotaOf capacity rate} {w : State}

theorem step_readExec_of_ok {tx : Tx External Address} {granted : Bool} {w' : State}
    (ran : consumeConsumerReadQuota tx.call tx.env { w with authorized := [] } =
      .ok granted w') : step readExec w tx = w' :=
  invoke_of_ok (run_bind_of_ok ran)

/-- A call of another consumer leaves the quota alone. -/
theorem step_readExec_other {tx : Tx External Address} (other : tx.call ≠ consumer) :
    (step readExec w tx).ledger.entry .persistent (.consumerReadQuota consumer) =
      w.ledger.entry .persistent (.consumerReadQuota consumer) := by
  cases stored : w.ledger.entry .persistent (.consumerReadQuota tx.call) with
  | none =>
    have ran : consumeConsumerReadQuota tx.call tx.env { w with authorized := [] } =
        .ok true { w with authorized := [] } := by
      unfold consumeConsumerReadQuota
      change ((w.ledger.entry .persistent (.consumerReadQuota tx.call)).elim
        (pure true : M Bool) _) tx.env { w with authorized := [] } = _
      rw [stored]
      rfl
    rw [step_readExec_of_ok ran]
  | some quota =>
    have stored' : ({ w with authorized := [] } : State).ledger.entry .persistent
        (.consumerReadQuota tx.call) =
          some (⟨quota, rfl, rfl⟩ : QuotaOf quota.capacity quota.refillRate).1 := stored
    have ran := consumeConsumerReadQuota_run tx.call tx.env stored'
    split at ran
    · rw [step_readExec_of_ok ran]
    · rw [step_readExec_of_ok ran]
      refine Ledger.entry_put_of_ne _ _ fun same => other ?_
      injection same with same
      exact same.symm

/-- A call of its own is granted when the quota has a token, and moves the quota on. -/
theorem step_readExec_own {tx : Tx External Address} (own : tx.call = consumer)
    (stored : w.ledger.entry .persistent (.consumerReadQuota consumer) = some quota.1) :
    (Granted w tx ↔ (quotaMeter capacity rate).available quota tx.env.timestamp ≠ 0) ∧
      (step readExec w tx).ledger.entry .persistent (.consumerReadQuota consumer) =
        some ((quotaMeter capacity rate).next quota tx.env.timestamp).1 := by
  subst own
  have stored' : ({ w with authorized := [] } : State).ledger.entry .persistent
      (.consumerReadQuota tx.call) = some quota.1 := stored
  have ran := consumeConsumerReadQuota_run tx.call tx.env stored'
  unfold Granted Meter.next
  by_cases empty : (quotaMeter capacity rate).available quota tx.env.timestamp = 0
  · rw [if_pos empty] at ran
    rw [ran, step_readExec_of_ok ran, if_pos empty]
    exact ⟨iff_of_false (by simp [Outcome.value?]) (not_not.mpr empty), stored⟩
  · rw [if_neg empty] at ran
    rw [ran, step_readExec_of_ok ran, if_neg empty]
    exact ⟨iff_of_true rfl empty, Ledger.entry_put_self ..⟩

theorem grantTimes_eq_passes (txs : List (Tx External Address))
    (stored : w.ledger.entry .persistent (.consumerReadQuota consumer) = some quota.1) :
    grantTimes consumer w txs =
      (quotaMeter capacity rate).passes quota (askTimes consumer txs) := by
  induction txs generalizing w quota with
  | nil => rfl
  | cons tx rest ih =>
    rw [grantTimes]
    by_cases asked : tx.call = consumer
    · obtain ⟨granted, moved⟩ := step_readExec_own asked stored
      have ask : askTimes consumer (tx :: rest) =
          tx.env.timestamp :: askTimes consumer rest := by simp [askTimes, asked]
      rw [ask, Meter.passes, ih moved]
      congr 1
      by_cases empty : (quotaMeter capacity rate).available quota tx.env.timestamp = 0
      · rw [if_pos empty, if_neg fun both => granted.mp both.2 empty]
      · rw [if_neg empty, if_pos ⟨asked, granted.mpr empty⟩]
    · have ask : askTimes consumer (tx :: rest) = askTimes consumer rest := by
        simp [askTimes, asked]
      rw [ask, ih ((step_readExec_other asked).trans stored), if_neg fun both =>
        asked both.1, List.nil_append]

/-- The quota of a consumer keeps its capacity and its rate, and holds no more tokens than
its capacity. -/
def HasQuota (consumer : Address) (capacity rate : Nat) (w : State) : Prop :=
  ∃ quota : QuotaOf capacity rate, quota.1.tokens ≤ capacity ∧
    w.ledger.entry .persistent (.consumerReadQuota consumer) = some quota.1

theorem HasQuota.step (metered : HasQuota consumer capacity rate w) (tx : Tx External Address) :
    HasQuota consumer capacity rate (Host.step readExec w tx) := by
  obtain ⟨quota, bounded, stored⟩ := metered
  by_cases own : tx.call = consumer
  · refine ⟨_, ?_, (step_readExec_own own stored).2⟩
    unfold Meter.next
    split
    · exact bounded
    · have filled := refilledConsumerQuotaTokens_le quota.1 tx.env.timestamp
      rw [quota.2.1] at filled
      exact (Nat.sub_le _ 1).trans filled
  · exact ⟨quota, bounded, (step_readExec_other own).trans stored⟩

end Runs

/-- Over any run of reads, of any consumers: in every stretch of time the consumer is granted
no more reads than its capacity and what its rate adds; its tokens stay within the capacity;
and a call is granted exactly when there are tokens left, and changes nothing otherwise. -/
theorem consumerReadQuota_limits (consumer : Address) (capacity rate : Nat) (w : State)
    (metered : HasQuota consumer capacity rate w) (txs : List (Tx External Address)) :
    ((txs.map fun tx => tx.env.timestamp).Pairwise (· ≤ ·) →
      ∀ start length, (grantTimes consumer w txs).countP
        (fun time => start ≤ time ∧ time ≤ start + length) ≤ capacity + rate * length) ∧
    HasQuota consumer capacity rate (run readExec w txs) ∧
    ∀ env, ∃ left,
      remainingConsumerReadQuota consumer env (run readExec w txs) =
        .ok left (run readExec w txs) ∧
      (0 < left → ∃ w', consumeConsumerReadQuota consumer env (run readExec w txs) =
        .ok true w') ∧
      (left = 0 → consumeConsumerReadQuota consumer env (run readExec w txs) =
        .ok false (run readExec w txs)) := by
  have reached : HasQuota consumer capacity rate (run readExec w txs) :=
    run_induction (fun _ tx held => held.step tx) metered
  refine ⟨?_, reached, ?_⟩
  · intro sorted start length
    obtain ⟨quota, _, stored⟩ := metered
    rw [grantTimes_eq_passes txs stored]
    refine Meter.countP_passes_within_le _ ?_ ?_ start length
    · intro quota time
      have filled := refilledConsumerQuotaTokens_le quota.1 time
      rwa [quota.2.1] at filled
    · exact List.Pairwise.sublist (List.Sublist.map _ List.filter_sublist) sorted
  · intro env
    obtain ⟨quota, _, stored⟩ := reached
    have ran := consumeConsumerReadQuota_run consumer env stored
    refine ⟨_, remainingConsumerReadQuota_run consumer env stored, ?_, ?_⟩
    · intro available
      rw [if_neg available.ne'] at ran
      exact ⟨_, ran⟩
    · intro empty
      rwa [if_pos empty] at ran

/-- A quota of two reads that gains one a second, as the administrator sets it. -/
def quotaSet : State :=
  run exec deployed
    [adminSample (.setConsumerReadQuota (account 4) 2 1)]

def readNow : Tx External Address := ⟨sampleEnv [], account 4⟩

def readLater : Tx External Address :=
  ⟨{ sampleEnv [] with timestamp := 1000001, timestamp_lt := by decide }, account 4⟩

/-- Four attempts within a second: three of them pass. -/
theorem consumerReadQuota_limits_quotaSet :
    let txs := [readNow, readNow, readNow, readLater]
    grantTimes (account 4) quotaSet txs = [1000000, 1000000, 1000001] ∧
      (grantTimes (account 4) quotaSet txs).countP
        (fun time => 1000000 ≤ time ∧ time ≤ 1000000 + 1) ≤ 2 + 1 * 1 := by
  have metered : HasQuota (account 4) 2 1 quotaSet :=
    ⟨⟨{ capacity := 2, refillRate := 1, tokens := 2, lastRefill := 1000000 }, rfl, rfl⟩,
      le_rfl, by decide +kernel⟩
  exact ⟨by decide +kernel, (consumerReadQuota_limits (account 4) 2 1 quotaSet metered
    [readNow, readNow, readNow, readLater]).1 (by decide) 1000000 1⟩

end LedgerLens
