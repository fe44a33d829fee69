import LedgerLens.System.Rent

/-!
How long score entries really live. The host gives a new entry a minimal lifetime
and `extend_ttl` a longer one, if less than a threshold is left. A score is
written without a renewal while its entry was touched recently; but the write is
itself recorded as a touch, and what is left is estimated from that. The main result is
`estimates_conservative_iff`.
-/

namespace LedgerLens

open Host Host.Prog Storage

/-! ### The host's lifetimes -/

/-- `extend_ttl`: the ledger until which an entry lives afterwards. -/
def extendTtl (threshold extendTo sequence liveUntil : Nat) : Nat :=
  if liveUntil - sequence < threshold then sequence + extendTo else liveUntil

/-- `extend_persistent_ttl`. -/
def extendPersistentTtl (sequence liveUntil : Nat) : Nat :=
  extendTtl scoreTtlThreshold scoreTtlExtendTo sequence liveUntil

/-- The contract, and the ledger until which each score entry lives. -/
structure Rented where
  world : State
  liveUntil : Entry → Nat

namespace Rented

variable (minimal : Nat) (r : Rented) (sequence : Nat) (entry : Entry)

abbrev tracked : Tracking := tracking r.world.ledger

/-- Until when the entry lives once it is written: an entry that was not there
gets the minimal lifetime. -/
def writtenUntil : Nat :=
  if r.tracked.live entry then r.liveUntil entry else sequence + minimal

/-- `set_score` renews entries that were never touched, or not for long. -/
def needsExtend : Bool :=
  (r.tracked.touched entry).elim true fun last => sequence - last ≥ scoreTtlThreshold

/-- The lifetimes after a call. -/
def lifetimes : RentCall → Entry → Nat
  | .setScore wallet pair _ =>
    let written := r.writtenUntil minimal sequence (wallet, pair)
    Function.update r.liveUntil (wallet, pair)
      (if r.needsExtend sequence (wallet, pair) then extendPersistentTtl sequence written
      else written)
  | .extendScoreEntryTtl wallet pair =>
    if r.tracked.live (wallet, pair) then
      Function.update r.liveUntil (wallet, pair)
        (extendPersistentTtl sequence (r.liveUntil (wallet, pair)))
    else r.liveUntil
  | .clearScore _ _ => r.liveUntil

def step (tx : Tx External RentCall) : Rented where
  world := Host.step execRent r.world tx
  liveUntil := r.lifetimes minimal tx.env.sequence tx.call

def run (txs : List (Tx External RentCall)) : Rented := txs.foldl (step minimal) r

/-- A write does not outrun the lifetime of its entry: the entry is renewed, or
has the threshold left as it is. -/
def keepsPace (tx : Tx External RentCall) : Bool :=
  match tx.call with
  | .setScore wallet pair _ =>
    r.needsExtend tx.env.sequence (wallet, pair) ||
      decide (scoreTtlThreshold ≤
        r.writtenUntil minimal tx.env.sequence (wallet, pair) - tx.env.sequence)
  | _ => true

def KeepsPace (r : Rented) : List (Tx External RentCall) → Prop
  | [] => True
  | tx :: rest => r.keepsPace minimal tx = true ∧ KeepsPace (r.step minimal tx) rest

end Rented

/-! ### Estimates -/

/-- No score entry is estimated to live longer than it does. -/
def Conservative (env : ContractEnv) (r : Rented) : Prop :=
  ∀ wallet pair estimate, (liveScore r.world wallet pair).isSome = true →
    (estimateEntryTtl wallet pair env r.world).value? = some (some estimate) →
      estimate ≤ r.liveUntil (wallet, pair) - env.sequence

/-- At every ledger of the run: after any of the calls, and before the next. -/
def AlwaysConservative (minimal : Nat) (r : Rented) (txs : List (Tx External RentCall)) : Prop :=
  ∀ before after env, txs = before ++ after →
    (ledgers before ++ env.sequence :: ledgers after).Pairwise (· ≤ ·) →
      Conservative env (r.run minimal before)

/-- Every live entry that was touched lives for the threshold from then on. -/
def Rented.Paced (now : Nat) (r : Rented) : Prop :=
  ∀ entry last, r.tracked.live entry = true → r.tracked.touched entry = some last →
    last ≤ now ∧ last + scoreTtlThreshold ≤ r.liveUntil entry

section Estimates

variable {minimal : Nat} {r : Rented}

theorem estimateEntryTtl_value (env : ContractEnv) (w : State) (entry : Entry) :
    (estimateEntryTtl entry.1 entry.2 env w).value? =
      some (((tracking w.ledger).touched entry).map
        fun last => scoreTtlThreshold - (env.sequence - last)) := by
  unfold estimateEntryTtl
  rw [run_bind_of_ok (ledgersSinceTouch_run env w entry), Option.map_map]
  rfl

theorem conservative_iff {env : ContractEnv} :
    Conservative env r ↔
      ∀ entry last, r.tracked.live entry = true → r.tracked.touched entry = some last →
        scoreTtlThreshold - (env.sequence - last) ≤ r.liveUntil entry - env.sequence := by
  constructor
  · intro conservative entry last live touched
    refine conservative entry.1 entry.2 _ live ?_
    rw [estimateEntryTtl_value, touched]
    rfl
  · intro bound wallet pair estimate live estimated
    rw [estimateEntryTtl_value env r.world (wallet, pair), Option.some.injEq,
      Option.map_eq_some_iff] at estimated
    obtain ⟨last, touched, rfl⟩ := estimated
    exact bound (wallet, pair) last live touched

theorem Rented.Paced.conservative {env : ContractEnv} (paced : r.Paced env.sequence) :
    Conservative env r := by
  rw [conservative_iff]
  intro entry last live touched
  obtain ⟨le, lives⟩ := paced entry last live touched
  omega

/-- A renewal leaves at least the threshold. -/
theorem extendPersistentTtl_ge (sequence liveUntil : Nat) :
    sequence + scoreTtlThreshold ≤ extendPersistentTtl sequence liveUntil := by
  unfold extendPersistentTtl extendTtl scoreTtlThreshold scoreTtlExtendTo
  split <;> omega

theorem tracked_step (minimal : Nat) (r : Rented) (tx : Tx External RentCall) :
    (r.step minimal tx).tracked = r.tracked.after tx.env.sequence tx.call :=
  step_tracking r.world tx

/-- Changing the lifetime and the touch of one entry. -/
theorem Rented.Paced.touch {r' : Rented} {now sequence liveUntil : Nat} {entry : Entry}
    (paced : r.Paced now) (le : now ≤ sequence) (lives : sequence + scoreTtlThreshold ≤ liveUntil)
    (live : ∀ other, other ≠ entry → r'.tracked.live other = r.tracked.live other)
    (touched : r'.tracked.touched = Function.update r.tracked.touched entry (some sequence))
    (until_ : r'.liveUntil = Function.update r.liveUntil entry liveUntil) : r'.Paced sequence := by
  intro other last isLive isLast
  rw [until_]
  obtain rfl | isOther := eq_or_ne other entry
  · rw [touched, Function.update_self, Option.some.injEq] at isLast
    rw [Function.update_self]
    omega
  · rw [touched, Function.update_of_ne isOther] at isLast
    rw [live other isOther] at isLive
    rw [Function.update_of_ne isOther]
    obtain ⟨before, lives⟩ := paced other last isLive isLast
    exact ⟨before.trans le, lives⟩

theorem Rented.Paced.step {now : Nat} {tx : Tx External RentCall} (paced : r.Paced now)
    (le : now ≤ tx.env.sequence) (pace : r.keepsPace minimal tx = true) :
    (r.step minimal tx).Paced tx.env.sequence := by
  obtain ⟨env, call⟩ := tx
  have after := tracked_step minimal r ⟨env, call⟩
  cases call with
  | setScore wallet pair score =>
    refine paced.touch le ?_ (fun other isOther => ?_) ?_ rfl
    · split
      · exact extendPersistentTtl_ge ..
      · next young =>
        have left : scoreTtlThreshold ≤
            r.writtenUntil minimal env.sequence (wallet, pair) - env.sequence := by
          simpa [Rented.keepsPace, young] using pace
        dsimp only
        unfold scoreTtlThreshold at *
        omega
    · rw [after]
      exact Function.update_of_ne isOther _ _
    · rw [after]
      rfl
  | extendScoreEntryTtl wallet pair =>
    by_cases live : r.tracked.live (wallet, pair) = true
    · have renewed : r.tracked.renew env.sequence (wallet, pair) =
          r.tracked.touch env.sequence (wallet, pair) := if_pos live
      exact paced.touch le (extendPersistentTtl_ge env.sequence (r.liveUntil (wallet, pair)))
        (fun _ _ => by rw [after, Tracking.after, renewed]; rfl)
        (by rw [after, Tracking.after, renewed]; rfl) (if_pos live)
    · have still : r.tracked.renew env.sequence (wallet, pair) = r.tracked := if_neg live
      have same : (r.step minimal ⟨env, .extendScoreEntryTtl wallet pair⟩).liveUntil =
          r.liveUntil := if_neg live
      intro other last isLive isLast
      rw [after, Tracking.after, still] at isLive isLast
      rw [same]
      obtain ⟨before, lives⟩ := paced other last isLive isLast
      exact ⟨before.trans le, lives⟩
  | clearScore wallet pair =>
    intro other last isLive isLast
    rw [after] at isLive isLast
    obtain rfl | isOther := eq_or_ne other (wallet, pair)
    · cases (Function.update_self ..).symm.trans isLive
    · obtain ⟨before, lives⟩ :=
        paced other last ((Function.update_of_ne isOther _ _).symm.trans isLive) isLast
      exact ⟨before.trans le, lives⟩

/-! ### Runs -/

theorem Rented.run_append (before after : List (Tx External RentCall)) :
    r.run minimal (before ++ after) = (r.run minimal before).run minimal after :=
  List.foldl_append

theorem Rented.keepsPace_iff {txs : List (Tx External RentCall)} :
    r.KeepsPace minimal txs ↔ ∀ before tx after, txs = before ++ tx :: after →
      (r.run minimal before).keepsPace minimal tx = true := by
  induction txs generalizing r with
  | nil => simp [Rented.KeepsPace]
  | cons tx rest ih =>
    rw [Rented.KeepsPace, ih]
    constructor
    · rintro ⟨first, later⟩ before tx' after split
      cases before with
      | nil =>
        cases split
        exact first
      | cons _ before =>
        cases split
        exact later before tx' after rfl
    · intro all
      refine ⟨all [] tx rest rfl, fun before tx' after split => ?_⟩
      exact all (tx :: before) tx' after (by rw [split, List.cons_append])

theorem Rented.Paced.run {now last : Nat} {txs : List (Tx External RentCall)} (paced : r.Paced now)
    (pace : r.KeepsPace minimal txs)
    (ordered : (now :: (ledgers txs ++ [last])).Pairwise (· ≤ ·)) :
    (r.run minimal txs).Paced last := by
  induction txs generalizing r now with
  | nil =>
    have le := (List.pairwise_cons.mp ordered).1 last (by simp)
    intro entry touch isLive isLast
    obtain ⟨before, lives⟩ := paced entry touch isLive isLast
    exact ⟨before.trans le, lives⟩
  | cons tx rest ih =>
    obtain ⟨first, ordered⟩ := List.pairwise_cons.mp ordered
    exact ih (paced.step (first _ (by simp)) pace.1) pace.2 ordered

/-- A write that does not keep pace is overestimated as soon as it is made. -/
theorem keepsPace_of_conservative {tx : Tx External RentCall}
    (conservative : Conservative tx.env (r.step minimal tx)) : r.keepsPace minimal tx = true := by
  obtain ⟨env, call⟩ := tx
  cases call with
  | setScore wallet pair score =>
    have after := tracked_step minimal r ⟨env, .setScore wallet pair score⟩
    have bound := conservative_iff.mp conservative (wallet, pair) env.sequence
      (by rw [after]; exact Function.update_self ..) (by rw [after]; exact Function.update_self ..)
    rw [Rented.keepsPace, Bool.or_eq_true, decide_eq_true_eq]
    by_cases renewed : r.needsExtend env.sequence (wallet, pair) = true
    · exact .inl renewed
    · have kept : (r.step minimal ⟨env, .setScore wallet pair score⟩).liveUntil
          (wallet, pair) = r.writtenUntil minimal env.sequence (wallet, pair) :=
        (Function.update_self ..).trans (if_neg renewed)
      rw [kept, Nat.sub_self, Nat.sub_zero] at bound
      exact .inr bound
  | extendScoreEntryTtl wallet pair => rfl
  | clearScore wallet pair => rfl

end Estimates

/-- The estimates are conservative in the runs whose writes keep pace with the
lifetimes, and in no others. -/
theorem estimates_conservative_iff (minimal : Nat) (balance : Balances)
    (liveUntil : Entry → Nat) (txs : List (Tx External RentCall))
    (ordered : (ledgers txs).Pairwise (· ≤ ·)) :
    AlwaysConservative minimal ⟨genesis balance, liveUntil⟩ txs ↔
      Rented.KeepsPace minimal ⟨genesis balance, liveUntil⟩ txs := by
  constructor
  · intro always
    rw [Rented.keepsPace_iff]
    rintro before tx after rfl
    refine keepsPace_of_conservative ?_
    have conservative := always (before ++ [tx]) after tx.env (by simp) ?_
    · rw [Rented.run_append] at conservative
      exact conservative
    · simp only [ledgers, List.map_append, List.map_cons, List.map_nil, List.append_assoc,
        List.singleton_append] at ordered ⊢
      obtain ⟨earlier, later, between⟩ := List.pairwise_append.mp ordered
      refine List.pairwise_append.mpr ⟨earlier, ?_, ?_⟩
      · refine List.pairwise_cons.mpr ⟨fun s listed => ?_, later⟩
        rcases List.mem_cons.mp listed with rfl | listed
        · exact le_rfl
        · exact (List.pairwise_cons.mp later).1 s listed
      · intro s inBefore s' inAfter
        refine between s inBefore s' ?_
        rcases List.mem_cons.mp inAfter with rfl | inAfter
        · exact List.mem_cons_self
        · exact inAfter
  · rintro pace before after env rfl inOrder
    have start : (⟨genesis balance, liveUntil⟩ : Rented).Paced 0 := nofun
    have earlier : Rented.KeepsPace minimal ⟨genesis balance, liveUntil⟩ before := by
      rw [Rented.keepsPace_iff] at pace ⊢
      rintro first tx rest rfl
      exact pace first tx (rest ++ after) (by simp)
    refine (start.run earlier (List.pairwise_cons.mpr ⟨fun _ _ => Nat.zero_le _, ?_⟩)).conservative
    refine inOrder.sublist (List.Sublist.append_left ?_ _)
    exact (List.nil_sublist _).cons_cons _

/-- An entry is written twice. -/
def sampleRewrites (again : Nat)
    (inRange : decide (again < 2 ^ 32) = true := by exact Eq.refl true) :
    List (Tx External RentCall) :=
  [⟨sampleAt 100, .setScore (account 3) samplePair (correctedRiskScore 40 1)⟩,
    ⟨sampleAt again inRange, .setScore (account 3) samplePair (correctedRiskScore 50 1)⟩]

/-- The contract before any score. -/
def sampleRented : Rented := ⟨blank, fun _ => 0⟩

/-- The second write comes when the first is old enough for a renewal. -/
theorem estimates_conservative_sample :
    (ledgers (sampleRewrites 518500)).Pairwise (· ≤ ·) ∧
      sampleRented.KeepsPace 4096 (sampleRewrites 518500) ∧
      AlwaysConservative 4096 sampleRented (sampleRewrites 518500) := by
  have ordered : (ledgers (sampleRewrites 518500)).Pairwise (· ≤ ·) := by decide
  have pace : sampleRented.KeepsPace 4096 (sampleRewrites 518500) :=
    ⟨by decide +kernel, by decide +kernel, trivial⟩
  exact ⟨ordered, pace, (estimates_conservative_iff 4096 _ _ _ ordered).mpr pace⟩

/-- One ledger earlier, the entry keeps its lifetime, of which 259201 ledgers are
left, and is estimated to live for 518400. -/
theorem estimates_not_conservative_sample :
    (ledgers (sampleRewrites 518499)).Pairwise (· ≤ ·) ∧
      (account 3, samplePair) ∈ (sampleRented.run 4096 (sampleRewrites 518499)).tracked.index ∧
      (estimateEntryTtl (account 3) samplePair (sampleAt 518499)
        (sampleRented.run 4096 (sampleRewrites 518499)).world).value? = some (some 518400) ∧
      (sampleRented.run 4096 (sampleRewrites 518499)).liveUntil (account 3, samplePair) =
        518499 + 259201 ∧
      ¬ AlwaysConservative 4096 sampleRented (sampleRewrites 518499) := by
  have estimate : (estimateEntryTtl (account 3) samplePair (sampleAt 518499)
      (sampleRented.run 4096 (sampleRewrites 518499)).world).value? = some (some 518400) := by
    decide +kernel
  have lives : (sampleRented.run 4096 (sampleRewrites 518499)).liveUntil (account 3, samplePair) =
      518499 + 259201 := by decide +kernel
  refine ⟨by decide, by decide +kernel, estimate, lives, fun always => ?_⟩
  have bound := always (sampleRewrites 518499) [] (sampleAt 518499) (by simp)
    (by decide) (account 3)
    samplePair 518400 (by decide +kernel) estimate
  rw [lives] at bound
  revert bound
  decide

end LedgerLens
