import LedgerLens.Frames
import LedgerLens.Storage.Rent
import LedgerLens.System.Calls

/-!
The index of score entries. Every write and every renewal moves its entry to the
back, so the index is a queue in the order of the last touch, and reading it from
the front finds what a scan of the whole index finds. The main result is `expiring_entries_found`.
-/

namespace LedgerLens

open Host Host.Prog Storage

/-! ### What is tracked -/

/-- The index, the ledgers in which entries were last touched, and which have a
score. -/
structure Tracking where
  index : List Entry
  touched : Entry → Option Nat
  live : Entry → Bool

namespace Tracking

section

variable (t : Tracking) (sequence : Nat) (entry : Entry)

/-- When the entry was last touched, for entries that were. -/
def stamp : Nat := (t.touched entry).getD 0

/-- The index once the entry is moved to its back, or appended if there is room. -/
def reindexed : List Entry :=
  if entry ∈ t.index then t.index.erase entry ++ [entry]
  else if t.index.length ≥ maxTrackedScoreEntries then t.index
  else t.index ++ [entry]

def touch : Tracking :=
  { t with
    index := t.reindexed entry
    touched := Function.update t.touched entry (some sequence) }

/-- A score is written. -/
def write : Tracking :=
  { t.touch sequence entry with live := Function.update t.live entry true }

/-- An entry that has a score is renewed. -/
def renew : Tracking :=
  if t.live entry then t.touch sequence entry else t

/-- The score is removed and the entry forgotten, though not when it was touched. -/
def clear : Tracking :=
  { t with
    index := t.index.erase entry
    live := Function.update t.live entry false }

end

/-- No more entries than there is room for, each with a score and touched not
after `now`, in the order of their touches. -/
structure Sound (now : Nat) (t : Tracking) : Prop where
  queued : Queued t.stamp now t.index
  length_le : t.index.length ≤ maxTrackedScoreEntries
  touched : ∀ entry ∈ t.index, (t.touched entry).isSome = true
  live : ∀ entry ∈ t.index, t.live entry = true

theorem stamp_touch (t : Tracking) (sequence : Nat) (entry : Entry) :
    (t.touch sequence entry).stamp = Function.update t.stamp entry sequence := by
  funext other
  simp only [stamp, touch, Function.update_apply]
  split <;> rfl

theorem mem_reindexed {t : Tracking} {entry other : Entry}
    (listed : other ∈ t.reindexed entry) : other = entry ∨ other ∈ t.index := by
  unfold reindexed at listed
  split at listed
  · rcases List.mem_append.mp listed with old | new
    · exact .inr (List.mem_of_mem_erase old)
    · exact .inl (List.mem_singleton.mp new)
  · split at listed
    · exact .inr listed
    · rcases List.mem_append.mp listed with old | new
      · exact .inr old
      · exact .inl (List.mem_singleton.mp new)

namespace Sound

variable {t : Tracking} {now sequence : Nat} {entry : Entry}

theorem mono (sound : t.Sound now) (le : now ≤ sequence) : t.Sound sequence :=
  ⟨sound.queued.mono le, sound.length_le, sound.touched, sound.live⟩

/-- A touched entry goes to the back if it is tracked or there is room; if not, its
stamp is of no concern to the index. -/
theorem queued_touch (sound : t.Sound now) (le : now ≤ sequence) :
    Queued (t.touch sequence entry).stamp sequence (t.reindexed entry) := by
  rw [stamp_touch]
  unfold reindexed
  split
  · exact sound.queued.toBack le
  · next unlisted =>
    have queued := (sound.queued.restamp unlisted sequence).mono le
    split
    · exact queued
    · exact queued.pushBack unlisted (Function.update_self ..)

theorem length_reindexed (sound : t.Sound now) :
    (t.reindexed entry).length ≤ maxTrackedScoreEntries := by
  unfold reindexed
  split
  · next listed =>
    have := sound.length_le
    have := List.length_pos_of_mem listed
    rw [List.length_append, List.length_erase_of_mem listed, List.length_singleton]
    omega
  · split
    · exact sound.length_le
    · rw [List.length_append, List.length_singleton]
      omega

theorem touch (sound : t.Sound now) (le : now ≤ sequence) (live : t.live entry = true) :
    (t.touch sequence entry).Sound sequence where
  queued := sound.queued_touch le
  length_le := sound.length_reindexed
  touched other listed := by
    change (Function.update t.touched entry (some sequence) other).isSome = true
    rw [Function.update_apply]
    split
    · rfl
    · next isOther => exact sound.touched other ((mem_reindexed listed).resolve_left isOther)
  live other listed := by
    rcases mem_reindexed listed with rfl | old
    · exact live
    · exact sound.live other old

theorem write (sound : t.Sound now) (le : now ≤ sequence) :
    (t.write sequence entry).Sound sequence := by
  have enlivened : Sound now { t with live := Function.update t.live entry true } := by
    refine ⟨sound.queued, sound.length_le, sound.touched, fun other listed => ?_⟩
    dsimp only
    rw [Function.update_apply]
    split
    · rfl
    · exact sound.live other listed
  exact enlivened.touch le (Function.update_self ..)

theorem renew (sound : t.Sound now) (le : now ≤ sequence) :
    (t.renew sequence entry).Sound sequence := by
  unfold Tracking.renew
  split
  · next live => exact sound.touch le live
  · exact sound.mono le

theorem clear (sound : t.Sound now) : (t.clear entry).Sound now where
  queued := sound.queued.erase
  length_le := (List.length_erase_le ..).trans sound.length_le
  touched other listed := sound.touched other (List.mem_of_mem_erase listed)
  live other listed := by
    have isOther : other ≠ entry := by
      rintro rfl
      exact sound.queued.nodup.not_mem_erase listed
    exact (Function.update_of_ne isOther _ _).trans
      (sound.live other (List.mem_of_mem_erase listed))

end Sound

end Tracking

/-- What is tracked, as the ledger records it. -/
def tracking (ledger : Ledger DataKey Val) : Tracking where
  index := (ledger.entry .persistent .scoreEntryIndex).getD []
  touched entry := ledger.entry .persistent (.scoreEntryLastTouchedLedger entry.1 entry.2)
  live entry := (ledger.entry .persistent (.score entry.1 entry.2)).isSome

section Puts

variable (ledger : Ledger DataKey Val) (wallet : Address) (pair : Symbol)

@[simp] theorem tracking_put_index (v : Option (List Entry)) :
    tracking (ledger.put .persistent .scoreEntryIndex v) =
      { tracking ledger with index := v.getD [] } := by
  simp [tracking, Ledger.entry_put_of_ne]

@[simp] theorem tracking_put_touched (v : Option Nat) :
    tracking (ledger.put .persistent (.scoreEntryLastTouchedLedger wallet pair) v) =
      { tracking ledger with
        touched := Function.update (tracking ledger).touched (wallet, pair) v } := by
  unfold tracking
  congr 1
  funext entry
  rw [Function.update_apply]
  split
  · next same => rw [same, Ledger.entry_put_self]
  · next other => exact Ledger.entry_put_of_ne _ _ fun same => other (by cases same; rfl)

@[simp] theorem tracking_put_score (v : Option RiskScore) :
    tracking (ledger.put .persistent (.score wallet pair) v) =
      { tracking ledger with
        live := Function.update (tracking ledger).live (wallet, pair) v.isSome } := by
  unfold tracking
  congr 1
  funext entry
  rw [Function.update_apply]
  split
  · next same => rw [same, Ledger.entry_put_self]
  · next other =>
    rw [Ledger.entry_put_of_ne _ _ fun same => other (by cases same; rfl)]

@[simp] theorem tracking_put_pairs (v : Option (List Symbol)) :
    tracking (ledger.put .persistent (.assetPairs wallet) v) = tracking ledger := by
  simp [tracking, Ledger.entry_put_of_ne]

end Puts

@[reducible] def Tag.isTracking : Tag → Bool
  | .scoreEntryIndex | .scoreEntryLastTouchedLedger | .score => true
  | _ => false

def SameTracking (w w' : State) : Prop := tracking w'.ledger = tracking w.ledger

instance : About SameTracking Tag.isTracking where
  of_only ts w w' free only := by
    have same (d : Durability) (k : DataKey) (isTracking : k.tag.isTracking = true) :
        w'.ledger.entry d k = w.ledger.entry d k :=
      only.entry d k fun listed => by simp [free _ listed] at isTracking
    unfold SameTracking tracking
    simp only [same _ .scoreEntryIndex rfl, same _ (.scoreEntryLastTouchedLedger _ _) rfl,
      same _ (.score _ _) rfl]

/-! ### The calls -/

/-- The functions of the storage layer that change the index. -/
inductive RentCall where
  | setScore (wallet : Address) (pair : Symbol) (score : RiskScore)
  | extendScoreEntryTtl (wallet : Address) (pair : Symbol)
  | clearScore (wallet : Address) (pair : Symbol)

def execRent : RentCall → M Unit
  | .setScore wallet pair score => Storage.setScore wallet pair score
  | .extendScoreEntryTtl wallet pair =>
    dropResult (LedgerLens.extendScoreEntryTtl wallet pair)
  | .clearScore wallet pair => Storage.clearScore wallet pair

/-- What a call does to the tracking. -/
def Tracking.after (t : Tracking) (sequence : Nat) : RentCall → Tracking
  | .setScore wallet pair _ => t.write sequence (wallet, pair)
  | .extendScoreEntryTtl wallet pair => t.renew sequence (wallet, pair)
  | .clearScore wallet pair => t.clear (wallet, pair)

section Calls

variable (env : ContractEnv) (w : State) (wallet : Address) (pair : Symbol)

/-- The index is read as it is tracked. -/
theorem getScoreEntryIndex_run : getScoreEntryIndex env w = .ok (tracking w.ledger).index w := rfl

theorem reindexEntryToBack_tracking (entry : Entry) :
    wp (reindexEntryToBack entry) (fun _ w' => tracking w'.ledger =
      { tracking w.ledger with index := (tracking w.ledger).reindexed entry }) env w := by
  unfold reindexEntryToBack Tracking.reindexed wp
  rw [run_bind_of_ok (getScoreEntryIndex_run env w)]
  split
  · exact ⟨(), _, rfl, tracking_put_index _ _⟩
  · split
    · exact ⟨(), _, rfl, rfl⟩
    · exact ⟨(), _, rfl, tracking_put_index _ _⟩

theorem trackScoreEntry_tracking :
    wp (trackScoreEntry wallet pair) (fun _ w' => tracking w'.ledger =
      (tracking w.ledger).touch env.sequence (wallet, pair)) env w := by
  rw [trackScoreEntry, wp_bind]
  refine wp_mono (fun _ v index => ?_) (reindexEntryToBack_tracking env w (wallet, pair))
  simp [touchScoreEntry, Tracking.touch, index]

theorem setScore_tracking (score : RiskScore) :
    wp (setScore wallet pair score) (fun _ w' => tracking w'.ledger =
      (tracking w.ledger).write env.sequence (wallet, pair)) env w := by
  simp only [setScore, wp_bind, wp_save]
  refine wp_mono (fun _ v touched => ?_) (trackScoreEntry_tracking env _ wallet pair)
  rw [touched, tracking_put_score]
  rfl

theorem extendScoreEntryTtl_tracking :
    wp (extendScoreEntryTtl wallet pair) (fun renewed w' =>
      renewed = (tracking w.ledger).live (wallet, pair) ∧
        tracking w'.ledger = (tracking w.ledger).renew env.sequence (wallet, pair)) env w := by
  simp only [extendScoreEntryTtl, Tracking.renew, wp_bind, wp_load, wp_ite]
  split
  · next absent =>
    have dead : (tracking w.ledger).live (wallet, pair) = false := by
      simpa [tracking] using absent
    simp [dead]
  · next present =>
    have live : (tracking w.ledger).live (wallet, pair) = true := by
      simpa [tracking, Option.isSome_iff_ne_none] using present
    refine wp_mono (fun _ v index => ?_) (reindexEntryToBack_tracking env w (wallet, pair))
    simp [touchScoreEntry, Tracking.touch, index, live]

theorem removeScoreEntry_tracking :
    wp (removeScoreEntry wallet pair) (fun _ w' => tracking w'.ledger =
      { tracking w.ledger with index := (tracking w.ledger).index.erase (wallet, pair) })
      env w := by
  unfold removeScoreEntry wp whenever
  rw [run_bind_of_ok (getScoreEntryIndex_run env w)]
  split
  · dsimp only
    split
    · next emptied =>
      refine ⟨(), _, rfl, ?_⟩
      rw [tracking_put_index, List.isEmpty_iff.mp emptied]
      rfl
    · exact ⟨(), _, rfl, tracking_put_index _ _⟩
  · next unlisted =>
    refine ⟨(), w, rfl, ?_⟩
    rw [List.erase_of_not_mem (by simpa using unlisted)]

theorem removePairForWallet_tracking :
    wp (removePairForWallet wallet pair) (fun _ w' => tracking w'.ledger = tracking w.ledger)
      env w := by
  simp only [removePairForWallet, wp_bind, wp_loadOr, wp_whenever]
  split
  · split <;> simp
  · trivial

theorem clearScore_tracking :
    wp (clearScore wallet pair) (fun _ w' => tracking w'.ledger =
      (tracking w.ledger).clear (wallet, pair)) env w := by
  simp only [clearScore, wp_bind, wp_erase]
  refine wp_mono (fun _ v pairs => ?_) (removePairForWallet_tracking env _ wallet pair)
  refine wp_mono (fun _ v' removed => ?_) (removeScoreEntry_tracking env v wallet pair)
  rw [removed, pairs, tracking_put_score]
  rfl

theorem execRent_tracking (call : RentCall) :
    wp (execRent call) (fun _ w' => tracking w'.ledger =
      (tracking w.ledger).after env.sequence call) env w := by
  cases call with
  | setScore wallet pair score => exact setScore_tracking env w wallet pair score
  | extendScoreEntryTtl wallet pair =>
    exact (wp_bind ..).mpr
      (wp_mono (fun _ _ held => (wp_pure _).mpr held.2) (extendScoreEntryTtl_tracking env w
        wallet pair))
  | clearScore wallet pair => exact clearScore_tracking env w wallet pair

end Calls

/-! ### Runs -/

/-- The ledgers the transactions are in. -/
abbrev ledgers {C : Type} (txs : List (Tx External C)) : List Nat :=
  txs.map fun tx => tx.env.sequence

theorem step_tracking (w : State) (tx : Tx External RentCall) :
    tracking (step execRent w tx).ledger = (tracking w.ledger).after tx.env.sequence tx.call := by
  obtain ⟨_, w', ran, tracked⟩ := execRent_tracking tx.env { w with authorized := [] } tx.call
  rw [step, invoke_of_ok ran, tracked]

theorem Tracking.Sound.after {t : Tracking} {now sequence : Nat} (sound : t.Sound now)
    (le : now ≤ sequence) (call : RentCall) : (t.after sequence call).Sound sequence := by
  cases call with
  | setScore wallet pair score => exact sound.write le
  | extendScoreEntryTtl wallet pair => exact sound.renew le
  | clearScore wallet pair => exact sound.clear.mono le

/-- Whatever the order of the calls, as long as the ledgers go forward. -/
theorem run_tracking_sound {w : State} {now last : Nat} (txs : List (Tx External RentCall))
    (sound : (tracking w.ledger).Sound now)
    (ordered : (now :: (ledgers txs ++ [last])).Pairwise (· ≤ ·)) :
    (tracking (run execRent w txs).ledger).Sound last := by
  induction txs generalizing w now with
  | nil => exact sound.mono ((List.pairwise_cons.mp ordered).1 last (by simp))
  | cons tx rest ih =>
    obtain ⟨first, ordered⟩ := List.pairwise_cons.mp ordered
    rw [run_cons]
    refine ih ?_ ordered
    rw [step_tracking]
    exact sound.after (first _ (by simp)) tx.call

/-! ### Entries that are due -/

namespace Tracking

variable (t : Tracking) (sequence : Nat)

/-- Ledgers since the entry was touched. -/
def age (entry : Entry) : Nat := sequence - t.stamp entry

def isDue (entry : Entry) : Bool :=
  (t.touched entry).elim false fun last => sequence - last ≥ scoreTtlThreshold

variable {t sequence}

theorem isDue_eq_true {entry : Entry} :
    t.isDue sequence entry = true ↔
      ∃ last, t.touched entry = some last ∧ sequence - last ≥ scoreTtlThreshold := by
  unfold isDue
  cases t.touched entry <;> simp

theorem isDue_iff {entry : Entry} (touched : (t.touched entry).isSome = true) :
    t.isDue sequence entry = true ↔ t.age sequence entry ≥ scoreTtlThreshold := by
  obtain ⟨last, isLast⟩ := Option.isSome_iff_exists.mp touched
  simp [isDue, age, stamp, isLast]

/-- The entries in front are at least as old as those behind them. -/
theorem Sound.aged {now : Nat} (sound : t.Sound now) (sequence : Nat) :
    t.index.Pairwise fun a b => t.age sequence b ≤ t.age sequence a :=
  sound.queued.ordered.imp fun le => by
    unfold age
    omega

theorem Sound.due_first {now : Nat} (sound : t.Sound now) (sequence : Nat) :
    t.index.Pairwise fun a b => t.isDue sequence b = true → t.isDue sequence a = true := by
  refine (sound.aged sequence).imp_of_mem fun ha hb le due => ?_
  rw [isDue_iff (sound.touched _ ha)]
  exact ((isDue_iff (sound.touched _ hb)).mp due).trans le

end Tracking

section Due

variable (env : ContractEnv) (w : State)

theorem ledgersSinceTouch_run (entry : Entry) :
    ledgersSinceTouch entry.1 entry.2 env w =
      .ok (((tracking w.ledger).touched entry).map (env.sequence - ·)) w := rfl

theorem scanExpiring_run (capped : Nat) (result index : List Entry) :
    scanExpiring capped result index env w =
      .ok (result ++ (index.takeWhile ((tracking w.ledger).isDue env.sequence)).take
        (capped - result.length)) w := by
  induction index generalizing result with
  | nil => simp [scanExpiring]
  | cons entry rest ih =>
    unfold scanExpiring
    split
    · next full => simp [Nat.sub_eq_zero_of_le full]
    · next room =>
      rw [run_bind_of_ok (ledgersSinceTouch_run env w entry)]
      by_cases due : (tracking w.ledger).isDue env.sequence entry = true
      · obtain ⟨last, isLast, old⟩ := Tracking.isDue_eq_true.mp due
        rw [isLast, List.takeWhile_cons_of_pos due]
        simp only [Option.map_some, if_pos old]
        have left : capped - result.length = capped - (result ++ [entry]).length + 1 := by
          rw [List.length_append, List.length_singleton]
          omega
        rw [ih, List.append_assoc, left, List.take_succ_cons, List.singleton_append]
      · rw [List.takeWhile_cons_of_neg due, List.take_nil, List.append_nil]
        cases isLast : (tracking w.ledger).touched entry with
        | none => rfl
        | some last =>
          have young : ¬ env.sequence - last ≥ scoreTtlThreshold := fun old =>
            due (Tracking.isDue_eq_true.mpr ⟨last, isLast, old⟩)
          simp only [Option.map_some, if_neg young]
          rfl

theorem collectDue_run (due : List (Nat × Entry)) (entry : Entry) :
    collectDue due entry env w =
      .ok (due ++ if (tracking w.ledger).isDue env.sequence entry then
        [((tracking w.ledger).age env.sequence entry, entry)] else []) w := by
  unfold collectDue Tracking.isDue Tracking.age Tracking.stamp
  rw [run_bind_of_ok (ledgersSinceTouch_run env w entry)]
  cases (tracking w.ledger).touched entry with
  | none => simp
  | some last =>
    simp only [Option.map_some, Option.elim_some, Option.getD_some, decide_eq_true_eq]
    split
    · rfl
    · rw [List.append_nil]
      rfl

theorem fold_collectDue_run (due : List (Nat × Entry))
    (index : List Entry) :
    fold collectDue due index env w =
      .ok (due ++ (index.filter ((tracking w.ledger).isDue env.sequence)).map
        fun entry => ((tracking w.ledger).age env.sequence entry, entry)) w := by
  induction index generalizing due with
  | nil => simp [fold]
  | cons entry rest ih =>
    unfold fold
    rw [run_bind_of_ok (collectDue_run env w due entry), ih, List.filter_cons]
    split
    · rw [List.append_assoc, List.map_cons, List.singleton_append]
    · rw [List.append_nil]

theorem getExpiringEntries_run (maxEntries : Nat) :
    getExpiringEntries maxEntries env w =
      .ok (((tracking w.ledger).index.takeWhile ((tracking w.ledger).isDue env.sequence)).take
        (min maxEntries maxExpiringEntriesPerCall)) w :=
  scanExpiring_run env w _ [] _

variable {env w}

/-- Over an index in order, the selection takes the entries as they come. -/
theorem getExpiringEntriesFullScanBaseline_run {now : Nat}
    (sound : (tracking w.ledger).Sound now) (maxEntries : Nat) :
    getExpiringEntriesFullScanBaseline maxEntries env w =
      .ok (((tracking w.ledger).index.filter ((tracking w.ledger).isDue env.sequence)).take
        (min maxEntries maxExpiringEntriesPerCall)) w := by
  unfold getExpiringEntriesFullScanBaseline
  rw [run_bind_of_ok (getScoreEntryIndex_run env w),
    run_bind_of_ok (fold_collectDue_run env w [] _)]
  have ordered : (((tracking w.ledger).index.filter
      ((tracking w.ledger).isDue env.sequence)).map
        fun entry => ((tracking w.ledger).age env.sequence entry, entry)).Pairwise
          fun a b => b.1 ≤ a.1 :=
    List.pairwise_map.mpr ((sound.aged env.sequence).filter _)
  simp only [List.nil_append]
  rw [selectMax_of_ordered ordered, List.map_take, List.map_map]
  refine congrArg (Outcome.ok · w) ?_
  -- What is collected carries the ages; without them it is the entries again.
  have entries : ((tracking w.ledger).index.filter ((tracking w.ledger).isDue env.sequence)).map
      (Prod.snd ∘ fun entry => ((tracking w.ledger).age env.sequence entry, entry)) =
        (tracking w.ledger).index.filter ((tracking w.ledger).isDue env.sequence) :=
    List.map_id _
  rw [entries, List.length_map, List.take_eq_take_iff, Nat.min_assoc, Nat.min_self]

end Due

/-- The index is kept in order, and the scan that stops early finds what the scan
of everything finds. -/
theorem expiring_entries_found (balance : Balances)
    (txs : List (Tx External RentCall)) (env : ContractEnv)
    (ordered : (ledgers txs ++ [env.sequence]).Pairwise (· ≤ ·)) :
    (tracking (run execRent (genesis balance) txs).ledger).Sound env.sequence ∧
      ∀ maxEntries, getExpiringEntries maxEntries env (run execRent (genesis balance) txs) =
        getExpiringEntriesFullScanBaseline maxEntries env
          (run execRent (genesis balance) txs) := by
  have start : (tracking (genesis balance).ledger).Sound 0 :=
    ⟨Queued.nil, Nat.zero_le _, nofun, nofun⟩
  have sound := run_tracking_sound txs start
    (List.pairwise_cons.mpr ⟨fun _ _ => Nat.zero_le _, ordered⟩)
  refine ⟨sound, fun maxEntries => ?_⟩
  rw [getExpiringEntries_run, getExpiringEntriesFullScanBaseline_run sound,
    filter_eq_takeWhile (sound.due_first env.sequence)]

def sampleAt (sequence : Nat)
    (inRange : decide (sequence < 2 ^ 32) = true := by exact Eq.refl true) : ContractEnv :=
  { sampleEnv [] with sequence, sequence_lt := of_decide_eq_true inRange }

/-- Two entries are written, then the first again. -/
def sampleWrites : List (Tx External RentCall) :=
  [⟨sampleAt 100, .setScore (account 3) samplePair (correctedRiskScore 40 1)⟩,
    ⟨sampleAt 101, .setScore (account 4) samplePair (correctedRiskScore 50 1)⟩,
    ⟨sampleAt 102, .setScore (account 3) samplePair (correctedRiskScore 60 1)⟩]

theorem expiring_entries_found_sample :
    (ledgers sampleWrites ++ [518501]).Pairwise (· ≤ ·) ∧
      getExpiringEntries 10 (sampleAt 518501) (run execRent blank sampleWrites) =
        .ok [(account 4, samplePair)] (run execRent blank sampleWrites) ∧
      getExpiringEntries 10 (sampleAt 518501) (run execRent blank sampleWrites) =
        getExpiringEntriesFullScanBaseline 10 (sampleAt 518501)
          (run execRent blank sampleWrites) := by
  have ordered : (ledgers sampleWrites ++ [518501]).Pairwise (· ≤ ·) := by decide
  have found := (expiring_entries_found (fun _ _ => 0) sampleWrites (sampleAt 518501) ordered).2 10
  refine ⟨ordered, ?_, found⟩
  rw [getExpiringEntries_run]
  refine congrArg (Outcome.ok · _) ?_
  decide +kernel

end LedgerLens
