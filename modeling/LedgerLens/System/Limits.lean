import LedgerLens.Host.Limiter
import LedgerLens.System.Journal

/-!
The limits on the scores of an entry over whole runs: the score floor, the velocity
cap and the token bucket. Each is checked by the direct write and by plain batches;
the commit of a parked score checks none of them, and an attested batch not the floor. The main
results are `floor_kept`, `velocity_kept` and `token_bucket_bound`.
-/

namespace LedgerLens

open Host Host.Prog Storage Posting

/-- The score a service's own write stores. -/
def Posting.served : Posting → Option (Entry × Nat)
  | .direct entry score | .batched entry score | .attested entry score =>
    some (entry, score.score)
  | .committed entry pending => some (entry, pending.score)
  | _ => none

/-! ### The score floor -/

section Floor

/-- A score stored by a service's own write, under the floor policy in force. -/
structure Stored where
  entry : Entry
  score : Nat
  floor : ScoreFloorPolicy
  deriving DecidableEq

def Record.stored (record : Record) : Option Stored :=
  record.posting.served.map fun served => ⟨served.1, served.2, record.rules.floor⟩

/-- No score below the floor `f` is stored for an entry that a score of at least `h` was
stored for before, as long as that is the policy in force. -/
def FloorKept (h f : Nat) (stores : List Stored) : Prop :=
  stores.Pairwise fun earlier later =>
    earlier.entry = later.entry → later.floor = ⟨true, h, f⟩ → h ≤ earlier.score → f ≤ later.score

instance (h f : Nat) (stores : List Stored) : Decidable (FloorKept h f stores) :=
  inferInstanceAs (Decidable (List.Pairwise _ _))

variable (h f : Nat)

/-- A score that is stored without regard to the floor: it raises no entry to the
high-water mark, and does not drop below the floor where one has been raised to it. -/
def ScoreBook.Unraised (book : ScoreBook) (rules : Rules) (entry : Entry)
    (score : Nat) : Prop :=
  (h ≤ score → h ≤ book.peak entry) ∧
    (rules.floor = ⟨true, h, f⟩ → h ≤ book.peak entry → f ≤ score)

def Record.RespectsFloor (record : Record) : Prop :=
  match record.posting with
  | .attested entry score => record.book.Unraised h f record.rules entry score.score
  | .committed entry pending => record.book.Unraised h f record.rules entry pending.score
  | .floorLifted _ => False
  | _ => True

variable {h f}

theorem Record.RespectsFloor.peak_le {record : Record} (respects : record.RespectsFloor h f)
    (entry : Entry) : record.book.peak entry ≤ record.after.peak entry := by
  rcases record with ⟨rules, now, book, posting⟩
  have raised (own : Entry) (score : Nat) :
      book.peak entry ≤ Function.update book.peak own (max (book.peak own) score) entry := by
    rw [Function.update_apply]
    split
    · next same => exact same ▸ le_max_left ..
    · exact le_rfl
  cases posting with
  | direct own score | batched own score => exact raised own score.score
  | floorLifted own => exact respects.elim
  | _ => exact le_rfl

theorem floorKept_of_chronicle {book : ScoreBook} {journal : List Record}
    (chronicle : Chronicle book journal)
    (respects : ∀ record ∈ journal, record.RespectsFloor h f) :
    FloorKept h f (journal.filterMap Record.stored) := by
  refine List.pairwise_filterMap.mpr ?_
  -- a score of at least `h` is remembered by the historical maximum
  refine chronicle.pairwise (J := fun record book => ∀ stored, record.stored = some stored →
    h ≤ stored.score → h ≤ book.peak stored.entry) respects ?_ ?_ ?_
  · rintro ⟨rules, now, book, posting⟩ _ respects stored isStored reached
    cases posting with
    | direct entry score | batched entry score =>
      cases isStored
      refine reached.trans ?_
      change _ ≤ Function.update book.peak entry (max (book.peak entry) score.score) entry
      rw [Function.update_self]
      exact le_max_right ..
    | attested entry score | committed entry pending =>
      cases isStored
      exact respects.1 reached
    | _ => cases isStored
  · intro record other respects remembered _ stored isStored reached
    exact (remembered stored isStored reached).trans (respects.peak_le stored.entry)
  · rintro record ⟨rules, now, book, posting⟩ respects remembered allowed earlier isEarlier later
      isLater same policy reached
    have raised := same ▸ remembered earlier isEarlier reached
    cases posting with
    | direct entry score =>
      cases isLater
      have floor := allowed.1.floor
      rw [ScoreBook.AboveFloor, show rules.floor = _ from policy] at floor
      exact floor rfl raised
    | batched entry score =>
      cases isLater
      have floor := allowed.2.2.2.1
      rw [ScoreBook.AboveFloor, show rules.floor = _ from policy] at floor
      exact floor rfl raised
    | attested entry score | committed entry pending =>
      cases isLater
      exact respects.2 policy raised
    | _ => cases isLater

variable (h f) in
/-- An attested batch and the commit of a parked score store no score that the floor
bears on, and the floor is not lifted. -/
def RespectsFloor (w : State) (tx : Transaction) : Prop :=
  match tx.call with
  | .user (.submitScoresBatchAttested _ subs _) =>
    ∀ sub ∈ subs, (scoreBook w.ledger).Unraised h f (rulesOf w.ledger)
      (sub.submission.wallet, sub.submission.assetPair) sub.submission.score
  | .user (.commitPendingScore wallet pair) =>
    ∀ pending ∈ (scoreBook w.ledger).parked (wallet, pair),
      (scoreBook w.ledger).Unraised h f (rulesOf w.ledger) (wallet, pair) pending.score
  | .admins _ (.overrideScoreFloor _ _) => False
  | _ => True

/-- No posting of the call moves a historical maximum. -/
theorem peak_of_mem_journalOf {w : State} {tx : Transaction} {record : Record}
    (listed : record ∈ journalOf w tx)
    (calm : ∀ posting, Posts w tx.call posting → ∀ rules now book,
      (posting.apply rules now book).peak = book.peak) :
    record.book.peak = (scoreBook w.ledger).peak :=
  book_of_mem_journalOf (I := fun book => book.peak = _) listed rfl
    fun posting posts book same => (calm posting posts _ _ book).trans same

theorem RespectsFloor.records {w : State} {tx : Transaction} (respects : RespectsFloor h f w tx) :
    ∀ record ∈ journalOf w tx, record.RespectsFloor h f := by
  rintro ⟨rules, now, book, posting⟩ listed
  rcases tx with ⟨env, call⟩
  obtain ⟨rfl, _, posts⟩ := of_mem_journalOf listed
  dsimp only at posts
  cases posts with
  | @attested _ _ _ sub isSub =>
    have peak : book.peak = (scoreBook w.ledger).peak := by
      refine peak_of_mem_journalOf listed fun posting posts rules now book => ?_
      cases posts with
      | direct lands => cases lands
      | _ => rfl
    have unraised := respects sub isSub
    unfold ScoreBook.Unraised at unraised
    rwa [← peak] at unraised
  | @committed wallet pair pending waiting =>
    have peak : book.peak = (scoreBook w.ledger).peak := by
      refine peak_of_mem_journalOf listed fun posting posts rules now book => ?_
      cases posts with
      | direct lands => cases lands
      | _ => rfl
    have unraised := respects pending waiting
    unfold ScoreBook.Unraised at unraised
    rwa [← peak] at unraised
  | floorLifted => exact respects
  | _ => trivial

/-- The floor is kept in every run in which only direct writes and plain batches bear on
it. -/
theorem floor_kept (h f : Nat) (balance : Balances) (txs : List Transaction)
    (respects : Along exec (RespectsFloor h f) (genesis balance) txs) :
    FloorKept h f ((journal (genesis balance) txs).filterMap Record.stored) :=
  floorKept_of_chronicle (journal_chronicle _ _)
    (forall_mem_journal (respects.mono fun _ _ respects => respects.records))

instance (w : State) (tx : Transaction) : Decidable (RespectsFloor h f w tx) := by
  unfold RespectsFloor ScoreBook.Unraised
  split <;> infer_instance

def sampleAfter (signers : List Address) (secs : Nat)
    (inRange : decide (1000000 + secs < 2 ^ 64) = true := by exact Eq.refl true) : ContractEnv :=
  { sampleEnv signers with timestamp := 1000000 + secs, timestamp_lt := of_decide_eq_true inRange }

/-- Under a floor of 50 from 80 on, 90, 60 and 40 are submitted; the last is rejected. -/
def sampleFloor : List Transaction :=
  [initSample, adminSample (.setScoreFloorPolicy true 80 50), submitSample (account 3) 90,
   ⟨sampleAfter [account 2] 7200,
    .user (.submitScoresBatch [sampleSubmission (account 3) 60])⟩,
   ⟨sampleAfter [account 2] 14400,
    .user (.submitScore [] (sampleSubmission (account 3) 40) none)⟩]

theorem floor_kept_sample : Along exec (RespectsFloor 80 50) blank sampleFloor ∧
      (journal blank sampleFloor).filterMap Record.stored =
        [⟨(account 3, samplePair), 90, ⟨true, 80, 50⟩⟩,
         ⟨(account 3, samplePair), 60, ⟨true, 80, 50⟩⟩] ∧
      FloorKept 80 50 ((journal blank sampleFloor).filterMap Record.stored) :=
  ⟨by decide +kernel, by decide +kernel, floor_kept 80 50 _ _ (by decide +kernel)⟩

/-- Under the same floor 90 is parked and committed, then 10 is submitted. -/
def sampleFloorCommit : List Transaction :=
  [initSample, adminSample (.setScoreFloorPolicy true 80 50), adminSample (.setFinalityBuffer 60),
   submitSample (account 3) 90,
   ⟨sampleAfter [] 60, .user (.commitPendingScore (account 3) samplePair)⟩,
   ⟨sampleAfter [account 1] 60, .admins [] (.setFinalityBuffer 0)⟩, ⟨sampleAfter [account 2] 7200,
    .user (.submitScore [] (sampleSubmission (account 3) 10) none)⟩]

/-- The commit leaves no mark that the floor is measured by. -/
theorem floor_passed_after_commit :
    ¬ FloorKept 80 50
      ((journal blank sampleFloorCommit).filterMap Record.stored) := by
  have stores : (journal blank sampleFloorCommit).filterMap Record.stored =
      [⟨(account 3, samplePair), 90, ⟨true, 80, 50⟩⟩,
       ⟨(account 3, samplePair), 10, ⟨true, 80, 50⟩⟩] := by
    decide +kernel
  rw [stores]
  decide

end Floor

/-! ### The velocity cap -/

section Velocity

/-- A change of the live score of an entry: the new score, none when it is erased,
whether a service's own write made it, when, and under which cap. -/
structure Change where
  score : Option Nat
  served : Bool
  time : Nat
  cap : ScoreVelocityCap
  deriving DecidableEq

/-- The change a record makes to an entry. -/
def Record.change (entry : Entry) (record : Record) : Option Change :=
  record.posting.written.bind fun written =>
    if written.1 = entry then
      some ⟨written.2.map RiskScore.score, record.posting.served.isSome, record.now,
        record.rules.cap⟩
    else none

theorem Record.of_change {entry : Entry} {record : Record} {change : Change}
    (changed : record.change entry = some change) :
    ∃ live, record.posting.written = some (entry, live) ∧
      change = ⟨live.map RiskScore.score, record.posting.served.isSome, record.now,
        record.rules.cap⟩ := by
  obtain ⟨⟨own, live⟩, isWritten, isChange⟩ := Option.bind_eq_some_iff.mp changed
  obtain ⟨same, isChange⟩ := Option.ite_none_right_eq_some.mp isChange
  exact ⟨live, same ▸ isWritten, (Option.some.inj isChange).symm⟩

/-- Two changes by the service, one after the other, are no further apart than the cap
allows for the time between them. -/
def WithinVelocity (first second : Change) : Prop :=
  first.served = true → second.served = true → first.time < second.time →
    second.cap.enabled = true → ∀ old ∈ first.score, ∀ new ∈ second.score,
      absDiff new old ≤ max 1 (second.cap.pointsPerHour * (second.time - first.time) / 3600)

instance (first second : Change) : Decidable (WithinVelocity first second) :=
  inferInstanceAs (Decidable (_ → _ → _ → _ → _))

/-- The consecutive changes of each entry keep to the cap. -/
def VelocityKept (journal : List Record) : Prop :=
  ∀ entry, (journal.filterMap (Record.change entry)).IsChain WithinVelocity

/-- What a write needs for the check of the cap to see the change before it: a standing
mark of the last submission, where a score is live. -/
def ScoreBook.Marked (book : ScoreBook) (now : Nat) (entry : Entry) : Prop :=
  (book.live entry).isSome = true → book.lastSubmit entry ≠ 0 ∨ now = 0

def Record.RespectsCap (record : Record) : Prop :=
  match record.posting with
  | .direct entry _ | .batched entry _ | .attested entry _ =>
    record.book.Marked record.now entry
  | .committed .. | .capLifted _ => False
  | _ => True

variable {entry : Entry}

/-- What the book remembers of the last change of an entry. -/
def Remembers (entry : Entry) (last : Option Change) (book : ScoreBook) : Prop :=
  (∀ entry, book.overridden entry = false) ∧
    ∀ change ∈ last, change.served = true →
      change.score = book.previous entry ∧
        (book.lastSubmit entry = 0 ∨ change.time ≤ book.lastSubmit entry)

/-- The time a posting leaves as that of the last submission. -/
def Posting.stamped (now : Nat) : Posting → Option (Entry × Nat)
  | .direct entry _ | .batched entry _ | .attested entry _ | .parked entry _ => some (entry, now)
  | .limitLifted entry => some (entry, 0)
  | _ => none

theorem Posting.lastSubmit_apply (rules : Rules) (now : Nat) (book : ScoreBook)
    (posting : Posting) :
    (posting.apply rules now book).lastSubmit =
      (posting.stamped now).elim book.lastSubmit fun stamp =>
        Function.update book.lastSubmit stamp.1 stamp.2 := by
  cases posting <;> rfl

theorem useOverride_unset {book : ScoreBook} (rules : Rules) (own : Entry)
    (unset : ∀ entry, book.overridden entry = false) (entry : Entry) :
    (book.useOverride rules own).overridden entry = false := by
  rw [ScoreBook.useOverride_of_unset (unset own)]
  exact unset entry

theorem Record.RespectsCap.unset {record : Record} (respects : record.RespectsCap)
    (unset : ∀ entry, record.book.overridden entry = false) (entry : Entry) :
    record.after.overridden entry = false := by
  rcases record with ⟨rules, now, book, posting⟩
  cases posting with
  | direct own score =>
    exact @useOverride_unset (book.spend rules now own) rules own unset entry
  | batched own score | attested own score => exact useOverride_unset rules own unset entry
  | capLifted own => exact respects.elim
  | _ => exact unset entry

/-- A change the check of the cap has let through. -/
theorem velocity_le {cap : ScoreVelocityCap} {now lastSubmit previous new time : Nat}
    (passed : velocityExceeded cap now lastSubmit previous new = false) (marked : lastSubmit ≠ 0)
    (since : time ≤ lastSubmit) :
    absDiff new previous ≤ max 1 (cap.pointsPerHour * (now - time) / 3600) := by
  simp only [velocityExceeded, marked, ne_eq, not_false_eq_true, decide_true, Bool.true_and,
    decide_eq_false_iff_not, not_lt] at passed
  refine passed.trans (max_le_max le_rfl (Nat.div_le_div_right ?_))
  calc satMul64 cap.pointsPerHour (now - lastSubmit)
      ≤ cap.pointsPerHour * (now - lastSubmit) := min_le_left ..
    _ ≤ cap.pointsPerHour * (now - time) := Nat.mul_le_mul_left _ (by omega)

/-- A record that does not change the entry keeps what is remembered of it. -/
theorem Remembers.unchanged {last : Option Change} {record : Record}
    (remembers : Remembers entry last record.book) (respects : record.RespectsCap)
    (later : ∀ change ∈ last, change.time ≤ record.now) (same : record.change entry = none) :
    Remembers entry last record.after := by
  refine ⟨respects.unset remembers.1, fun change isLast served => ?_⟩
  obtain ⟨score, time⟩ := remembers.2 change isLast served
  constructor
  · rw [score, ScoreBook.previous, ScoreBook.previous, Record.after, Posting.live_apply]
    unfold Record.change at same
    cases written : record.posting.written with
    | none => rfl
    | some own =>
      rw [written, Option.bind_some] at same
      have other : entry ≠ own.1 := by
        rintro rfl
        simp at same
      rw [Option.elim_some, Function.update_of_ne other]
  · rw [Record.after, Posting.lastSubmit_apply]
    cases stamped : record.posting.stamped record.now with
    | none => exact time
    | some stamp =>
      rw [Option.elim_some, Function.update_apply]
      split
      · -- the new mark is the time of the record, or none
        have := later change isLast
        unfold Posting.stamped at stamped
        split at stamped <;> cases stamped <;> simp [this]
      · exact time

/-- A service's own write to the entry: the check it passed, and the mark it leaves. -/
theorem Record.of_served {record : Record} (allowed : record.Allowed)
    (respects : record.RespectsCap) {change : Change} (changed : record.change entry = some change)
    (served : change.served = true) :
    change.time = record.now ∧ change.cap = record.rules.cap ∧
      record.after.lastSubmit entry = record.now ∧ record.book.Marked record.now entry ∧
      ∀ new ∈ change.score, record.book.WithinCap record.rules record.now entry new := by
  rcases record with ⟨rules, now, book, posting⟩
  obtain ⟨live, isWritten, rfl⟩ := Record.of_change changed
  cases posting with
  | direct own score =>
    cases isWritten
    refine ⟨rfl, rfl, Function.update_self .., respects, ?_⟩
    rintro _ ⟨⟩
    exact allowed.1.cap
  | batched own score | attested own score =>
    cases isWritten
    refine ⟨rfl, rfl, Function.update_self .., respects, ?_⟩
    rintro _ ⟨⟩
    exact allowed.2.2.1
  | committed own pending => exact respects.elim
  | _ => cases served

/-- A record that changes the entry keeps to the cap, and is remembered from then on. -/
theorem Remembers.changed {last : Option Change} {record : Record} {change : Change}
    (remembers : Remembers entry last record.book) (allowed : record.Allowed)
    (respects : record.RespectsCap) (changed : record.change entry = some change) :
    (∀ before ∈ last, WithinVelocity before change) ∧
      Remembers entry (some change) record.after := by
  constructor
  · intro before isLast servedBefore served earlier enabled old isOld new isNew
    obtain ⟨time, cap, _, marked, passed⟩ := Record.of_served allowed respects changed served
    obtain ⟨score, since⟩ := remembers.2 before isLast servedBefore
    rw [time] at earlier
    rw [time, cap]
    rw [cap] at enabled
    have previous : record.book.previous entry = some old := score ▸ isOld
    have live : (record.book.live entry).isSome = true := by
      obtain ⟨risk, isLive, _⟩ := Option.map_eq_some_iff.mp previous
      rw [isLive]
      rfl
    have isMarked : record.book.lastSubmit entry ≠ 0 := (marked live).resolve_right (by omega)
    exact velocity_le (passed new isNew old previous enabled (remembers.1 entry)) isMarked
      (since.resolve_left isMarked)
  · refine ⟨respects.unset remembers.1, ?_⟩
    rintro _ ⟨⟩ served
    obtain ⟨time, _, stamped, _⟩ := Record.of_served allowed respects changed served
    refine ⟨?_, .inr (time.trans stamped.symm).le⟩
    obtain ⟨live, isWritten, rfl⟩ := Record.of_change changed
    rw [ScoreBook.previous, Record.after, Posting.live_apply, isWritten, Option.elim_some,
      Function.update_self]

/-- The changes of an entry keep to the cap, from what is remembered of the last one on. -/
theorem Chronicle.isChain {book : ScoreBook} {journal : List Record} {last : Option Change}
    (chronicle : Chronicle book journal) (remembers : Remembers entry last book)
    (respects : ∀ record ∈ journal, record.RespectsCap)
    (later : ∀ change ∈ last, ∀ record ∈ journal, change.time ≤ record.now)
    (sorted : journal.Pairwise fun earlier later => earlier.now ≤ later.now) :
    (last.toList ++ journal.filterMap (Record.change entry)).IsChain WithinVelocity := by
  induction chronicle generalizing last with
  | nil book => cases last <;> simp
  | @cons record rest allowed chronicle ih =>
    have isFirst := respects record List.mem_cons_self
    have rest_respects : ∀ other ∈ rest, other.RespectsCap := fun other listed =>
      respects other (List.mem_cons_of_mem _ listed)
    obtain ⟨first, sorted⟩ := List.pairwise_cons.mp sorted
    cases changed : record.change entry with
    | none =>
      rw [List.filterMap_cons_none changed]
      exact ih (remembers.unchanged isFirst
        (fun change isLast => later change isLast record List.mem_cons_self) changed)
        rest_respects
        (fun change isLast other listed =>
          later change isLast other (List.mem_cons_of_mem _ listed)) sorted
    | some change =>
      rw [List.filterMap_cons_some changed]
      obtain ⟨within, remembered⟩ := remembers.changed allowed isFirst changed
      have time : change.time = record.now := by
        obtain ⟨_, _, rfl⟩ := Record.of_change changed
        rfl
      have chain := ih remembered rest_respects
        (fun _ isChange other listed => Option.mem_some.mp isChange ▸ time ▸ first other listed)
        sorted
      cases last with
      | none => exact chain
      | some before => exact .cons_cons (within before rfl) chain

/-- Writes find a mark of the last submission where a score is live, nothing parked is
committed and the cap is not lifted. -/
def RespectsCap (w : State) (tx : Transaction) : Prop :=
  match tx.call with
  | .user (.commitPendingScore _ _) | .admins _ (.overrideScoreVelocityCap _ _) =>
    ¬ Returns exec w tx
  | call => ∀ entry ∈ call.submits w, ((scoreBook w.ledger).live entry).isSome = true →
      (scoreBook w.ledger).lastSubmit entry ≠ 0

theorem ScoreBook.Marked.stamp {book after : ScoreBook} {now : Nat} {own : Entry}
    (marked : book.Marked now entry)
    (live : ∀ other, other ≠ own → after.live other = book.live other)
    (stamped : after.lastSubmit = Function.update book.lastSubmit own now) :
    after.Marked now entry := by
  intro isLive
  rw [stamped]
  by_cases same : entry = own
  · rw [same, Function.update_self]
    exact (Nat.eq_zero_or_pos now).symm.imp_left Nat.pos_iff_ne_zero.mp
  · rw [Function.update_of_ne same]
    rw [live entry same] at isLive
    exact marked isLive

theorem returns_of_mem_journalOf {w : State} {tx : Transaction} {record : Record}
    (listed : record ∈ journalOf w tx) : Returns exec w tx := by
  obtain ⟨_, _, isPosting, _⟩ :=
    mem_records (I := fun _ => True) trivial (fun _ _ _ _ => trivial) listed
  by_contra idle
  rw [postings, if_neg idle] at isPosting
  exact List.not_mem_nil isPosting

theorem RespectsCap.records {w : State} {tx : Transaction} (respects : RespectsCap w tx) :
    ∀ record ∈ journalOf w tx, record.RespectsCap := by
  rintro ⟨rules, now, book, posting⟩ listed
  rcases tx with ⟨env, call⟩
  obtain ⟨rfl, rfl, posts⟩ := of_mem_journalOf listed
  have returns := returns_of_mem_journalOf listed
  dsimp only at posts
  have allowed : (∀ wallet pair, call ≠ .user (.commitPendingScore wallet pair)) ∧
      (∀ signers wallet pair,
        call ≠ .admins signers (.overrideScoreVelocityCap wallet pair)) ∧
      ∀ entry ∈ call.submits w, (scoreBook w.ledger).Marked env.timestamp entry := by
    unfold RespectsCap at respects
    dsimp only at respects
    split at respects
    · exact absurd returns respects
    · exact absurd returns respects
    · next notCommit notLift =>
      exact ⟨notCommit, notLift, fun entry submitted live => .inl (respects entry submitted live)⟩
  obtain ⟨notCommit, notLift, marked⟩ := allowed
  -- all writes of the call are made at one time, so each leaves its entry marked
  have marked : ∀ entry ∈ call.submits w, book.Marked env.timestamp entry := by
    refine book_of_mem_journalOf (I := fun book => ∀ entry ∈ call.submits w,
      book.Marked env.timestamp entry) listed marked ?_
    intro posting posts book allMarked entry submitted
    have isMarked := allMarked entry submitted
    dsimp only at posts ⊢
    cases posts with
    | direct | batched | attested =>
      exact isMarked.stamp (fun other isOther => Function.update_of_ne isOther ..) rfl
    | parked => exact isMarked.stamp (fun _ _ => rfl) rfl
    | committed => exact absurd rfl (notCommit _ _)
    | cancelled idle | corrected idle | infected idle | cleared idle | historyCleared idle
    | limitLifted idle => exact absurd submitted (idle ▸ List.not_mem_nil)
    | capLifted | floorLifted => exact absurd submitted List.not_mem_nil
  cases posts with
  | direct lands => exact marked _ (mem_submits_of_lands lands)
  | batched isSub => exact marked _ (List.mem_map.mpr ⟨_, isSub, rfl⟩)
  | attested isSub => exact marked _ (List.mem_map.mpr ⟨_, isSub, rfl⟩)
  | committed => exact absurd rfl (notCommit _ _)
  | capLifted => exact absurd rfl (notLift _ _ _)
  | _ => trivial

/-- The velocity cap is kept in every run whose steps respect it. -/
theorem velocity_kept (balance : Balances) (txs : List Transaction)
    (chronological : Chronological txs) (respects : Along exec RespectsCap (genesis balance) txs) :
    VelocityKept (journal (genesis balance) txs) := by
  intro entry
  have unmarked : Remembers entry none (scoreBook (genesis balance).ledger) :=
    ⟨fun _ => rfl, nofun⟩
  exact (journal_chronicle _ _).isChain unmarked
    (forall_mem_journal (respects.mono fun _ _ respects => respects.records)) nofun
    (pairwise_now_journal chronological)

instance (w : State) (tx : Transaction) : Decidable (RespectsCap w tx) := by
  unfold RespectsCap
  split <;> infer_instance

/-- Under a cap of 10 points per hour, 20 is followed by 40 after two hours. -/
def sampleVelocity : List Transaction :=
  [initSample, adminSample (.setScoreVelocityCap true 10), submitSample (account 3) 20,
   ⟨sampleAfter [account 2] 7200,
    .user (.submitScoresBatch [sampleSubmission (account 3) 40])⟩]

theorem velocity_kept_sample :
    Chronological sampleVelocity ∧
      Along exec RespectsCap blank sampleVelocity ∧
      (journal blank sampleVelocity).filterMap
          (Record.change (account 3, samplePair)) =
        [⟨some 20, true, 1000000, ⟨true, 10⟩⟩, ⟨some 40, true, 1007200, ⟨true, 10⟩⟩] ∧
      VelocityKept (journal blank sampleVelocity) :=
  ⟨by decide, by decide +kernel, by decide +kernel,
    velocity_kept _ _ (by decide) (by decide +kernel)⟩

/-- Under the same cap 20 is followed by 90 after a second, past a cooldown that was
overridden. -/
def sampleVelocityOverride : List Transaction :=
  [initSample, adminSample (.setScoreVelocityCap true 10), submitSample (account 3) 20,
   adminSample (.overrideRateLimit (account 3) samplePair []), ⟨sampleAfter [account 2] 1,
    .user (.submitScore [] (sampleSubmission (account 3) 90) none)⟩]

/-- To override the cooldown is to override the cap. -/
theorem velocity_passed_after_override : ¬ VelocityKept (journal blank sampleVelocityOverride) := by
  intro kept
  have changes : (journal blank sampleVelocityOverride).filterMap
        (Record.change (account 3, samplePair)) =
      [⟨some 20, true, 1000000, ⟨true, 10⟩⟩, ⟨some 90, true, 1000001, ⟨true, 10⟩⟩] := by
    decide +kernel
  have chain := kept (account 3, samplePair)
  rw [changes, List.isChain_pair] at chain
  exact absurd chain (by decide)

end Velocity

/-! ### The token bucket -/

section Tokens

/-- The time of a write to the entry that went through the rate limiter. -/
def Record.draw (entry : Entry) (record : Record) : Option Nat :=
  match record.posting with
  | .direct own _ => if own = entry then some record.now else none
  | _ => none

theorem Record.now_of_draw {entry : Entry} {record : Record} {time : Nat}
    (drew : record.draw entry = some time) : record.now = time := by
  unfold Record.draw at drew
  split at drew
  · exact Option.some.inj (Option.ite_none_right_eq_some.mp drew).2
  · cases drew

/-- The limiter of the entry has capacity `c` and gains a token every `d` seconds. -/
def Record.Metered (c d : Nat) (entry : Entry) (record : Record) : Prop :=
  record.now < u64Bound ∧ ∀ score, record.posting = .direct entry score →
    record.rules.capacity = c ∧ record.book.cooldownOf record.rules entry = d

def TokenBucket.toBucket (bucket : TokenBucket) : Bucket := ⟨bucket.tokens, bucket.lastRefill⟩

/-- The bucket of an entry, if one is kept. -/
def ScoreBook.meter (book : ScoreBook) (entry : Entry) : Option Bucket :=
  (book.bucket entry).map TokenBucket.toBucket

variable {c d : Nat} {entry : Entry}

theorem ScoreBook.bucket_spend (book : ScoreBook) (rules : Rules) (now : Nat)
    (own : Entry) :
    (book.spend rules now own).bucket =
      if rules.capacity > 1 then Function.update book.bucket own (some (book.spent rules now own))
      else book.bucket := rfl

/-- A write that draws no token from the entry's bucket leaves it. -/
theorem Record.meter_after {record : Record} (undrawn : record.draw entry = none) :
    record.after.meter entry = record.book.meter entry := by
  rcases record with ⟨rules, now, book, posting⟩
  cases posting with
  | direct own score =>
    have other : entry ≠ own := by
      rintro rfl
      simp [Record.draw] at undrawn
    change ((book.spend rules now own).bucket entry).map _ = _
    rw [ScoreBook.bucket_spend]
    split
    · rw [Function.update_of_ne other]
      rfl
    · rfl
  | _ => rfl

section Draw

variable {book : ScoreBook} {rules : Rules} {now : Nat}

/-- The tokens left over are less than what there was, and than the capacity. -/
theorem ScoreBook.spent_tokens (some_left : book.tokens rules now entry ≠ 0) :
    (book.spent rules now entry).tokens + 1 ≤ (book.bucketAt rules now entry).tokens +
        book.refills rules now entry ∧
      (book.spent rules now entry).tokens + 1 ≤ rules.capacity := by
  have left : (book.spent rules now entry).tokens = book.tokens rules now entry - 1 := rfl
  have gained : book.tokens rules now entry ≤ (book.bucketAt rules now entry).tokens +
      book.refills rules now entry :=
    (min_le_left _ _).trans (min_le_left _ _)
  have capped : book.tokens rules now entry ≤ rules.capacity := min_le_right _ _
  omega

/-- The last refill moves by whole cooldowns. -/
theorem ScoreBook.spent_lastRefill (inRange : now < u64Bound)
    (begun : (book.bucketAt rules now entry).lastRefill ≤ now) :
    (book.spent rules now entry).lastRefill = (book.bucketAt rules now entry).lastRefill +
      book.refills rules now entry * book.cooldownOf rules entry := by
  have passed : book.refills rules now entry * book.cooldownOf rules entry ≤
      now - (book.bucketAt rules now entry).lastRefill := Nat.div_mul_le_self ..
  unfold ScoreBook.spent
  dsimp only
  split
  · have whole : satMul64 (book.refills rules now entry) (book.cooldownOf rules entry) =
        book.refills rules now entry * book.cooldownOf rules entry :=
      min_eq_left (by omega)
    rw [whole]
    exact min_eq_left (by omega)
  · next none =>
    rw [Nat.eq_zero_of_not_pos none, Nat.zero_mul, Nat.add_zero]

end Draw

/-- A write through the limiter is a draw. -/
theorem Record.drawn {record : Record} {time : Nat} (burst : 1 < c)
    (metered : record.Metered c d entry) (allowed : record.Allowed)
    (drew : record.draw entry = some time)
    (begun : ∀ bucket ∈ record.book.meter entry, bucket.lastRefill ≤ time) :
    ∃ next : Bucket, record.after.meter entry = some next ∧ next.tokens < c ∧
      next.lastRefill ≤ time ∧ ∀ times, Drawn c d (some next) times →
        Drawn c d (record.book.meter entry) (time :: times) := by
  rcases record with ⟨rules, now, book, posting⟩
  cases posting with
  | direct own score =>
    obtain ⟨rfl, ⟨⟩⟩ := Option.ite_none_right_eq_some.mp drew
    obtain ⟨rfl, cooldown⟩ := metered.2 score rfl
    dsimp only at burst cooldown begun
    have some_left : book.tokens rules now own ≠ 0 := by
      have limit := allowed.1.limit
      unfold ScoreBook.WithinLimit at limit
      rwa [if_pos burst] at limit
    obtain ⟨gained, capped⟩ := ScoreBook.spent_tokens some_left
    refine ⟨(book.spent rules now own).toBucket, ?_, capped, ?_⟩
    · change ((book.spend rules now own).bucket own).map _ = _
      rw [ScoreBook.bucket_spend, if_pos burst, Function.update_self]
      rfl
    · unfold ScoreBook.meter at begun ⊢
      change (book.spent rules now own).lastRefill ≤ now ∧ _
      cases kept : book.bucket own with
      | none =>
        have isNew : book.bucketAt rules now own = ⟨rules.capacity, now⟩ := by
          rw [ScoreBook.bucketAt, kept, Option.getD_none]
        have refill : (book.spent rules now own).lastRefill = _ :=
          ScoreBook.spent_lastRefill metered.1 (by rw [isNew])
        rw [ScoreBook.refills, isNew, Nat.sub_self, Nat.zero_div, Nat.zero_mul,
          Nat.add_zero] at refill
        exact ⟨refill.le, fun times later => .first capped refill later⟩
      | some bucket =>
        have isKept : book.bucketAt rules now own = bucket := by
          rw [ScoreBook.bucketAt, kept, Option.getD_some]
        have started : bucket.lastRefill ≤ now := begun bucket.toBucket (by rw [kept]; rfl)
        have refill : (book.spent rules now own).lastRefill = _ :=
          ScoreBook.spent_lastRefill metered.1 (isKept ▸ started)
        unfold ScoreBook.refills at refill gained
        rw [isKept, cooldown] at refill gained
        have moved : bucket.toBucket.lastRefill + bucket.toBucket.gained d now * d ≤ now :=
          Bucket.add_gained_le started
        exact ⟨refill ▸ moved, fun times later => .draw gained capped refill later⟩
  | _ => cases drew

/-- The writes through the limiter are draws, and a bucket always holds less than the
capacity, refilled at the latest now. -/
theorem Chronicle.drawn {book : ScoreBook} {journal : List Record} (burst : 1 < c) (now : Nat)
    (chronicle : Chronicle book journal) (metered : ∀ record ∈ journal, record.Metered c d entry)
    (sorted : journal.Pairwise fun earlier later => earlier.now ≤ later.now)
    (past : ∀ record ∈ journal, record.now ≤ now)
    (begun : ∀ bucket ∈ book.meter entry, bucket.tokens < c ∧ bucket.lastRefill ≤ now ∧
      ∀ record ∈ journal, bucket.lastRefill ≤ record.now) :
    Drawn c d (book.meter entry) (journal.filterMap (Record.draw entry)) ∧
      ∀ bucket ∈ (closing book journal).meter entry, bucket.tokens < c ∧
        bucket.lastRefill ≤ now := by
  induction chronicle with
  | nil book => exact ⟨.done _, fun bucket kept => ⟨(begun bucket kept).1, (begun bucket kept).2.1⟩⟩
  | @cons record rest allowed chronicle ih =>
    obtain ⟨first, sorted⟩ := List.pairwise_cons.mp sorted
    have ih := ih (fun other listed => metered other (List.mem_cons_of_mem _ listed)) sorted
      fun other listed => past other (List.mem_cons_of_mem _ listed)
    cases drew : record.draw entry with
    | none =>
      have same := Record.meter_after drew
      rw [List.filterMap_cons_none drew, ← same]
      refine ih fun bucket kept => ?_
      obtain ⟨below, le, before⟩ := begun bucket (same ▸ kept)
      exact ⟨below, le, fun other listed => before other (List.mem_cons_of_mem _ listed)⟩
    | some time =>
      cases Record.now_of_draw drew
      obtain ⟨next, isNext, below, le, draws⟩ := Record.drawn burst
        (metered record List.mem_cons_self) allowed drew
        fun bucket kept => (begun bucket kept).2.2 record List.mem_cons_self
      rw [List.filterMap_cons_some drew]
      obtain ⟨later, closed⟩ := ih fun bucket kept => by
        cases isNext ▸ kept
        exact ⟨below, le.trans (past record List.mem_cons_self),
          fun other listed => le.trans (first other listed)⟩
      exact ⟨draws _ (isNext ▸ later), closed⟩

/-- Whenever a call writes the entry through the limiter, the burst capacity is `c` and
the effective cooldown of the pair is `d`. -/
def Metered (c d : Nat) (entry : Entry) (w : State) (tx : Transaction) : Prop :=
  tx.call.lands w = some entry → (rulesOf w.ledger).capacity = c ∧
    (scoreBook w.ledger).cooldownOf (rulesOf w.ledger) entry = d

instance (w : State) (tx : Transaction) : Decidable (Metered c d entry w tx) :=
  inferInstanceAs (Decidable (_ → _))

theorem Metered.records {w : State} {tx : Transaction} (metered : Metered c d entry w tx) :
    ∀ record ∈ journalOf w tx, record.Metered c d entry := by
  intro record listed
  obtain ⟨sameRules, sameTime, posts⟩ := of_mem_journalOf listed
  refine ⟨sameTime ▸ tx.env.timestamp_lt, fun score direct => ?_⟩
  rw [direct] at posts
  generalize isCall : tx.call = call at posts
  cases posts with
  | direct lands =>
    rw [← isCall] at lands
    rw [sameRules, book_of_lands lands listed]
    exact metered lands

/-- With burst capacity `c` and effective cooldown `d`, no stretch of time sees more
writes of an entry through the limiter than the capacity, one for every cooldown in it
and one more. A bucket holds less than the capacity, and was last refilled in the past. -/
theorem token_bucket_bound (c d : Nat) (burst : 1 < c) (positive : 0 < d)
    (entry : Entry) (balance : Balances) (txs : List Transaction)
    (chronological : Chronological txs)
    (metered : Along exec (Metered c d entry) (genesis balance) txs) :
    (∀ start length, ((journal (genesis balance) txs).filterMap (Record.draw entry)).countP
        (fun now => start ≤ now ∧ now ≤ start + length) ≤ c + length / d + 1) ∧
      ∀ now, (∀ tx ∈ txs, tx.env.timestamp ≤ now) →
        ∀ bucket ∈ (scoreBook (run exec (genesis balance) txs).ledger).bucket entry,
          bucket.tokens < c ∧ bucket.lastRefill ≤ now := by
  have metered : ∀ record ∈ journal (genesis balance) txs, record.Metered c d entry :=
    forall_mem_journal (metered.mono fun _ _ metered => metered.records)
  have sorted := pairwise_now_journal (w := genesis balance) chronological
  have chronicle := journal_chronicle (genesis balance) txs
  constructor
  · intro start length
    have bounded : ∀ record ∈ journal (genesis balance) txs, record.now ≤ u64Bound :=
      fun record listed => (metered record listed).1.le
    have drawn := (chronicle.drawn burst u64Bound metered sorted bounded nofun).1
    refine drawn.countP_within_le positive ?_ nofun start length
    refine List.pairwise_filterMap.mpr (sorted.imp ?_)
    intro earlier later le first drewFirst second drewSecond
    rwa [Record.now_of_draw drewFirst, Record.now_of_draw drewSecond] at le
  · intro now past bucket kept
    have bounded : ∀ record ∈ journal (genesis balance) txs, record.now ≤ now := by
      intro record listed
      obtain ⟨tx, isTx, time⟩ := exists_of_mem_journal listed
      exact time ▸ past tx isTx
    have closed := (chronicle.drawn burst now metered sorted bounded nofun).2
    rw [← scoreBook_run] at closed
    exact closed bucket.toBucket (Option.mem_map.mpr ⟨bucket, kept, rfl⟩)

/-- With room for two, 20 and 30 are submitted at once, 40 an hour later. -/
def sampleBurst : List Transaction :=
  [initSample, soleSample (.setBurstCapacity 2), submitSample (account 3) 20,
   submitSample (account 3) 30, ⟨sampleAfter [account 2] 3600,
    .user (.submitScore [] (sampleSubmission (account 3) 40) none)⟩]

theorem token_bucket_bound_sample :
    Chronological sampleBurst ∧
      Along exec (Metered 2 3600 (account 3, samplePair)) blank sampleBurst ∧
      (journal blank sampleBurst).filterMap
        (Record.draw (account 3, samplePair)) = [1000000, 1000000, 1003600] ∧
      ((journal blank sampleBurst).filterMap
        (Record.draw (account 3, samplePair))).countP
          (fun now => 1000000 ≤ now ∧ now ≤ 1000000 + 3600) ≤ 2 + 3600 / 3600 + 1 :=
  ⟨by decide, by decide +kernel, by decide +kernel,
    (token_bucket_bound 2 3600 (by decide) (by decide) _ _ _ (by decide) (by decide +kernel)).1
      1000000 3600⟩

end Tokens

end LedgerLens
