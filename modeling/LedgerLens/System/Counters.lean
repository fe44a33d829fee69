import LedgerLens.Host.Counters
import LedgerLens.System.Postings

/-!
The counters of the score book. A pair's counter is the sum over all wallets on
every path. The number of entries ever scored is not always right: most paths
take an entry for new when it has no live score, the commit of a parked score
looks at its count, and a correction counts no entry at all. The main result is `counters_kept`.
-/

namespace LedgerLens

open Host Host.Prog Storage

/-! ### Postings as tallies -/

def ScoreBook.counters (book : ScoreBook) : Counters Address Symbol where
  count := book.count
  columnCount := book.pairCount
  total := book.total

namespace Posting

/-- The entry a posting counts, and whether it takes it to be new. -/
def counted (book : ScoreBook) : Posting → Option (Entry × Bool)
  | .direct entry _ | .batched entry _ | .attested entry _ =>
    some (entry, (book.previous entry).isNone)
  | .committed entry _ => some (entry, book.count entry = 0)
  | .corrected entry _ => some (entry, false)
  | _ => none

theorem counters_apply (rules : Rules) (now : Nat) (book : ScoreBook) (posting : Posting) :
    (posting.apply rules now book).counters =
      (posting.counted book).elim book.counters fun counted =>
        book.counters.tally counted.1 counted.2 := by
  cases posting <;> rfl

/-- The posting takes its entry to be new exactly when it was never counted. -/
def CountsRight (book : ScoreBook) (posting : Posting) : Prop :=
  ∀ entry isNew, posting.counted book = some (entry, isNew) →
    (isNew = true ↔ book.count entry = 0)

variable {rules : Rules} {now : Nat} {book : ScoreBook}

theorem columnsSummed_apply (summed : book.counters.ColumnsSummed) (posting : Posting) :
    (posting.apply rules now book).counters.ColumnsSummed := by
  rw [counters_apply]
  cases posting.counted book with
  | none => exact summed
  | some counted => exact summed.tally counted.2

theorem cellsCounted_apply {posting : Posting} (counted : book.counters.CellsCounted)
    (right : posting.CountsRight book) : (posting.apply rules now book).counters.CellsCounted := by
  rw [counters_apply]
  cases found : posting.counted book with
  | none => exact counted
  | some tallied => exact counted.tally (right _ _ found)

theorem columnsSummed_applyAll (summed : book.counters.ColumnsSummed) (postings : List Posting) :
    (applyAll rules now book postings).counters.ColumnsSummed := by
  induction postings generalizing book with
  | nil => exact summed
  | cons posting rest ih => exact ih (columnsSummed_apply summed posting)

end Posting

open Posting

/-! ### Entries whose count and live score agree -/

/-- The entry has a live score exactly when it was counted. -/
def ScoreBook.Aligned (book : ScoreBook) (entry : Entry) : Prop :=
  (book.live entry).isSome = true ↔ 0 < book.count entry

namespace Posting

/-- What a posting needs to count right: a submission looks at the live score, a
correction takes the entry to be known. -/
def Fits (book : ScoreBook) : Posting → Prop
  | .direct entry _ | .batched entry _ | .attested entry _ => book.Aligned entry
  | .corrected entry _ => 0 < book.count entry
  | _ => True

/-- Postings that leave no live score without a count, and no count without. -/
def steady : Posting → Bool
  | .infected .. | .cleared .. => false
  | _ => true

variable {rules : Rules} {now : Nat} {book : ScoreBook} {posting other : Posting}

theorem countsRight_of_aligned {entry : Entry} (aligned : book.Aligned entry) :
    (book.previous entry).isNone = true ↔ book.count entry = 0 := by
  unfold ScoreBook.Aligned at aligned
  unfold ScoreBook.previous
  cases isLive : book.live entry with
  | none =>
    have uncounted : ¬ 0 < book.count entry := by simpa [isLive] using aligned
    simpa using uncounted
  | some score =>
    have counted : 0 < book.count entry := by simpa [isLive] using aligned
    simpa using Nat.pos_iff_ne_zero.mp counted

theorem Fits.countsRight (fits : posting.Fits book) : posting.CountsRight book := by
  intro entry isNew found
  cases posting with
  | direct own score | batched own score | attested own score =>
    cases found
    exact countsRight_of_aligned fits
  | committed own score =>
    cases found
    exact decide_eq_true_iff
  | corrected own score =>
    cases found
    exact ⟨fun new => absurd new Bool.false_ne_true, fun zero => absurd zero fits.ne'⟩
  | _ => cases found

/-- A counted entry stays counted. -/
theorem count_le_apply (entry : Entry) :
    book.count entry ≤ (posting.apply rules now book).count entry := by
  change book.counters.count entry ≤ (posting.apply rules now book).counters.count entry
  rw [counters_apply]
  cases posting.counted book with
  | none => exact le_rfl
  | some counted =>
    rw [Option.elim_some, Counters.count_tally]
    exact Nat.le_add_right ..

/-- An entry that is written and counted at once is aligned, and no other is touched. -/
theorem aligned_of_counted {after : ScoreBook} {own entry : Entry} {score : RiskScore}
    (live : after.live = Function.update book.live own (some score))
    (count : after.count = Function.update book.count own (book.count own + 1))
    (aligned : book.Aligned entry) : after.Aligned entry := by
  unfold ScoreBook.Aligned at aligned ⊢
  rw [live, count]
  by_cases same : entry = own
  · subst same
    rw [Function.update_self, Function.update_self]
    exact ⟨fun _ => Nat.succ_pos _, fun _ => rfl⟩
  · rwa [Function.update_of_ne same, Function.update_of_ne same]

theorem aligned_apply (isSteady : posting.steady = true) {entry : Entry}
    (aligned : book.Aligned entry) : (posting.apply rules now book).Aligned entry := by
  cases posting with
  | direct own score | batched own score | attested own score | corrected own score =>
    exact aligned_of_counted rfl rfl aligned
  | committed own pending => exact aligned_of_counted rfl rfl aligned
  | infected own score => cases isSteady
  | cleared own => cases isSteady
  | _ => exact aligned

theorem Fits.apply (isSteady : posting.steady = true) (fits : other.Fits book) :
    other.Fits (posting.apply rules now book) := by
  cases other with
  | direct own score | batched own score | attested own score =>
    exact aligned_apply isSteady fits
  | corrected own score => exact fits.trans_le (count_le_apply own)
  | _ => trivial

theorem cellsCounted_applyAll {postings : List Posting} (counted : book.counters.CellsCounted)
    (fits : ∀ posting ∈ postings, posting.Fits book)
    (isSteady : ∀ posting ∈ postings, posting.steady = true) :
    (applyAll rules now book postings).counters.CellsCounted := by
  induction postings generalizing book with
  | nil => exact counted
  | cons posting rest ih =>
    have fit := fits posting List.mem_cons_self
    have first := isSteady posting List.mem_cons_self
    refine ih (cellsCounted_apply counted fit.countsRight) (fun other listed => ?_)
      fun other listed => isSteady other (List.mem_cons_of_mem _ listed)
    exact (fits other (List.mem_cons_of_mem _ listed)).apply first

/-- Postings that count nothing leave the counters. -/
theorem counters_applyAll_of_uncounted {postings : List Posting}
    (uncounted : ∀ posting ∈ postings, ∀ book, posting.counted book = none) :
    (applyAll rules now book postings).counters = book.counters := by
  induction postings generalizing book with
  | nil => rfl
  | cons posting rest ih =>
    refine (ih fun other listed => uncounted other (List.mem_cons_of_mem _ listed)).trans ?_
    rw [counters_apply, uncounted posting List.mem_cons_self book]
    rfl

end Posting

/-! ### Transactions -/

/-- The entries a call submits scores for that become live at once. -/
def Call.submits (w : State) : Call → List Entry
  | .user (.submitScore _ sub _) | .user (.relayAttestedScore _ sub _) =>
    if (rulesOf w.ledger).buffer = 0 then [(sub.wallet, sub.assetPair)] else []
  | .user (.submitScoresBatch subs) =>
    subs.map fun sub => (sub.wallet, sub.assetPair)
  | .user (.submitScoresBatchAttested _ subs _) =>
    subs.map fun entry => (entry.submission.wallet, entry.submission.assetPair)
  | .user (.revealConsensus _ wallet pair _ _ _)
  | .user (.submitConsensusScore _ wallet pair _ _) => [(wallet, pair)]
  | _ => []

/-- The entries a call corrects. -/
def Call.corrects : Call → List Entry
  | .admins _ (.resolveDisputeAdmin wallet pair _) => [(wallet, pair)]
  | _ => []

/-- Submissions find their entries aligned, and corrections find theirs counted. -/
def CountsEntries (w : State) (tx : Transaction) : Prop :=
  (∀ entry ∈ tx.call.submits w, (scoreBook w.ledger).Aligned entry) ∧
    ∀ entry ∈ tx.call.corrects, 0 < (scoreBook w.ledger).count entry

instance (book : ScoreBook) (entry : Entry) : Decidable (book.Aligned entry) :=
  inferInstanceAs (Decidable (_ ↔ _))

instance (w : State) (tx : Transaction) : Decidable (CountsEntries w tx) :=
  inferInstanceAs (Decidable (_ ∧ _))

section Transactions

variable {env : ContractEnv} {w w' : State}

theorem mem_landing {signers : List Address} {ns : NormalizedSubmission} {posting : Posting}
    (listed : posting ∈ landing env w signers ns) :
    ((rulesOf w.ledger).buffer = 0 ∧
        posting = .direct (ns.wallet, ns.assetPair) ns.toRiskScore) ∨
      ∃ pending, posting = .parked (ns.wallet, ns.assetPair) pending := by
  unfold landing at listed
  split at listed
  · next unbuffered => exact .inl ⟨unbuffered, List.mem_singleton.mp listed⟩
  · obtain ⟨pending, _, rfl⟩ := List.mem_map.mp listed
    exact .inr ⟨_, rfl⟩

theorem mem_of_mem_acceptedEntries {α : Type} {entries : List α}
    {results : List BatchEntryResult} {entry : α}
    (accepted : entry ∈ acceptedEntries entries results) : entry ∈ entries := by
  obtain ⟨judged, listed, rfl⟩ := List.mem_map.mp accepted
  exact (List.of_mem_zip (List.mem_of_mem_filter listed)).1

theorem fits_landing {signers : List Address} {ns : NormalizedSubmission} {book : ScoreBook}
    (aligned : (rulesOf w.ledger).buffer = 0 → book.Aligned (ns.wallet, ns.assetPair)) :
    ∀ posting ∈ landing env w signers ns, posting.Fits book ∧ posting.steady = true := by
  intro posting listed
  rcases mem_landing listed with ⟨unbuffered, rfl⟩ | ⟨pending, rfl⟩
  · exact ⟨aligned unbuffered, rfl⟩
  · exact ⟨trivial, rfl⟩

theorem uncounted_infections {time boost : Nat} {pair : Symbol}
    (counterparties : List Address) (book : ScoreBook) :
    ∀ posting ∈ infections time boost pair book counterparties,
      ∀ other, posting.counted other = none := by
  induction counterparties generalizing book with
  | nil => exact fun posting listed => absurd listed List.not_mem_nil
  | cons counterparty rest ih =>
    unfold infections
    cases raisedScore time boost book (counterparty, pair) with
    | none => exact ih book
    | some score =>
      intro posting listed
      rcases List.mem_cons.mp listed with rfl | listed
      · exact fun _ => rfl
      · exact ih _ posting listed

/-- What a batch posts comes from its entries. -/
theorem mem_batchPostings {α : Type} {entries : List α} {result : Option BatchResult}
    {post : α → Posting} {posting : Posting}
    (listed : posting ∈ result.elim [] fun result =>
      (acceptedEntries entries result.results).map post) :
    ∃ entry ∈ entries, post entry = posting := by
  cases result with
  | none => exact absurd listed List.not_mem_nil
  | some result =>
    obtain ⟨entry, accepted, same⟩ := List.mem_map.mp listed
    exact ⟨entry, mem_of_mem_acceptedEntries accepted, same⟩

variable (env w) in
/-- The postings of a call count right, or count nothing. -/
theorem postingsOf_count (call : Call)
    (aligned : ∀ entry ∈ call.submits w, (scoreBook w.ledger).Aligned entry)
    (known : ∀ entry ∈ call.corrects, 0 < (scoreBook w.ledger).count entry) :
    (∀ posting ∈ postingsOf env w call,
        posting.Fits (scoreBook w.ledger) ∧ posting.steady = true) ∨
      ∀ posting ∈ postingsOf env w call, ∀ book, posting.counted book = none := by
  unfold postingsOf
  split
  · refine .inl (fits_landing fun unbuffered => aligned _ ?_)
    simp [Call.submits, unbuffered, ScoreSubmission.submitted, ScoreSubmission.normalize]
  · refine .inl ?_
    split
    · refine fits_landing fun unbuffered => aligned _ ?_
      simp [Call.submits, unbuffered, ScoreSubmission.normalize]
    · exact fun posting listed => absurd listed List.not_mem_nil
  · refine .inl fun posting listed => ?_
    obtain ⟨sub, isEntry, rfl⟩ := mem_batchPostings listed
    exact ⟨aligned _ (List.mem_map.mpr ⟨sub, isEntry, rfl⟩), rfl⟩
  · refine .inl fun posting listed => ?_
    obtain ⟨sub, isEntry, rfl⟩ := mem_batchPostings listed
    exact ⟨aligned _ (List.mem_map.mpr ⟨sub, isEntry, rfl⟩), rfl⟩
  · refine .inl fun posting listed => ?_
    obtain ⟨score, _, rfl⟩ := List.mem_map.mp listed
    exact ⟨aligned _ List.mem_cons_self, rfl⟩
  · refine .inl fun posting listed => ?_
    obtain ⟨score, _, rfl⟩ := List.mem_map.mp listed
    exact ⟨aligned _ List.mem_cons_self, rfl⟩
  · refine .inl fun posting listed => ?_
    obtain ⟨pending, _, rfl⟩ := List.mem_map.mp listed
    exact ⟨trivial, rfl⟩
  · refine .inr ?_
    split
    · exact fun posting listed => absurd listed List.not_mem_nil
    · exact uncounted_infections _ _
  · exact .inr (by simp [Posting.counted])
  · refine .inl fun posting listed => ?_
    cases List.mem_singleton.mp listed
    exact ⟨known _ List.mem_cons_self, rfl⟩
  · exact .inr (by simp [Posting.counted])
  · exact .inr (by simp [Posting.counted])
  · exact .inr (by simp [Posting.counted])
  · refine .inr fun posting listed book => ?_
    obtain ⟨entry, _, rfl⟩ := List.mem_map.mp listed
    rfl
  all_goals exact .inr (by simp [Posting.counted])

end Transactions

theorem step_columnsSummed (w : State) (tx : Transaction)
    (summed : (scoreBook w.ledger).counters.ColumnsSummed) :
    (scoreBook (step exec w tx).ledger).counters.ColumnsSummed := by
  rw [(step_booked w tx).book]
  exact columnsSummed_applyAll summed _

theorem step_cellsCounted (w : State) (tx : Transaction)
    (counted : (scoreBook w.ledger).counters.CellsCounted) (right : CountsEntries w tx) :
    (scoreBook (step exec w tx).ledger).counters.CellsCounted := by
  rw [(step_booked w tx).book]
  unfold postings
  split
  · rcases postingsOf_count tx.env { w with authorized := [] } tx.call right.1
      right.2 with fit | uncounted
    · exact cellsCounted_applyAll counted (fun posting listed => (fit posting listed).1)
        fun posting listed => (fit posting listed).2
    · rw [counters_applyAll_of_uncounted uncounted]
      exact counted
  · exact counted

/-- Nothing is counted before the first transaction. -/
theorem genesis_counters (balance : Balances) :
    (scoreBook (genesis balance).ledger).counters = ⟨fun _ => 0, fun _ => 0, 0⟩ :=
  rfl

/-- In every state, the counter of a pair is the sum of the counts of its entries. If
in addition every submission found its entry scored exactly when it was counted, and
every correction found its entry counted, then the total is the number of entries with a
count. -/
theorem counters_kept (balance : Balances) (txs : List Transaction) :
    (scoreBook (run exec (genesis balance) txs).ledger).counters.ColumnsSummed ∧
      (Along exec CountsEntries (genesis balance) txs →
        (scoreBook (run exec (genesis balance) txs).ledger).counters.CellsCounted) := by
  constructor
  · refine run_induction (I := fun w => (scoreBook w.ledger).counters.ColumnsSummed)
      (fun w tx => step_columnsSummed w tx) ?_
    rw [genesis_counters]
    intro pair
    simp
  · refine run_invariant (I := fun w => (scoreBook w.ledger).counters.CellsCounted)
      (fun w tx => step_cellsCounted w tx) ?_
    rw [genesis_counters]
    simp [Counters.CellsCounted]

/-! ### Samples -/

/-- Two entries are scored, one of them again two hours later. -/
def sampleSubmissions : List Transaction :=
  [initSample, submitSample (account 3) 40,
   ⟨{ sampleEnv [account 2] with timestamp := 1007200, timestamp_lt := by decide },
    .user (.submitScoresBatch
      [sampleSubmission (account 3) 50, sampleSubmission (account 4) 60])⟩]

theorem counters_kept_sample : Along exec CountsEntries blank sampleSubmissions ∧
      (scoreBook (run exec blank sampleSubmissions).ledger).total = 2 ∧
      (scoreBook
        (run exec blank sampleSubmissions).ledger).counters.CellsCounted :=
  ⟨by decide +kernel, by decide +kernel, (counters_kept _ _).2 (by decide +kernel)⟩

/-- Contagion gives account 4 a live score before one is ever submitted for it. -/
def sampleInfection : List Transaction :=
  [initSample, ⟨sampleEnv [], .user (.addCounterpartyLink (account 3) (account 4) samplePair)⟩,
   ⟨sampleEnv [], .user (.propagateContagion (account 3) samplePair 10)⟩,
   submitSample (account 4) 50]

theorem not_cellsCounted {book : ScoreBook} {entry : Entry} (none : book.total = 0)
    (scored : 0 < book.count entry) : ¬ book.counters.CellsCounted := by
  intro counted
  have nonempty : Set.Nonempty {entry | 0 < book.counters.count entry} := ⟨entry, scored⟩
  have positive := (Set.ncard_pos (Set.toFinite _)).mpr nonempty
  rw [← counted] at positive
  exact positive.ne' none

/-- Its first submission then counts for the entry, but not for the total. -/
theorem infected_entry_uncounted :
    ¬ (scoreBook
      (run exec blank sampleInfection).ledger).counters.CellsCounted :=
  not_cellsCounted (show _ = 0 by decide +kernel)
    (show 0 < ScoreBook.count _ (account 4, samplePair) by decide +kernel)

end LedgerLens
