import LedgerLens.System.Counters

/-!
The journal of a run: every posting with the rules, the time and the book it was
made in. Statements about what happens between two writes of an entry are proved on
the journal, by what the book remembers of the first one.
-/

namespace LedgerLens

open Host Host.Prog Storage Posting

/-- A posting with the circumstances it was made in. -/
structure Record where
  rules : Rules
  now : Nat
  book : ScoreBook
  posting : Posting

namespace Record

def after (record : Record) : ScoreBook :=
  record.posting.apply record.rules record.now record.book

def Allowed (record : Record) : Prop :=
  record.posting.Allowed record.rules record.now record.book

end Record

/-- The records of postings that are made one after the other. -/
def records (rules : Rules) (now : Nat) : ScoreBook → List Posting → List Record
  | _, [] => []
  | book, posting :: rest =>
    ⟨rules, now, book, posting⟩ :: records rules now (posting.apply rules now book) rest

/-- Records that follow one another, from the given book on. -/
inductive Chronicle : ScoreBook → List Record → Prop where
  | nil (book : ScoreBook) : Chronicle book []
  | cons {record : Record} {rest : List Record} (allowed : record.Allowed)
      (later : Chronicle record.after rest) : Chronicle record.book (record :: rest)

namespace Chronicle

variable {rules : Rules} {now : Nat} {book : ScoreBook} {journal rest : List Record}

theorem of_records {postings : List Posting} (allowed : AllAllowed rules now book postings)
    (later : Chronicle (applyAll rules now book postings) rest) :
    Chronicle book (records rules now book postings ++ rest) := by
  induction postings generalizing book with
  | nil => exact later
  | cons posting postings ih =>
    exact @Chronicle.cons ⟨rules, now, book, posting⟩ _ allowed.1 (ih allowed.2 later)

/-- What every record keeps holds where a later one is made. -/
theorem carried {I : ScoreBook → Prop} {between : List Record} {record : Record}
    (chronicle : Chronicle book (between ++ record :: rest))
    (kept : ∀ other ∈ between, I other.book → other.Allowed → I other.after) (start : I book) :
    I record.book ∧ record.Allowed := by
  induction between generalizing book with
  | nil =>
    cases chronicle with
    | cons allowed _ => exact ⟨start, allowed⟩
  | cons other between ih =>
    cases chronicle with
    | cons allowed later =>
      refine ih later (fun next listed => kept next (List.mem_cons_of_mem _ listed)) ?_
      exact kept other List.mem_cons_self start allowed

/-- If every book after a record remembers something of it, and what is remembered bears
on each later record, then any two records are related. -/
theorem pairwise {R : Record → Record → Prop} {J : Record → ScoreBook → Prop}
    {ok : Record → Prop} (chronicle : Chronicle book journal) (all : ∀ record ∈ journal, ok record)
    (made : ∀ record, record.Allowed → ok record → J record record.after)
    (kept : ∀ record other, ok other → J record other.book → other.Allowed → J record other.after)
    (shown : ∀ record other, ok other → J record other.book → other.Allowed → R record other) :
    journal.Pairwise R := by
  induction chronicle with
  | nil book => exact .nil
  | @cons record rest allowed later ih =>
    have rest_ok : ∀ other ∈ rest, ok other := fun other listed =>
      all other (List.mem_cons_of_mem _ listed)
    refine List.pairwise_cons.mpr ⟨fun other listed => ?_, ih rest_ok⟩
    obtain ⟨between, following, rfl⟩ := List.append_of_mem listed
    obtain ⟨remembered, otherAllowed⟩ := later.carried
      (fun next isNext => kept record next (rest_ok next (List.mem_append_left _ isNext)))
      (made record allowed (all record List.mem_cons_self))
    exact shown record other (rest_ok other listed) remembered otherAllowed

end Chronicle

/-- The book after the last record. -/
def closing (book : ScoreBook) (journal : List Record) : ScoreBook :=
  journal.foldl (fun _ record => record.after) book

theorem closing_records (rules : Rules) (now : Nat) (book : ScoreBook) (postings : List Posting) :
    closing book (records rules now book postings) = applyAll rules now book postings := by
  induction postings generalizing book with
  | nil => rfl
  | cons posting rest ih => exact ih (posting.apply rules now book)

/-! ### Where postings come from -/

/-- The entry that a call writes through the rate limiter. -/
def Call.lands (w : State) : Call → Option Entry
  | .user (.submitScore _ sub _) | .user (.relayAttestedScore _ sub _) =>
    if (rulesOf w.ledger).buffer = 0 then some (sub.wallet, sub.assetPair) else none
  | .user (.revealConsensus _ wallet pair _ _ _)
  | .user (.submitConsensusScore _ wallet pair _ _) => some (wallet, pair)
  | _ => none

/-- The postings a call can make in a state. -/
inductive Posts (w : State) : Call → Posting → Prop where
  | direct {call : Call} {entry : Entry} {score : RiskScore}
      (lands : call.lands w = some entry) : Posts w call (.direct entry score)
  | batched {subs : List ScoreSubmission} {sub : ScoreSubmission}
      (listed : sub ∈ subs) :
      Posts w (.user (.submitScoresBatch subs))
        (.batched (sub.wallet, sub.assetPair) sub.normalize.toRiskScore)
  | attested {signers : List Address} {subs : List ScoreSubmissionWithProof}
      {attestation : BatchAttestation} {sub : ScoreSubmissionWithProof}
      (listed : sub ∈ subs) :
      Posts w (.user (.submitScoresBatchAttested signers subs attestation))
        (.attested (sub.submission.wallet, sub.submission.assetPair)
          sub.submission.normalize.toRiskScore)
  | parked {call : Call} {entry : Entry} {pending : PendingScoreEntry} :
      Posts w call (.parked entry pending)
  | committed {wallet : Address} {pair : Symbol} {pending : PendingScoreEntry}
      (waiting : (scoreBook w.ledger).parked (wallet, pair) = some pending) :
      Posts w (.user (.commitPendingScore wallet pair))
        (.committed (wallet, pair) pending)
  | cancelled {call : Call} {entry : Entry} (idle : call.submits w = []) :
      Posts w call (.cancelled entry)
  | corrected {call : Call} {entry : Entry} {score : RiskScore}
      (idle : call.submits w = []) : Posts w call (.corrected entry score)
  | infected {call : Call} {entry : Entry} {score : RiskScore}
      (idle : call.submits w = []) : Posts w call (.infected entry score)
  | cleared {call : Call} {entry : Entry} (idle : call.submits w = []) :
      Posts w call (.cleared entry)
  | historyCleared {call : Call} {entry : Entry} (idle : call.submits w = []) :
      Posts w call (.historyCleared entry)
  | limitLifted {call : Call} {entry : Entry} (idle : call.submits w = []) :
      Posts w call (.limitLifted entry)
  | capLifted {signers : List Address} {wallet : Address} {pair : Symbol} :
      Posts w (.admins signers (.overrideScoreVelocityCap wallet pair))
        (.capLifted (wallet, pair))
  | floorLifted {signers : List Address} {wallet : Address} {pair : Symbol} :
      Posts w (.admins signers (.overrideScoreFloor wallet pair))
        (.floorLifted (wallet, pair))

section Origins

variable {env : ContractEnv} {w w' : State} {call : Call} {posting : Posting}

theorem mem_submits_of_lands {entry : Entry} (lands : call.lands w = some entry) :
    entry ∈ call.submits w := by
  unfold Call.lands at lands
  split at lands <;> try cases lands
  · obtain ⟨unbuffered, ⟨⟩⟩ := Option.ite_none_right_eq_some.mp lands
    simp [Call.submits, unbuffered]
  · obtain ⟨unbuffered, ⟨⟩⟩ := Option.ite_none_right_eq_some.mp lands
    simp [Call.submits, unbuffered]
  · exact List.mem_cons_self
  · exact List.mem_cons_self

theorem posts_landing {signers : List Address} {ns : NormalizedSubmission}
    (listed : posting ∈ landing env { w with authorized := [] } signers ns)
    (lands : (rulesOf w.ledger).buffer = 0 → call.lands w = some (ns.wallet, ns.assetPair)) :
    Posts w call posting := by
  rcases mem_landing listed with ⟨unbuffered, rfl⟩ | ⟨pending, rfl⟩
  · exact .direct (lands unbuffered)
  · exact .parked

theorem posts_infections {time boost : Nat} {pair : Symbol} {counterparties : List Address}
    {book : ScoreBook} (idle : call.submits w = [])
    (listed : posting ∈ infections time boost pair book counterparties) : Posts w call posting := by
  induction counterparties generalizing book with
  | nil => exact absurd listed List.not_mem_nil
  | cons counterparty rest ih =>
    unfold infections at listed
    cases found : raisedScore time boost book (counterparty, pair) with
    | none =>
      rw [found] at listed
      exact ih listed
    | some score =>
      rw [found] at listed
      rcases List.mem_cons.mp listed with rfl | listed
      · exact .infected idle
      · exact ih listed

theorem posts_of_mem_postingsOf
    (listed : posting ∈ postingsOf env { w with authorized := [] } call) :
    Posts w call posting := by
  unfold postingsOf at listed
  split at listed
  · exact posts_landing listed fun unbuffered => if_pos unbuffered
  · split at listed
    · exact posts_landing listed fun unbuffered => if_pos unbuffered
    · exact absurd listed List.not_mem_nil
  · obtain ⟨sub, isEntry, rfl⟩ := mem_batchPostings listed
    exact .batched isEntry
  · obtain ⟨sub, isEntry, rfl⟩ := mem_batchPostings listed
    exact .attested isEntry
  · obtain ⟨score, _, rfl⟩ := List.mem_map.mp listed
    exact .direct rfl
  · obtain ⟨score, _, rfl⟩ := List.mem_map.mp listed
    exact .direct rfl
  · obtain ⟨pending, isParked, rfl⟩ := List.mem_map.mp listed
    exact .committed (Option.mem_toList.mp isParked)
  · split at listed
    · exact absurd listed List.not_mem_nil
    · exact posts_infections rfl listed
  · cases List.mem_singleton.mp listed
    exact .cancelled rfl
  · cases List.mem_singleton.mp listed
    exact .corrected rfl
  · cases List.mem_singleton.mp listed
    exact .historyCleared rfl
  · cases List.mem_singleton.mp listed
    exact .cleared rfl
  · cases List.mem_singleton.mp listed
    exact .limitLifted rfl
  · obtain ⟨entry, _, rfl⟩ := List.mem_map.mp listed
    exact .limitLifted rfl
  · cases List.mem_singleton.mp listed
    exact .capLifted
  · cases List.mem_singleton.mp listed
    exact .floorLifted
  · exact absurd listed List.not_mem_nil

theorem posts_of_mem_postings {tx : Transaction} (listed : posting ∈ postings w tx) :
    Posts w tx.call posting := by
  unfold postings at listed
  split at listed
  · exact posts_of_mem_postingsOf listed
  · exact absurd listed List.not_mem_nil

end Origins

/-! ### The journal of a run -/

def journalOf (w : State) (tx : Transaction) : List Record :=
  records (rulesOf w.ledger) tx.env.timestamp (scoreBook w.ledger) (postings w tx)

def journal (w : State) (txs : List Transaction) : List Record :=
  (trace exec journalOf w txs).flatten

theorem journal_chronicle (w : State) (txs : List Transaction) :
    Chronicle (scoreBook w.ledger) (journal w txs) := by
  induction txs generalizing w with
  | nil => exact .nil _
  | cons tx rest ih =>
    have booked := step_booked w tx
    refine .of_records booked.allowed ?_
    rw [← booked.book]
    exact ih _

theorem scoreBook_run (w : State) (txs : List Transaction) :
    scoreBook (run exec w txs).ledger = closing (scoreBook w.ledger) (journal w txs) := by
  induction txs generalizing w with
  | nil => rfl
  | cons tx rest ih =>
    have first : closing (scoreBook w.ledger) (journalOf w tx) =
        scoreBook (step exec w tx).ledger := by
      rw [(step_booked w tx).book]
      exact closing_records ..
    have split : journal w (tx :: rest) = journalOf w tx ++ journal (step exec w tx) rest := rfl
    rw [run_cons, ih, split, closing, closing, List.foldl_append]
    exact congrArg (List.foldl _ · _) first.symm

/-- A condition on the records of each transaction is one on all of them. -/
theorem forall_mem_journal {P : Record → Prop} {w : State} {txs : List Transaction}
    (along : Along exec (fun w tx => ∀ record ∈ journalOf w tx, P record) w txs) :
    ∀ record ∈ journal w txs, P record := by
  induction txs generalizing w with
  | nil => exact fun record listed => absurd listed List.not_mem_nil
  | cons tx rest ih =>
    intro record listed
    rcases List.mem_append.mp listed with first | later
    · exact along.1 record first
    · exact ih along.2 record later

section Records

variable {rules : Rules} {now : Nat} {book : ScoreBook} {postings : List Posting}

/-- What all postings of a transaction keep holds for each of its records. -/
theorem mem_records {I : ScoreBook → Prop} {record : Record} (start : I book)
    (kept : ∀ posting ∈ postings, ∀ book, I book → I (posting.apply rules now book))
    (listed : record ∈ records rules now book postings) :
    record.rules = rules ∧ record.now = now ∧ record.posting ∈ postings ∧ I record.book := by
  induction postings generalizing book with
  | nil => exact absurd listed List.not_mem_nil
  | cons posting rest ih =>
    rcases List.mem_cons.mp listed with rfl | later
    · exact ⟨rfl, rfl, List.mem_cons_self, start⟩
    · obtain ⟨sameRules, sameTime, isPosting, holds⟩ :=
        ih (kept posting List.mem_cons_self book start)
          (fun other isOther => kept other (List.mem_cons_of_mem _ isOther)) later
      exact ⟨sameRules, sameTime, List.mem_cons_of_mem _ isPosting, holds⟩

theorem now_of_mem_records {record : Record} (listed : record ∈ records rules now book postings) :
    record.now = now :=
  (mem_records (I := fun _ => True) trivial (fun _ _ _ _ => trivial) listed).2.1

end Records

section Transactions

variable {w : State} {tx : Transaction} {record : Record}

theorem of_mem_journalOf (listed : record ∈ journalOf w tx) :
    record.rules = rulesOf w.ledger ∧ record.now = tx.env.timestamp ∧
      Posts w tx.call record.posting := by
  obtain ⟨sameRules, sameTime, isPosting, _⟩ :=
    mem_records (I := fun _ => True) trivial (fun _ _ _ _ => trivial) listed
  exact ⟨sameRules, sameTime, posts_of_mem_postings isPosting⟩

/-- What all the postings a call can make keep holds where each of them is made. -/
theorem book_of_mem_journalOf {I : ScoreBook → Prop} (listed : record ∈ journalOf w tx)
    (start : I (scoreBook w.ledger))
    (kept : ∀ posting, Posts w tx.call posting → ∀ book, I book →
      I (posting.apply (rulesOf w.ledger) tx.env.timestamp book)) : I record.book :=
  (mem_records start (fun posting isPosting => kept posting (posts_of_mem_postings isPosting))
    listed).2.2.2

/-- A call that writes through the rate limiter makes no more than that write. -/
theorem length_postings_le_one {entry : Entry} (lands : tx.call.lands w = some entry) :
    (postings w tx).length ≤ 1 := by
  have option_le {α : Type} (o : Option α) (post : α → Posting) :
      (o.toList.map post).length ≤ 1 := by
    rw [List.length_map]
    exact Option.length_toList_le
  have landing_le (env : ContractEnv) (w : State) (signers : List Address)
      (ns : NormalizedSubmission) : (landing env w signers ns).length ≤ 1 := by
    unfold landing
    split
    · exact Nat.le_refl 1
    · exact option_le ..
  unfold postings
  split
  · rcases tx with ⟨env, call⟩
    unfold Call.lands at lands
    dsimp only at lands ⊢
    split at lands <;> try cases lands
    · exact landing_le ..
    · simp only [postingsOf]
      split
      · exact landing_le ..
      · exact Nat.zero_le 1
    · exact option_le ..
    · exact option_le ..
  · exact Nat.zero_le 1

theorem book_of_lands {entry : Entry} (lands : tx.call.lands w = some entry)
    (listed : record ∈ journalOf w tx) : record.book = scoreBook w.ledger := by
  have single := length_postings_le_one lands
  unfold journalOf at listed
  cases made : postings w tx with
  | nil =>
    rw [made] at listed
    exact absurd listed List.not_mem_nil
  | cons posting rest =>
    rw [made] at listed single
    have last : rest = [] := List.length_eq_zero_iff.mp (by simpa using single)
    rw [last] at listed
    cases List.mem_singleton.mp listed
    rfl

end Transactions

/-- The ledger's clock never goes back. -/
def Chronological (txs : List Transaction) : Prop :=
  (txs.map fun tx => tx.env.timestamp).Pairwise (· ≤ ·)

instance (txs : List Transaction) : Decidable (Chronological txs) :=
  inferInstanceAs (Decidable (List.Pairwise _ _))

/-- Every record has the time of a transaction. -/
theorem exists_of_mem_journal {w : State} {txs : List Transaction} {record : Record}
    (listed : record ∈ journal w txs) : ∃ tx ∈ txs, record.now = tx.env.timestamp := by
  induction txs generalizing w with
  | nil => exact absurd listed List.not_mem_nil
  | cons tx rest ih =>
    rcases List.mem_append.mp listed with first | later
    · exact ⟨tx, List.mem_cons_self, now_of_mem_records first⟩
    · obtain ⟨tx', isLater, time⟩ := ih later
      exact ⟨tx', List.mem_cons_of_mem _ isLater, time⟩

theorem pairwise_now_journal {w : State} {txs : List Transaction}
    (chronological : Chronological txs) :
    (journal w txs).Pairwise fun earlier later => earlier.now ≤ later.now := by
  induction txs generalizing w with
  | nil => exact .nil
  | cons tx rest ih =>
    obtain ⟨first, chronological⟩ := List.pairwise_cons.mp chronological
    refine List.pairwise_append.mpr ⟨?_, ih chronological, ?_⟩
    · refine List.pairwise_of_forall_mem_list fun earlier isEarlier later isLater => ?_
      rw [now_of_mem_records isEarlier, now_of_mem_records isLater]
    · intro earlier isEarlier later isLater
      obtain ⟨tx', isRest, time⟩ := exists_of_mem_journal isLater
      rw [now_of_mem_records isEarlier, time]
      exact first _ (List.mem_map_of_mem isRest)

end LedgerLens
