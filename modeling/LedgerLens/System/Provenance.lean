import LedgerLens.System.Journal

/-!
Where the scores of the book come from. The live score of an entry is what the last
posting that writes it wrote, and no score in the book, live, past or waiting, is
above 100. The main results are `live_is_last_write` and `scores_in_range`.
-/

namespace LedgerLens

open Host Posting

/-! ### The last write -/

/-- What the records wrote to live scores, the latest first. -/
def writes (journal : List Record) : List (Entry × Option RiskScore) :=
  (journal.filterMap (·.posting.written)).reverse

theorem live_closing {book : ScoreBook} {journal : List Record} (entry : Entry)
    (chronicle : Chronicle book journal) :
    (closing book journal).live entry = ((writes journal).lookup entry).getD (book.live entry) := by
  unfold writes
  induction chronicle with
  | nil book => rfl
  | @cons record rest allowed later ih =>
    have after : record.after.live entry = _ := congrFun (live_apply ..) entry
    refine ih.trans ?_
    rw [after, List.filterMap_cons]
    cases record.posting.written with
    | none => rfl
    | some write =>
      obtain ⟨target, score⟩ := write
      rw [List.reverse_cons, List.lookup_append]
      cases (rest.filterMap (·.posting.written)).reverse.lookup entry with
      | some later => rfl
      | none =>
        -- no later record writes the entry, so that this one decides
        by_cases same : entry = target
        · subst same
          simp
        · simp [List.lookup_cons, beq_false_of_ne same, same]

/-- No write is lost and none is made up: over every run the live scores are registers
in which the last write wins. -/
theorem live_is_last_write (balance : Balances) (txs : List Transaction)
    (entry : Entry) :
    (scoreBook (run exec (genesis balance) txs).ledger).live entry =
      ((writes (journal (genesis balance) txs)).lookup entry).join := by
  rw [scoreBook_run, live_closing entry (journal_chronicle _ _)]
  cases (writes (journal (genesis balance) txs)).lookup entry with
  | none => rfl
  | some written => rfl

/-! ### The range of the scores -/

/-- None of the scores is above 100. -/
def Fit {α γ : Type} [Membership α γ] (score : α → Nat) (scores : γ) : Prop :=
  ∀ a ∈ scores, score a ≤ 100

/-- No score in the book is above 100. -/
structure ScoreBook.InRange (book : ScoreBook) : Prop where
  live : ∀ entry, Fit RiskScore.score (book.live entry)
  history : ∀ entry, Fit RiskScore.score (book.history entry)
  parked : ∀ entry, Fit PendingScoreEntry.score (book.parked entry)

theorem forall_update {α β : Type} [DecidableEq α] {f : α → β} {P : β → Prop} (all : ∀ a, P (f a))
    (a : α) {b : β} (new : P b) : ∀ a', P (Function.update f a b a') :=
  (Function.forall_update_iff f fun _ => P).mpr ⟨new, fun other _ => all other⟩

namespace ScoreBook.InRange

variable {book : ScoreBook} {rules : Rules} {score : RiskScore} (held : book.InRange)
  (entry : Entry) (le : score.score ≤ 100)

include held le

theorem put : (book.put entry score).InRange where
  __ := held
  live := forall_update held.live entry (by rintro _ ⟨⟩; exact le)

theorem push : (book.push rules entry score).InRange where
  __ := held
  history := by
    refine forall_update held.history entry fun risk listed => ?_
    rcases List.mem_append.mp (List.mem_of_mem_drop listed) with old | new
    · exact held.history entry risk old
    · rwa [List.mem_singleton.mp new]

theorem enter : ((book.put entry score).push rules entry score).InRange :=
  (held.put entry le).push entry le

end ScoreBook.InRange

theorem Chronicle.closing_keeps {I : ScoreBook → Prop} {book : ScoreBook} {journal : List Record}
    (chronicle : Chronicle book journal)
    (kept : ∀ record : Record, I record.book → record.Allowed → I record.after) (start : I book) :
    I (closing book journal) := by
  induction chronicle with
  | nil book => exact start
  | cons allowed _ ih => exact ih (kept _ start allowed)

/-- Whatever else a posting changes, its scores have been checked. -/
theorem Posting.inRange {posting : Posting} {book : ScoreBook} {rules : Rules} {now : Nat}
    (held : book.InRange) (allowed : posting.Allowed rules now book) :
    (posting.apply rules now book).InRange := by
  cases posting with
  | direct entry score => exact { held.enter entry allowed.1.score_le with }
  | batched entry score | attested entry score => exact { held.enter entry allowed.1 with }
  | parked entry pending =>
    exact { held with
      parked := forall_update held.parked entry (by rintro _ ⟨⟩; exact allowed.2.1) }
  | committed entry pending =>
    have le : pending.toRiskScore.score ≤ 100 := held.parked entry pending allowed.1
    exact { held.enter entry le with parked := forall_update held.parked entry (by rintro _ ⟨⟩) }
  | cancelled entry =>
    exact { held with parked := forall_update held.parked entry (by rintro _ ⟨⟩) }
  | corrected entry score => exact { held.enter entry allowed with }
  | infected entry score => exact held.put entry allowed.2
  | cleared entry => exact { held with live := forall_update held.live entry (by rintro _ ⟨⟩) }
  | historyCleared entry =>
    exact { held with history := forall_update held.history entry (by rintro _ ⟨⟩) }
  | limitLifted entry | capLifted entry | floorLifted entry => exact { held with }

/-- Whatever is called, in any order, the contract holds no score above 100. -/
theorem scores_in_range (balance : Balances) (txs : List Transaction) :
    (scoreBook (run exec (genesis balance) txs).ledger).InRange := by
  rw [scoreBook_run]
  refine (journal_chronicle _ txs).closing_keeps (fun _ held => Posting.inRange held) ?_
  constructor <;> rintro _ _ ⟨⟩

end LedgerLens
