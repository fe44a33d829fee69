import LedgerLens.Entry.Readers
import LedgerLens.System.Calls

/-!
The history of an entry: the scores pushed last, as many as the depth allowed when
the last one was pushed, and the pages in which readers see it. The main result is
`scoreHistory_is_recent_suffix`.
-/

namespace LedgerLens

open Host Host.Prog Storage

def historyOf (w : State) (wallet : Address) (pair : Symbol) : List RiskScore :=
  (w.ledger.entry .persistent (.scoreHistory wallet pair)).getD []

def historyDepth (w : State) : Nat :=
  (w.ledger.entry .inst .historyMaxDepth).getD defaultHistoryMaxDepth

/-! ### Pushes and changes of the depth -/

inductive HistoryCall where
  | pushScoreHistory (score : RiskScore)
  | setHistoryMaxDepth (depth : Nat)

/-- The two functions of the storage that the calls run. -/
def HistoryCall.exec (wallet : Address) (pair : Symbol) : HistoryCall → M Unit
  | .pushScoreHistory score => Storage.pushScoreHistory wallet pair score
  | .setHistoryMaxDepth depth => store .inst .historyMaxDepth depth

def HistoryCall.pushed : HistoryCall → List RiskScore
  | .pushScoreHistory score => [score]
  | .setHistoryMaxDepth _ => []

section Pushing

variable (env : ContractEnv) (w : State) (wallet : Address) (pair : Symbol)

/-- A push keeps the last entries, as many as the depth allows. -/
theorem pushScoreHistory_run (score : RiskScore) :
    ∃ w', pushScoreHistory wallet pair score env w = .ok () w' ∧
      historyOf w' wallet pair = (historyOf w wallet pair ++ [score]).drop
        ((historyOf w wallet pair).length + 1 - historyDepth w) := by
  refine ⟨_, rfl, ?_⟩
  unfold historyOf
  rw [Ledger.entry_put_self, Option.getD_some, List.length_append, List.length_singleton]
  rfl

theorem length_historyOf_push (score : RiskScore) :
    (historyOf (invoke (pushScoreHistory wallet pair score) env w) wallet pair).length =
      min ((historyOf w wallet pair).length + 1) (historyDepth w) := by
  obtain ⟨w', ran, kept⟩ :=
    pushScoreHistory_run env { w with authorized := [] } wallet pair score
  rw [invoke_of_ok ran, kept, List.length_drop, List.length_append, List.length_singleton]
  change (historyOf w wallet pair).length + 1 -
    ((historyOf w wallet pair).length + 1 - historyDepth w) = _
  omega

/-- What is dropped of a suffix and one more leaves a suffix. -/
theorem drop_snoc_suffix {history pushed : List RiskScore} (suffix : history <:+ pushed)
    (score : RiskScore) (dropped : Nat) :
    (history ++ [score]).drop dropped <:+ pushed ++ [score] := by
  obtain ⟨before, rfl⟩ := suffix
  rw [List.append_assoc]
  exact (List.drop_suffix _ _).trans (List.suffix_append _ _)

variable {w}

/-- One call: what is stored stays a suffix of what was pushed. -/
theorem step_suffix {pushed : List RiskScore} (tx : Tx External HistoryCall)
    (suffix : historyOf w wallet pair <:+ pushed) :
    historyOf (step (HistoryCall.exec wallet pair) w tx) wallet pair <:+
      pushed ++ tx.call.pushed := by
  obtain ⟨env, call⟩ := tx
  cases call with
  | pushScoreHistory score =>
    obtain ⟨w', ran, kept⟩ :=
      pushScoreHistory_run env { w with authorized := [] } wallet pair score
    have after : step (HistoryCall.exec wallet pair) w ⟨env, .pushScoreHistory score⟩ = w' :=
      invoke_of_ok ran
    rw [after, kept]
    exact drop_snoc_suffix suffix score _
  | setHistoryMaxDepth depth =>
    have kept : historyOf (step (HistoryCall.exec wallet pair) w
        ⟨env, .setHistoryMaxDepth depth⟩) wallet pair = historyOf w wallet pair := by
      unfold historyOf
      exact congrArg (Option.getD · []) (Ledger.entry_put_of_ne _ _ fun same => by cases same)
    rw [kept, HistoryCall.pushed, List.append_nil]
    exact suffix

theorem run_suffix {pushed : List RiskScore} (txs : List (Tx External HistoryCall))
    (suffix : historyOf w wallet pair <:+ pushed) :
    historyOf (run (HistoryCall.exec wallet pair) w txs) wallet pair <:+
      pushed ++ txs.flatMap fun tx => tx.call.pushed := by
  induction txs generalizing w pushed with
  | nil => simpa using suffix
  | cons tx rest ih =>
    have later := ih (step_suffix wallet pair tx suffix)
    rw [List.append_assoc] at later
    rw [List.flatMap_cons]
    exact later

end Pushing

/-! ### Pages -/

/-- Back from an index there are the entries up to it, the last ones first. -/
theorem pageLoop_run (history : List RiskScore) (env : ContractEnv) (w : State)
    (remaining : Nat) {idx : Nat} (inside : idx < history.length) :
    pageLoop history remaining idx env w =
      .ok ((history.take (idx + 1)).reverse.take remaining) w := by
  induction remaining generalizing idx with
  | zero => rfl
  | succ remaining ih =>
    have found : history[idx]? = some history[idx] := List.getElem?_eq_getElem inside
    have last : (history.take (idx + 1)).reverse = history[idx] :: (history.take idx).reverse := by
      rw [List.take_add_one, found, List.reverse_append]
      rfl
    have entry : (unwrap history[idx]? : M RiskScore) env w = .ok history[idx] w := by
      rw [found]
      rfl
    rw [pageLoop, run_bind_of_ok entry, last, List.take_succ_cons]
    cases idx with
    | zero => simp
    | succ idx => exact run_bind_of_ok (ih (Nat.lt_of_succ_lt inside))

section Pages

variable (env : ContractEnv) (w : State) (wallet : Address) (pair : Symbol)

theorem getScoreHistoryPaginated_run (offset limit : Nat) :
    Storage.getScoreHistoryPaginated wallet pair offset limit env w =
      .ok (((historyOf w wallet pair).reverse.drop offset).take (min limit maxHistoryDepth))
        w := by
  change (if offset ≥ (historyOf w wallet pair).length then pure []
    else pageLoop (historyOf w wallet pair) (min limit maxHistoryDepth)
      ((historyOf w wallet pair).length - 1 - offset) : M _) env w = _
  generalize historyOf w wallet pair = history
  split
  · next past =>
    rw [List.drop_of_length_le (by rwa [List.length_reverse]), List.take_nil]
    rfl
  · next inside =>
    have upTo : history.length - 1 - offset + 1 = history.length - offset := by omega
    rw [pageLoop_run history env w _ (by omega), upTo, ← List.drop_reverse]

/-- What a reader collects who asks for one page after the other. -/
def collectPages (size : Nat) : Nat → M (List RiskScore)
  | 0 => pure []
  | pages + 1 => do
      let collected ← collectPages size pages
      let page ← Storage.getScoreHistoryPaginated wallet pair (pages * size) size
      return collected ++ page

theorem collectPages_run {size : Nat} (bounded : size ≤ maxHistoryDepth) (pages : Nat) :
    collectPages wallet pair size pages env w =
      .ok ((historyOf w wallet pair).reverse.take (pages * size)) w := by
  induction pages with
  | zero => simp [collectPages]
  | succ pages ih =>
    have page := getScoreHistoryPaginated_run env w wallet pair (pages * size) size
    rw [Nat.min_eq_left bounded] at page
    rw [collectPages, run_bind_of_ok ih, run_bind_of_ok page, Nat.succ_mul, List.take_add]
    rfl

end Pages

/-- Over any sequence of pushes and changes of the depth the history holds the scores
pushed last, a push leaves as many as the depth allows, and the pages of a reader, one
after the other, are the history from its newest entry back. -/
theorem scoreHistory_is_recent_suffix (wallet : Address) (pair : Symbol) (w : State)
    (txs : List (Tx External HistoryCall)) :
    let w' := run (HistoryCall.exec wallet pair) w txs
    historyOf w' wallet pair <:+
        historyOf w wallet pair ++ txs.flatMap (fun tx => tx.call.pushed) ∧
      (∀ env score,
        (historyOf (step (HistoryCall.exec wallet pair) w' ⟨env, .pushScoreHistory score⟩)
            wallet pair).length =
          min ((historyOf w' wallet pair).length + 1) (historyDepth w')) ∧
      ∀ env size pages, 1 ≤ size → size ≤ maxHistoryDepth →
        (historyOf w' wallet pair).length ≤ pages * size →
        collectPages wallet pair size pages env w' =
          .ok (historyOf w' wallet pair).reverse w' := by
  intro w'
  refine ⟨run_suffix wallet pair txs (List.suffix_refl _),
    fun env score => length_historyOf_push env w' wallet pair score, ?_⟩
  intro env size pages _ bounded covered
  rw [collectPages_run env w' wallet pair bounded pages,
    List.take_of_length_le (by rwa [List.length_reverse])]

/-- A record of which only the score and its time matter. -/
def recordAt (score timestamp : Nat) : RiskScore where
  score := score
  benfordFlag := false
  mlFlag := false
  timestamp := timestamp
  confidence := 90
  modelVersion := 1
  benfordScore := 0
  mlScore := 0
  networkScore := 0
  commitment := none

/-- Three pushes at depth two, and one more after the depth has become three. -/
def samplePushes : List (Tx External HistoryCall) :=
  ([.setHistoryMaxDepth 2, .pushScoreHistory (recordAt 10 1), .pushScoreHistory (recordAt 20 2),
    .pushScoreHistory (recordAt 30 3), .setHistoryMaxDepth 3,
    .pushScoreHistory (recordAt 40 4)] : List HistoryCall).map (Tx.mk (sampleEnv []))

def pushedTo : State := run (HistoryCall.exec (account 1) samplePair) deployed samplePushes

theorem scoreHistory_is_recent_suffix_pushedTo :
    historyOf pushedTo (account 1) samplePair = [recordAt 20 2, recordAt 30 3, recordAt 40 4] ∧
      collectPages (account 1) samplePair 2 2 (sampleEnv []) pushedTo =
        .ok [recordAt 40 4, recordAt 30 3, recordAt 20 2] pushedTo := by
  have kept : historyOf pushedTo (account 1) samplePair =
      [recordAt 20 2, recordAt 30 3, recordAt 40 4] := by decide +kernel
  have pages := (scoreHistory_is_recent_suffix (account 1) samplePair deployed samplePushes).2.2
    (sampleEnv []) 2 2 (by decide) (by decide) (kept ▸ by decide)
  refine ⟨kept, pages.trans ?_⟩
  change Outcome.ok (historyOf pushedTo (account 1) samplePair).reverse pushedTo = _
  rw [kept]
  rfl

end LedgerLens
