import LedgerLens.System.Rounds

/-!
The contract as a machine on the book of scores. Every call that returns makes
some postings, each allowed by the rules in the book it finds, and leaves the
book they lead to; all other calls leave the book alone. Statements about runs
are proved posting by posting.
-/

namespace LedgerLens

open Host Host.Prog Storage

/-! ### Postings -/

/-- What can happen to an entry of the book. -/
inductive Posting where
  /-- Written by `write_score_with_rate_limit`. -/
  | direct (entry : Entry) (score : RiskScore)
  | batched (entry : Entry) (score : RiskScore)
  | attested (entry : Entry) (score : RiskScore)
  | parked (entry : Entry) (pending : PendingScoreEntry)
  | committed (entry : Entry) (pending : PendingScoreEntry)
  | cancelled (entry : Entry)
  | corrected (entry : Entry) (score : RiskScore)
  | infected (entry : Entry) (score : RiskScore)
  | cleared (entry : Entry)
  | historyCleared (entry : Entry)
  | limitLifted (entry : Entry)
  | capLifted (entry : Entry)
  | floorLifted (entry : Entry)

namespace ScoreBook

variable (book : ScoreBook) (rules : Rules) (now : Nat) (entry : Entry)

/-- An entry of an attested batch: no statistics are kept. -/
def attest (score : RiskScore) : ScoreBook :=
  (((book.useOverride rules entry).stamp now entry).put entry score).enter rules entry score
    (book.previous entry).isNone

/-- An entry of a plain batch. -/
def batch (score : RiskScore) : ScoreBook :=
  (book.attest rules now entry score).observe entry score.score (book.previous entry)

/-- An administrator's correction counts a submission, but no entry. -/
def correct (score : RiskScore) : ScoreBook :=
  (((book.put entry score).push rules entry score).countEntry entry).countPair entry.2

/-- A parked score becomes live. Whether the entry is new is seen by its count. -/
def commit (score : RiskScore) : ScoreBook :=
  { (book.correct rules entry score).enroll (book.count entry = 0) with
    parked := Function.update book.parked entry none }

/-- Take the live score, if there is one, out of the histogram. -/
def uncountLive : ScoreBook :=
  { book with
    histogram := (book.live entry).elim book.histogram
      fun risk => (book.uncount risk.score).histogram }

end ScoreBook

namespace Posting

variable (rules : Rules) (now : Nat) (book : ScoreBook)

/-- What a posting does. -/
def apply : Posting → ScoreBook
  | .direct entry score => book.direct rules now entry score
  | .batched entry score => book.batch rules now entry score
  | .attested entry score => book.attest rules now entry score
  | .parked entry pending =>
    { book.stamp now entry with parked := Function.update book.parked entry (some pending) }
  | .committed entry pending => book.commit rules entry pending.toRiskScore
  | .cancelled entry => { book with parked := Function.update book.parked entry none }
  | .corrected entry score => book.correct rules entry score
  | .infected entry score => book.put entry score
  | .cleared entry =>
    { book.uncountLive entry with live := Function.update book.live entry none }
  | .historyCleared entry =>
    { book.uncountLive entry with history := Function.update book.history entry [] }
  | .limitLifted entry => book.stamp 0 entry
  | .capLifted entry => { book with overridden := Function.update book.overridden entry true }
  | .floorLifted entry => { book with peak := Function.update book.peak entry 0 }

/-- The live score a posting leaves in an entry. -/
def written : Posting → Option (Entry × Option RiskScore)
  | .direct entry score | .batched entry score | .attested entry score
  | .corrected entry score | .infected entry score => some (entry, some score)
  | .committed entry pending => some (entry, some pending.toRiskScore)
  | .cleared entry => some (entry, none)
  | _ => none

theorem live_apply (posting : Posting) :
    (posting.apply rules now book).live =
      posting.written.elim book.live fun w => Function.update book.live w.1 w.2 := by
  cases posting <;> rfl

/-- What has been checked before a posting is made. -/
def Allowed : Posting → Prop
  | .direct entry score =>
    book.Admits rules now entry score.score ∧
      (book.previous entry = none → book.total + 1 < u64Bound)
  | .batched entry score =>
    score.score ≤ 100 ∧ book.Rested rules now entry ∧
      book.WithinCap rules now entry score.score ∧ book.AboveFloor rules entry score.score ∧
      (book.previous entry = none → book.total + 1 < u64Bound)
  | .attested entry score =>
    score.score ≤ 100 ∧ book.Rested rules now entry ∧
      book.WithinCap rules now entry score.score ∧
      (book.previous entry = none → book.total + 1 < u64Bound)
  | .parked entry pending =>
    book.Rested rules now entry ∧ pending.score ≤ 100 ∧ pending.submittedAt = now
  | .committed entry pending => book.parked entry = some pending ∧ pending.commitAfter ≤ now
  | .cancelled entry => (book.parked entry).isSome = true
  | .corrected _ score => score.score ≤ 100
  | .infected entry score => book.previous entry ≠ some score.score ∧ score.score ≤ 100
  | .cleared _ | .historyCleared _ | .limitLifted _ | .capLifted _ | .floorLifted _ => True

/-- The book after several postings. -/
def applyAll (postings : List Posting) : ScoreBook := postings.foldl (apply rules now) book

/-- Each posting is allowed in the book the ones before it lead to. -/
def AllAllowed : ScoreBook → List Posting → Prop
  | _, [] => True
  | book, posting :: rest =>
    posting.Allowed rules now book ∧ AllAllowed (posting.apply rules now book) rest

variable {rules now book}

theorem applyAll_append (first second : List Posting) :
    applyAll rules now book (first ++ second) =
      applyAll rules now (applyAll rules now book first) second :=
  List.foldl_append

theorem allAllowed_append {first second : List Posting} :
    AllAllowed rules now book (first ++ second) ↔
      AllAllowed rules now book first ∧
        AllAllowed rules now (applyAll rules now book first) second := by
  induction first generalizing book with
  | nil => simp [AllAllowed, applyAll]
  | cons posting rest ih =>
    simp only [List.cons_append, AllAllowed, ih, and_assoc]
    rfl

end Posting

open Posting

/-! ### Batches -/

/-- The entries a batch has accepted, by their results. -/
def acceptedEntries {α : Type} (entries : List α) (results : List BatchEntryResult) : List α :=
  ((entries.zip results).filter fun judged => judged.2.accepted).map Prod.fst

theorem acceptedEntries_snoc {α : Type} {entries : List α} {results : List BatchEntryResult}
    (judged : results.length = entries.length) (entry : α) (result : BatchEntryResult) :
    acceptedEntries (entries ++ [entry]) (results ++ [result]) =
      acceptedEntries entries results ++ if result.accepted then [entry] else [] := by
  unfold acceptedEntries
  rw [List.zip_append judged.symm, List.filter_append, List.map_append]
  cases accepted : result.accepted <;> simp [accepted]

/-- Postings allowed one after the other lead from the book of one state to the
book of the other. -/
structure Booked (env : ContractEnv) (w w' : State) (postings : List Posting) : Prop where
  allowed : AllAllowed (rulesOf w.ledger) env.timestamp (scoreBook w.ledger) postings
  book : scoreBook w'.ledger =
    applyAll (rulesOf w.ledger) env.timestamp (scoreBook w.ledger) postings

/-- The same by a program that leaves the rules alone. -/
structure Posted (env : ContractEnv) (w w' : State) (postings : List Posting) : Prop extends
    Booked env w w' postings where
  rules : SameRules w w'

namespace Posted

variable {env : ContractEnv} {w w₁ w₂ : State} {first second : List Posting}

theorem nil (same : Undisturbed w w₁) : Posted env w w₁ [] :=
  ⟨⟨trivial, same.book⟩, same.rules⟩

theorem append (before : Posted env w w₁ first) (after : Posted env w₁ w₂ second) :
    Posted env w w₂ (first ++ second) where
  rules := after.rules.trans before.rules
  allowed := by
    refine allAllowed_append.mpr ⟨before.allowed, ?_⟩
    have allowed := after.allowed
    rwa [before.rules, before.book] at allowed
  book := by
    rw [after.book, before.rules, before.book, applyAll_append]

variable {α β : Type}

/-- Steps beside the book may come first. -/
theorem skip {m : M α} {f : α → M β} [Keeps Undisturbed m]
    {postings : β → List Posting}
    (rest : ∀ a w₁, Undisturbed w w₁ →
      wlp (f a) (fun b w' => Posted env w₁ w' (postings b)) env w₁) :
    wlp (m >>= f) (fun b w' => Posted env w w' (postings b)) env w :=
  wlp_seq (wlp_of_keeps (R := Undisturbed)) fun a w₁ same =>
    wlp_mono (rest a w₁ same) fun _ _ posted => (Posted.nil same).append posted

/-- Steps beside the book may come last. -/
theorem rest {m : M α} [Keeps Undisturbed m] {postings : List Posting}
    (posted : Posted env w w₁ postings) : wlp m (fun _ w' => Posted env w w' postings) env w₁ :=
  wlp_mono (wlp_of_keeps (R := Undisturbed)) fun _ _ same => by
    simpa using posted.append (.nil same)

end Posted

section Batches

variable {α : Type} {env : ContractEnv} {judge : α → M EntryVerdict}

/-- What the entries a batch accepts do one by one, the loop does. -/
theorem batchLoop_does {R : State → State → List α → Prop} (nothing : ∀ w, R w w [])
    (append : ∀ {w w₁ w₂ first second}, R w w₁ first → R w₁ w₂ second → R w w₂ (first ++ second))
    (judged : ∀ entry w, wlp (judge entry)
      (fun verdict w' => R w w' (if verdict.accepted then [entry] else [])) env w)
    (entries : List α) (w : State) :
    wlp (batchLoop judge entries)
      (fun progress w' => progress.results.length = entries.length ∧
        R w w' (acceptedEntries entries progress.results)) env w := by
  unfold batchLoop
  refine wlp_mono (wlp_fold (I := fun rest (progress : BatchProgress) w' => ∃ done,
    entries = done ++ rest ∧ progress.results.length = done.length ∧
      R w w' (acceptedEntries done progress.results)) ?_ entries _ w ?_) ?_
  · rintro entry rest progress w₁ ⟨done, split, counted, did⟩
    unfold batchStep
    refine wlp_seq (judged entry w₁) fun verdict w₂ step => ?_
    rw [wlp_pure]
    refine ⟨done ++ [entry], by simp [split], by simp [BatchProgress.push, counted], ?_⟩
    rw [BatchProgress.push, acceptedEntries_snoc counted]
    exact append did step
  · exact ⟨[], rfl, rfl, nothing w⟩
  · rintro progress w' ⟨done, split, counted, did⟩
    rw [List.append_nil] at split
    subst split
    exact ⟨counted, did⟩

/-- The loop posts the entries it accepts. -/
theorem batchLoop_posted {post : α → Posting}
    (judged : ∀ entry w, wlp (judge entry)
      (fun verdict w' => Posted env w w' (if verdict.accepted then [post entry] else [])) env w)
    (entries : List α) (w : State) :
    wlp (batchLoop judge entries)
      (fun progress w' => progress.results.length = entries.length ∧
        Posted env w w' ((acceptedEntries entries progress.results).map post)) env w := by
  refine batchLoop_does (R := fun w w' accepted => Posted env w w' (accepted.map post))
    (fun _ => .nil (Std.Refl.refl _)) (fun {_ _ _ first second} before after => ?_) ?_ entries w
  · rw [List.map_append]
    exact before.append after
  · intro entry w₁
    refine wlp_mono (judged entry w₁) fun verdict w₂ posted => ?_
    cases accepted : verdict.accepted <;> simpa [accepted] using posted

end Batches

section Entries

variable {env : ContractEnv} {threshold : Nat} {ns : NormalizedSubmission}

section

variable {w : State} {versionSet : List Nat}

/-- The book after the writes both batches make for an accepted entry. -/
theorem enterBatchEntry_book {isNew : Bool} {m : M Unit} {Q : Unit → State → Prop}
    (rest : ∀ w₁ : State, (isNew = true → (scoreBook w.ledger).total + 1 < u64Bound) →
      scoreBook w₁.ledger = (((scoreBook w.ledger).stamp env.timestamp
        (ns.wallet, ns.assetPair)).put (ns.wallet, ns.assetPair) ns.toRiskScore).enter
          (rulesOf w.ledger) (ns.wallet, ns.assetPair) ns.toRiskScore isNew → wlp m Q env w₁) :
    wlp (do
        store .persistent (.lastSubmitTime ns.wallet ns.assetPair) (← now)
        setScore ns.wallet ns.assetPair ns.toRiskScore
        enterSubmission ns.wallet ns.assetPair ns.toRiskScore isNew
        m) Q env w := by
  rw [wlp_bind, wlp_asks]
  refine wlp_seq stampSubmit_book ?_
  intro _ w₁ ⟨book₁, rules₁⟩
  refine wlp_seq (wlp_and setScore_book (wlp_of_keeps (R := SameRules))) ?_
  intro _ w₂ ⟨book₂, rules₂⟩
  refine wlp_seq enterSubmission_book ?_
  intro _ w₃ ⟨bounded, book₃⟩
  have rules₂ : rulesOf w₂.ledger = rulesOf w.ledger := rules₂.trans rules₁
  rw [book₂, book₁] at bounded book₃
  rw [rules₂] at book₃
  exact rest w₃ bounded book₃

theorem writeBatchEntry_book {previous : Option Nat} :
    wlp (writeBatchEntry threshold ns previous)
      (fun _ w' => SameRules w w' ∧
        (previous = none → (scoreBook w.ledger).total + 1 < u64Bound) ∧
        scoreBook w'.ledger = ((((scoreBook w.ledger).stamp env.timestamp
          (ns.wallet, ns.assetPair)).put (ns.wallet, ns.assetPair) ns.toRiskScore).enter
            (rulesOf w.ledger) (ns.wallet, ns.assetPair) ns.toRiskScore previous.isNone).observe
              (ns.wallet, ns.assetPair) ns.score previous)
      env w := by
  refine wlp_and wlp_of_keeps ?_
  unfold writeBatchEntry
  refine enterBatchEntry_book fun w₁ bounded book₁ => ?_
  refine wlp_seq (wlp_of_keeps (R := SameScoreBook)) fun _ w₂ book₂ => ?_
  refine wlp_seq updateStatistics_book ?_
  intro _ w₃ book₃
  rw [book₂, book₁] at book₃
  refine wlp_mono (wlp_of_keeps (R := SameScoreBook)) fun _ w₄ book₄ => ?_
  exact ⟨fun unscored => bounded (by rw [unscored]; rfl), book₄.trans book₃⟩

theorem writeAttestedEntry_book {previous : Option Nat} :
    wlp (writeAttestedEntry threshold ns previous)
      (fun _ w' => SameRules w w' ∧
        (previous = none → (scoreBook w.ledger).total + 1 < u64Bound) ∧
        scoreBook w'.ledger = (((scoreBook w.ledger).stamp env.timestamp
          (ns.wallet, ns.assetPair)).put (ns.wallet, ns.assetPair) ns.toRiskScore).enter
            (rulesOf w.ledger) (ns.wallet, ns.assetPair) ns.toRiskScore previous.isNone)
      env w := by
  refine wlp_and wlp_of_keeps ?_
  unfold writeAttestedEntry
  refine enterBatchEntry_book fun w₁ bounded book₁ => ?_
  refine wlp_mono (wlp_of_keeps (R := SameScoreBook)) fun _ w₂ book₂ => ?_
  exact ⟨fun unscored => bounded (by rw [unscored]; rfl), book₂.trans book₁⟩

/-- A verdict against an entry posts nothing. -/
theorem rejected_posted {post : Posting} {code : Nat} :
    wlp (pure (.reject code) : M EntryVerdict)
      (fun verdict w' => Posted env w w' (if verdict.accepted then [post] else [])) env w :=
  (wlp_pure _).mpr (.nil (Std.Refl.refl _))

/-- The velocity cap of a batch entry, and its write if the score passes. -/
theorem judgeByCap_posted {write : Option Nat → M Unit} {post : Posting} {w : State}
    (writes : ∀ w₁ : State, rulesOf w₁.ledger = rulesOf w.ledger →
      scoreBook w₁.ledger =
        (scoreBook w.ledger).useOverride (rulesOf w.ledger) (ns.wallet, ns.assetPair) →
      (scoreBook w.ledger).WithinCap (rulesOf w.ledger) env.timestamp (ns.wallet, ns.assetPair)
        ns.score →
      wlp (write ((scoreBook w.ledger).previous (ns.wallet, ns.assetPair)))
        (fun _ w' => Posted env w w' [post]) env w₁) :
    wlp (do
        let previousScore := (← peekScore ns.wallet ns.assetPair).map RiskScore.score
        if (← velocityCapBlocks ns.wallet ns.assetPair previousScore
            ((scoreBook w.ledger).lastSubmit (ns.wallet, ns.assetPair)) ns.score) then
          return EntryVerdict.reject Error.rateLimitExceeded.code
        else
          write previousScore
          return EntryVerdict.accept)
      (fun verdict w' => Posted env w w' (if verdict.accepted then [post] else [])) env w := by
  rw [wlp_bind, wlp_load]
  refine wlp_seq (wlp_and velocityCapBlocks_book
    (wlp_of_keeps (R := SameRules))) fun blocked w₁ ⟨verdict, rules₁⟩ => ?_
  cases blocked with
  | true =>
    rw [if_pos rfl] at verdict
    subst verdict
    exact rejected_posted
  | false =>
    rw [if_neg Bool.false_ne_true] at verdict
    rw [wlp_ite, if_neg Bool.false_ne_true]
    refine wlp_seq (writes w₁ rules₁ verdict.2 verdict.1) fun _ w₂ posted => ?_
    exact (wlp_pure _).mpr posted

theorem judgeValidEntry_posted (le : ns.score ≤ 100) :
    wlp (judgeValidEntry threshold ns)
      (fun verdict w' => Posted env w w' (if verdict.accepted then
        [.batched (ns.wallet, ns.assetPair) ns.toRiskScore] else [])) env w := by
  unfold judgeValidEntry
  rw [wlp_bind, wlp_loadOr, wlp_bind, wlp_getEffectiveCooldown, wlp_bind, wlp_asks, wlp_ite]
  split
  · exact rejected_posted
  · next rested =>
    rw [Bool.not_eq_true', Bool.not_eq_false] at rested
    rw [wlp_bind]
    refine wlp_scoreFloorBlocks (fun floor => ?_) rejected_posted
    rw [wlp_ite, if_neg Bool.false_ne_true]
    refine judgeByCap_posted fun w₁ rules₁ book₁ cap => ?_
    refine wlp_mono writeBatchEntry_book ?_
    intro _ w' ⟨rules', bounded, book'⟩
    rw [book₁] at bounded
    rw [rules₁, book₁] at book'
    exact ⟨⟨⟨⟨le, rested, cap, floor, bounded⟩, trivial⟩, book'⟩, rules'.trans rules₁⟩

theorem judgeAttestedPolicy_posted (le : ns.score ≤ 100) :
    wlp (judgeAttestedPolicy threshold ns)
      (fun verdict w' => Posted env w w' (if verdict.accepted then
        [.attested (ns.wallet, ns.assetPair) ns.toRiskScore] else [])) env w := by
  unfold judgeAttestedPolicy
  rw [wlp_bind, wlp_loadOr, wlp_bind, wlp_getEffectiveCooldown, wlp_bind, wlp_asks, wlp_ite]
  split
  · exact rejected_posted
  · next rested =>
    rw [Bool.not_eq_true', Bool.not_eq_false] at rested
    refine judgeByCap_posted fun w₁ rules₁ book₁ cap => ?_
    refine wlp_mono writeAttestedEntry_book ?_
    intro _ w' ⟨rules', bounded, book'⟩
    rw [book₁] at bounded
    rw [rules₁, book₁] at book'
    exact ⟨⟨⟨⟨le, rested, cap, bounded⟩, trivial⟩, book'⟩, rules'.trans rules₁⟩

/-- With versions registered, no attested entry is accepted. -/
theorem judgeRegisteredVersion_posted {post : Posting} {version : Nat} :
    wlp (judgeRegisteredVersion version)
      (fun verdict w' => Posted env w w' (if verdict.accepted then [post] else [])) env w := by
  unfold judgeRegisteredVersion
  refine Posted.skip fun status w₁ _ => ?_
  simp only [wlp_ite]
  split_ifs
  · exact (wlp_pure _).mpr (.nil (Std.Refl.refl _))
  · exact rejected_posted
  · exact rejected_posted
  · exact rejected_posted

theorem judgeProvenEntry_posted :
    wlp (judgeProvenEntry threshold versionSet ns)
      (fun verdict w' => Posted env w w' (if verdict.accepted then
        [.attested (ns.wallet, ns.assetPair) ns.toRiskScore] else [])) env w := by
  unfold judgeProvenEntry
  simp only [wlp_ite]
  split_ifs with high confident dated unregistered registered
  · exact rejected_posted
  · exact rejected_posted
  · exact rejected_posted
  · exact rejected_posted
  · exact judgeRegisteredVersion_posted
  · exact judgeAttestedPolicy_posted (Nat.not_lt.mp high)

theorem judgeEntry_posted {sub : ScoreSubmission} {w : State} :
    wlp (judgeEntry threshold sub)
      (fun verdict w' => Posted env w w' (if verdict.accepted then
        [.batched (sub.wallet, sub.assetPair) sub.normalize.toRiskScore] else [])) env w := by
  unfold judgeEntry
  rw [wlp_ite]
  split
  · exact rejected_posted
  · rw [wlp_bind, wlp_loadOr, wlp_ite]
    split
    · exact rejected_posted
    · refine wlp_handle (fun e w₁ failed => ?_) ?_
      · exact (wlp_pure _).mpr (.nil (Keeps.err failed))
      · refine wlp_mono (wlp_and validateFields_le (wlp_of_keeps (R := Undisturbed))) ?_
        intro _ w₁ ⟨⟨le, _⟩, same⟩
        refine wlp_mono (judgeValidEntry_posted le) ?_
        exact fun _ _ posted => (Posted.nil same).append posted

theorem judgeAttestedEntry_posted {root : BytesN 32} {entry : ScoreSubmissionWithProof}
    {w : State} :
    wlp (judgeAttestedEntry threshold versionSet root entry)
      (fun verdict w' => Posted env w w' (if verdict.accepted then
        [.attested (entry.submission.wallet, entry.submission.assetPair)
          entry.submission.normalize.toRiskScore] else [])) env w := by
  unfold judgeAttestedEntry
  rw [wlp_ite]
  split
  · exact rejected_posted
  · refine wlp_handle (fun e w₁ failed => (wlp_pure _).mpr (.nil (Keeps.err failed))) ?_
    refine wlp_mono (wlp_of_keeps (R := Undisturbed)) fun leaf w₁ same => ?_
    refine wlp_mono (Posted.skip fun verified w₂ _ => ?_) fun _ _ => (Posted.nil same).append
    rw [wlp_ite]
    split
    · exact rejected_posted
    · exact judgeProvenEntry_posted

end

theorem submitScoresBatch_posted {subs : List ScoreSubmission} {w : State} :
    wlp (submitScoresBatch subs)
      (fun result w' => Posted env w w' ((acceptedEntries subs result.results).map
        fun sub => .batched (sub.wallet, sub.assetPair) sub.normalize.toRiskScore)) env w := by
  unfold submitScoresBatch
  iterate 7 refine Posted.skip fun _ _ _ => ?_
  refine Posted.skip fun threshold w₁ _ => ?_
  refine wlp_seq (batchLoop_posted (fun _ _ => judgeEntry_posted) subs w₁) ?_
  intro progress w₂ ⟨_, posted⟩
  rw [wlp_bind]
  exact wlp_mono posted.rest fun _ _ posted => (wlp_pure _).mpr posted

theorem submitScoresBatchAttested_posted {signers : List Address}
    {subs : List ScoreSubmissionWithProof} {attestation : BatchAttestation} {w : State} :
    wlp (submitScoresBatchAttested signers subs attestation)
      (fun result w' => Posted env w w' ((acceptedEntries subs result.results).map
        fun entry => .attested (entry.submission.wallet, entry.submission.assetPair)
          entry.submission.normalize.toRiskScore)) env w := by
  unfold submitScoresBatchAttested
  iterate 11 refine Posted.skip fun _ _ _ => ?_
  refine Posted.skip fun threshold _ _ => ?_
  refine Posted.skip fun versionSet w₁ _ => ?_
  refine wlp_seq (batchLoop_posted (fun _ _ => judgeAttestedEntry_posted) subs w₁) ?_
  intro progress w₂ ⟨_, posted⟩
  refine wlp_seq posted.rest fun _ w₃ posted => wlp_seq posted.rest fun _ w₄ posted => ?_
  exact wlp_seq posted.rest fun _ w₅ posted => (wlp_pure _).mpr posted

end Entries

/-! ### Single subs -/

/-- A submission as it is parked. -/
def NormalizedSubmission.park (ns : NormalizedSubmission) (time buffer : Nat)
    (submittedBy : Address) : PendingScoreEntry where
  score := ns.score
  benfordFlag := ns.benfordFlag
  mlFlag := ns.mlFlag
  submittedAt := time
  confidence := ns.confidence
  modelVersion := ns.modelVersion
  timestamp := ns.timestamp
  commitAfter := satAdd64 time buffer
  submittedBy := submittedBy
  commitment := ns.commitment

/-- The submission that a call of `submit_score` makes. -/
def ScoreSubmission.submitted (sub : ScoreSubmission) (input : Option ScoreAttestationInput) :
    NormalizedSubmission :=
  { sub.normalize with commitment := input.bind ScoreAttestationInput.commitment }

/-- What a single submission posts: its score, or the score parked for the buffer in force. -/
def landing (env : ContractEnv) (w : State) (signers : List Address) (ns : NormalizedSubmission) :
    List Posting :=
  if (rulesOf w.ledger).buffer = 0 then [.direct (ns.wallet, ns.assetPair) ns.toRiskScore]
  else (submitterIn w signers).toList.map fun submittedBy =>
    .parked (ns.wallet, ns.assetPair)
      (ns.park env.timestamp (rulesOf w.ledger).buffer submittedBy)

section Single

variable {env : ContractEnv} {w w₁ : State}

theorem landing_congr (same : Undisturbed w w₁) : landing env w₁ = landing env w := by
  funext signers ns
  unfold landing
  rw [same.rules, same.submitter]

theorem writeScoreWithRateLimit_posted {wallet : Address} {pair : Symbol}
    {score : RiskScore} :
    wlp (writeScoreWithRateLimit wallet pair score)
      (fun _ w' => Posted env w w' [.direct (wallet, pair) score]) env w := by
  refine wlp_mono (wlp_and writeScoreWithRateLimit_book (wlp_of_keeps (R := SameRules))) ?_
  intro _ w' ⟨⟨admits, bounded, book⟩, rules⟩
  exact ⟨⟨⟨⟨admits, bounded⟩, trivial⟩, book⟩, rules⟩

theorem Posted.live_of_direct {w' : State} {entry : Entry} {score : RiskScore}
    (posted : Posted env w w' [.direct entry score]) :
    (scoreBook w'.ledger).live entry = some score := by
  rw [posted.book]
  exact Function.update_self ..

section

variable {signers : List Address} {ns : NormalizedSubmission}

theorem submitterOf_spec :
    wlp (submitterOf signers) (fun account w' => w' = w ∧ submitterIn w signers = some account)
      env w := by
  have service : wlp getService
      (fun account w' => w' = w ∧ w.ledger.entry .inst .service = some account) env w := by
    rw [wlp_bind, wlp_load]
    intro account w' ran
    obtain ⟨found, rfl⟩ := unwrap_ok.mp ran
    exact ⟨rfl, found⟩
  unfold submitterOf submitterIn
  rw [wlp_bind, wlp_loadOr, wlp_ite]
  split
  · exact service
  · cases signers.head? with
    | none => exact service
    | some account => exact (wlp_pure _).mpr ⟨rfl, rfl⟩

theorem bufferScore_posted (le : ns.score ≤ 100) (buffered : (rulesOf w.ledger).buffer ≠ 0) :
    wlp (bufferScore signers ns (rulesOf w.ledger).buffer)
      (fun _ w' => Posted env w w' (landing env w signers ns)) env w := by
  refine wlp_mono (wlp_and ?_ (wlp_of_keeps (R := SameRules)))
    (fun _ w' ⟨⟨account, isSubmitter, allowed, book⟩, rules⟩ => ?_)
    (P := fun _ w' => (∃ account, submitterIn w signers = some account ∧
      (Posting.parked (ns.wallet, ns.assetPair)
        (ns.park env.timestamp (rulesOf w.ledger).buffer account)).Allowed
          (rulesOf w.ledger) env.timestamp (scoreBook w.ledger) ∧
      scoreBook w'.ledger = (Posting.parked (ns.wallet, ns.assetPair)
        (ns.park env.timestamp (rulesOf w.ledger).buffer account)).apply
          (rulesOf w.ledger) env.timestamp (scoreBook w.ledger)) ∧ SameRules w w')
  · unfold bufferScore
    rw [wlp_bind, wlp_loadOr, wlp_bind, wlp_getEffectiveCooldown, wlp_bind, wlp_asks, wlp_bind,
      wlp_require]
    intro rested
    refine wlp_seq (wlp_and stampSubmit_book (wlp_of_keeps (R := SameSubmitter))) ?_
    intro _ w₁ ⟨⟨book₁, _⟩, submitter₁⟩
    refine wlp_seq (wlp_of_keeps (R := Undisturbed)) fun _ w₂ same₂ => ?_
    refine wlp_seq submitterOf_spec ?_
    rintro account _ ⟨rfl, isSubmitter⟩
    rw [wlp_bind, wlp_save, wlp_emit]
    rw [same₂.submitter, submitter₁] at isSubmitter
    refine ⟨account, isSubmitter, ⟨rested, le, rfl⟩, ?_⟩
    rw [scoreBook_put_parked, same₂.book, book₁]
    rfl
  · rw [landing, if_neg buffered, isSubmitter]
    exact ⟨⟨⟨allowed, trivial⟩, book⟩, rules⟩

theorem landScore_posted (le : ns.score ≤ 100) :
    wlp (landScore signers ns (rulesOf w.ledger).buffer)
      (fun _ w' => Posted env w w' (landing env w signers ns)) env w := by
  unfold landScore
  rw [wlp_ite]
  split
  · next unbuffered =>
    rw [landing, if_pos unbuffered]
    exact wlp_seq writeScoreWithRateLimit_posted fun _ _ posted => posted.rest
  · next buffered => exact bufferScore_posted le buffered

theorem finalizeScoreSubmission_posted :
    wlp (finalizeScoreSubmission signers ns)
      (fun _ w' => Posted env w w' (landing env w signers ns)) env w := by
  unfold finalizeScoreSubmission
  refine wlp_seq (wlp_and validateFields_le (wlp_of_keeps (R := Undisturbed))) ?_
  intro _ w₁ ⟨⟨le, _⟩, same₁⟩
  refine wlp_mono (P := fun _ w' => Posted env w₁ w' (landing env w signers ns)) ?_
    fun _ _ posted => (Posted.nil same₁).append posted
  rw [← landing_congr same₁]
  refine Posted.skip fun _ w₂ same₂ => ?_
  rw [← landing_congr same₂, wlp_bind, wlp_loadOr]
  refine Posted.skip fun _ w₃ same₃ => Posted.skip fun _ w₄ same₄ => ?_
  rw [← landing_congr same₃, ← landing_congr same₄]
  have unbuffered : rulesOf w₄.ledger = rulesOf w₂.ledger := same₄.rules.trans same₃.rules
  change wlp (landScore signers ns (rulesOf w₂.ledger).buffer) _ _ _
  rw [← unbuffered]
  exact landScore_posted le

theorem submitScore_posted {sub : ScoreSubmission} {input : Option ScoreAttestationInput} :
    wlp (submitScore signers sub input)
      (fun _ w' => Posted env w w' (landing env w signers (sub.submitted input))) env w := by
  unfold submitScore
  refine Posted.skip fun _ w₁ same₁ => Posted.skip fun _ w₂ same₂ => ?_
  refine Posted.skip fun _ w₃ same₃ => ?_
  rw [← landing_congr same₁, ← landing_congr same₂, ← landing_congr same₃]
  exact finalizeScoreSubmission_posted

end

theorem acceptRelay_posted {relayer : Address} {sub : ScoreSubmission}
    {attestation : RelayScoreAttestation} {digest : BytesN 32} :
    wlp (acceptRelay relayer sub attestation digest)
      (fun _ w' => Posted env w w' (landing env w [] sub.normalize)) env w := by
  unfold acceptRelay
  refine Posted.skip fun _ w₁ same₁ => Posted.skip fun _ w₂ same₂ => ?_
  refine Posted.skip fun _ w₃ same₃ => Posted.skip fun _ w₄ same₄ => ?_
  refine Posted.skip fun _ w₅ same₅ => Posted.skip fun _ w₆ same₆ => ?_
  refine Posted.skip fun _ w₇ same₇ => ?_
  rw [← landing_congr same₁, ← landing_congr same₂, ← landing_congr same₃, ← landing_congr same₄,
    ← landing_congr same₅, ← landing_congr same₆, ← landing_congr same₇]
  exact wlp_seq finalizeScoreSubmission_posted fun _ w₈ posted => posted.rest

theorem relayAttestedScore_posted {relayer : Address} {sub : ScoreSubmission}
    {attestation : RelayScoreAttestation} :
    wlp (relayAttestedScore relayer sub attestation)
      (fun took w' => Posted env w w' (if took then landing env w [] sub.normalize else [])) env
      w := by
  unfold relayAttestedScore
  refine Posted.skip fun _ w₁ same₁ => Posted.skip fun _ w₂ same₂ => ?_
  refine Posted.skip fun _ w₃ same₃ => Posted.skip fun _ w₄ same₄ => ?_
  refine Posted.skip fun _ w₅ same₅ => Posted.skip fun _ w₆ same₆ => ?_
  refine Posted.skip fun _ w₇ same₇ => Posted.skip fun _ w₈ same₈ => ?_
  refine Posted.skip fun used w₉ same₉ => ?_
  rw [← landing_congr same₁, ← landing_congr same₂, ← landing_congr same₃, ← landing_congr same₄,
    ← landing_congr same₅, ← landing_congr same₆, ← landing_congr same₇, ← landing_congr same₈,
    ← landing_congr same₉, wlp_ite]
  split
  · exact Posted.skip fun _ w' _ => (wlp_pure _).mpr (.nil (Std.Refl.refl _))
  · rw [wlp_bind]
    exact wlp_mono acceptRelay_posted fun _ _ posted => (wlp_pure _).mpr posted

variable {signers : List Address} {wallet : Address} {pair : Symbol}
  {votes : List ModelSubmission}

theorem submitConsensusScore_posted {timestamp : Nat} :
    wlp (submitConsensusScore signers wallet pair votes timestamp)
      (fun _ w' => Posted env w w' ((directScore env w wallet pair timestamp votes).toList.map
        (.direct (wallet, pair)))) env w := by
  refine wlp_submitConsensusScore signers fun score w₁ _ same isMedian => ?_
  rw [directScore, isMedian]
  refine wlp_mono (Posted.skip fun _ _ _ => Posted.skip fun _ _ _ => ?_)
    fun _ _ => (Posted.nil same).append
  exact wlp_seq writeScoreWithRateLimit_posted fun _ _ posted => posted.rest

theorem revealConsensus_posted {nonces : List Nat} {timestamp : Nat} :
    wlp (revealConsensus signers wallet pair votes nonces timestamp)
      (fun _ w' => Posted env w w'
        ((revealedScore env w wallet pair timestamp votes).toList.map
        (.direct (wallet, pair)))) env w := by
  refine wlp_revealConsensus signers fun score w₁ _ same _ isMean => ?_
  rw [revealedScore, isMean]
  refine wlp_mono (Posted.skip fun _ _ _ => Posted.skip fun _ _ _ => ?_)
    fun _ _ => (Posted.nil same).append
  exact wlp_seq writeScoreWithRateLimit_posted fun _ _ posted => posted.rest

/-- A single posting, found by what it does to the book. -/
theorem posted_of_book {α : Type} {m : M α} [Keeps SameRules m] {posting : Posting}
    (made : wlp m (fun _ w' =>
      posting.Allowed (rulesOf w.ledger) env.timestamp (scoreBook w.ledger) ∧
      scoreBook w'.ledger =
        posting.apply (rulesOf w.ledger) env.timestamp (scoreBook w.ledger)) env w) :
    wlp m (fun _ w' => Posted env w w' [posting]) env w :=
  wlp_mono (wlp_and made (wlp_of_keeps (R := SameRules)))
    fun _ _ ⟨⟨allowed, book⟩, rules⟩ => ⟨⟨⟨allowed, trivial⟩, book⟩, rules⟩

/-- The counters of a path that does not look at the live score. -/
theorem enterCorrection_book {score : RiskScore} {β : Type} {m : M β} {Q : β → State → Prop}
    (rest : ∀ w₁ : State, scoreBook w₁.ledger =
      (scoreBook w.ledger).correct (rulesOf w.ledger) (wallet, pair) score →
      wlp m Q env w₁) :
    wlp (do
        setScore wallet pair score
        pushScoreHistory wallet pair score
        registerPairForWallet wallet pair
        incrementScoreCount wallet pair
        incrementPairScoreCount pair
        m) Q env w := by
  refine wlp_seq (wlp_and setScore_book (wlp_of_keeps (R := SameRules))) ?_
  intro _ w₁ ⟨book₁, rules₁⟩
  refine wlp_seq pushScoreHistory_book fun _ w₂ book₂ => ?_
  refine wlp_seq (wlp_of_keeps (R := SameScoreBook)) fun _ w₃ book₃ => ?_
  refine wlp_seq incrementScoreCount_book fun _ w₄ book₄ => ?_
  refine wlp_seq incrementPairScoreCount_book fun _ w₅ book₅ => ?_
  refine rest w₅ ?_
  rw [book₅, book₄, book₃, book₂, book₁, rules₁]
  rfl

theorem commitPendingScore_posted :
    wlp (commitPendingScore wallet pair)
      (fun _ w' => Posted env w w'
        (((scoreBook w.ledger).parked (wallet, pair)).toList.map
          (.committed (wallet, pair)))) env w := by
  cases found : (scoreBook w.ledger).parked (wallet, pair) with
  | none =>
    unfold commitPendingScore
    rw [wlp_bind, wlp_loadOr, wlp_bind, wlp_require]
    intro _
    rw [wlp_bind, wlp_load, wlp_bind, wlp_okOr]
    intro pending isParked
    change (scoreBook w.ledger).parked (wallet, pair) = some pending at isParked
    rw [found] at isParked
    cases isParked
  | some pending =>
    refine posted_of_book ?_
    unfold commitPendingScore
    rw [wlp_bind, wlp_loadOr, wlp_bind, wlp_require]
    intro _
    rw [wlp_bind, wlp_load, wlp_bind, wlp_okOr]
    intro other isParked
    obtain rfl : pending = other := Option.some.inj (found.symm.trans isParked)
    rw [wlp_bind, wlp_asks, wlp_bind, wlp_require]
    intro due
    rw [wlp_bind, wlp_load]
    refine enterCorrection_book fun w₁ book₁ => ?_
    rw [wlp_bind, wlp_loadOr]
    refine wlp_seq enroll_book fun _ w₂ ⟨_, book₂⟩ => ?_
    refine wlp_seq (wlp_of_keeps (R := SameScoreBook)) fun _ w₃ book₃ => ?_
    refine wlp_seq (wlp_of_keeps (R := SameScoreBook)) fun _ w₄ book₄ => ?_
    refine wlp_seq (wlp_of_keeps (R := SameScoreBook)) fun _ w₅ book₅ => ?_
    refine wlp_seq (wlp_of_keeps (R := SameScoreBook)) fun _ w₆ book₆ => ?_
    rw [wlp_bind, wlp_erase, wlp_emit]
    refine ⟨⟨found, of_decide_eq_true due⟩, ?_⟩
    have counted : (scoreBook w₁.ledger).count (wallet, pair) =
        (scoreBook w.ledger).count (wallet, pair) + 1 := by
      rw [book₁]
      exact Function.update_self ..
    have isNew : decide ((scoreBook w₁.ledger).count (wallet, pair) = 1) =
        decide ((scoreBook w.ledger).count (wallet, pair) = 0) := by
      simp [counted]
    rw [scoreBook_put_parked, book₆, book₅, book₄, book₃, book₂.trans (congrArg _ isNew), book₁]
    rfl

theorem cancelPendingScore_posted :
    wlp (cancelPendingScore signers wallet pair)
      (fun _ w' => Posted env w w' [.cancelled (wallet, pair)]) env w := by
  unfold cancelPendingScore
  refine Posted.skip fun _ _ _ => Posted.skip fun _ _ _ => Posted.skip fun _ w₁ _ => ?_
  refine posted_of_book ?_
  rw [wlp_bind, wlp_load, wlp_bind, wlp_require]
  intro isParked
  rw [wlp_bind, wlp_erase]
  refine wlp_mono (wlp_of_keeps (R := SameScoreBook)) fun _ w' book' => ?_
  exact ⟨isParked, book'.trans (scoreBook_put_parked ..)⟩

set_option synthInstance.maxSize 100000000 in
theorem resolveDisputeAdmin_posted {correctedScore : Nat} :
    wlp (resolveDisputeAdmin signers wallet pair correctedScore)
      (fun _ w' => Posted env w w'
        [.corrected (wallet, pair) (correctedRiskScore correctedScore env.timestamp)])
      env w := by
  unfold resolveDisputeAdmin
  iterate 6 refine Posted.skip fun _ _ _ => ?_
  refine Posted.skip fun _ w₁ _ => posted_of_book ?_
  rw [wlp_bind, wlp_require]
  intro le
  rw [wlp_bind, wlp_load, wlp_bind, wlp_okOr]
  intro dispute _
  rw [wlp_bind, wlp_load, wlp_bind, wlp_okOr]
  intro token _
  rw [wlp_bind, wlp_asks]
  refine enterCorrection_book fun w₂ book₂ => ?_
  refine wlp_mono (wlp_of_keeps (R := SameScoreBook)) fun _ w' book' => ?_
  exact ⟨(of_decide_eq_true le : correctedScore ≤ 100), book'.trans book₂⟩

theorem uncountScore_book :
    wlp (uncountScore wallet pair)
      (fun _ w' => scoreBook w'.ledger =
        (scoreBook w.ledger).uncountLive (wallet, pair)) env w := by
  unfold uncountScore ScoreBook.uncountLive
  rw [wlp_bind, wlp_load]
  change wlp (ifSome ((scoreBook w.ledger).live (wallet, pair)) _) _ _ _
  cases (scoreBook w.ledger).live (wallet, pair) with
  | none => exact (wlp_pure ()).mpr rfl
  | some risk => exact updateHistogramOnClear_book

theorem clearScoreHistoryWithAudit_posted {reason category : Bytes} :
    wlp (clearScoreHistoryWithAudit signers wallet pair reason category)
      (fun _ w' => Posted env w w' [.historyCleared (wallet, pair)]) env w := by
  unfold clearScoreHistoryWithAudit
  iterate 3 refine Posted.skip fun _ _ _ => ?_
  refine Posted.skip fun _ w₁ _ => posted_of_book ?_
  refine wlp_seq uncountScore_book fun _ w₂ book₂ => ?_
  rw [wlp_bind, wlp_erase, wlp_emit]
  refine ⟨trivial, ?_⟩
  rw [scoreBook_put_history, book₂]
  rfl

theorem clearScoreWithAudit_posted {reason category : Bytes} :
    wlp (clearScoreWithAudit signers wallet pair reason category)
      (fun _ w' => Posted env w w' [.cleared (wallet, pair)]) env w := by
  unfold clearScoreWithAudit
  iterate 5 refine Posted.skip fun _ _ _ => ?_
  refine Posted.skip fun _ w₁ _ => ?_
  refine posted_of_book ?_
  refine wlp_seq uncountScore_book fun _ w₂ book₂ => ?_
  unfold clearScore
  rw [wlp_bind, wlp_bind, wlp_erase]
  refine wlp_mono (wlp_of_keeps (R := SameScoreBook)) fun _ w₃ book₃ => ?_
  rw [wlp_emit]
  refine ⟨trivial, book₃.trans ?_⟩
  rw [scoreBook_put_live, book₂]
  rfl

/-! ### Contagion -/

/-- The score contagion leaves, if it differs from the one before. -/
def raisedScore (time boost : Nat) (book : ScoreBook) (entry : Entry) : Option RiskScore :=
  let old := (book.live entry).getD (unscored time)
  let newScore := min (satAdd32 old.score boost) 100
  if newScore ≠ old.score then some { old with score := newScore } else none

/-- The counterparties whose scores contagion raises, one after the other. -/
def infections (time boost : Nat) (pair : Symbol) : ScoreBook → List Address → List Posting
  | _, [] => []
  | book, counterparty :: rest =>
    (raisedScore time boost book (counterparty, pair)).elim
      (infections time boost pair book rest) fun score =>
        .infected (counterparty, pair) score ::
          infections time boost pair (book.put (counterparty, pair) score) rest

theorem raisedScore_allowed {time boost now : Nat} {rules : Rules} {book : ScoreBook}
    {entry : Entry} {score : RiskScore}
    (raised : raisedScore time boost book entry = some score) :
    (Posting.infected entry score).Allowed rules now book := by
  unfold raisedScore at raised
  dsimp only at raised
  split at raised
  · next different =>
    cases raised
    refine ⟨fun same => different ?_, Nat.min_le_right ..⟩
    obtain ⟨old, isLive, equal⟩ := Option.map_eq_some_iff.mp same
    rw [isLive] at equal ⊢
    exact equal.symm
  · cases raised

theorem infect_posted {anchor : Address} {pair : Symbol} {boost affected : Nat}
    {counterparty : Address} :
    wlp (infect anchor pair boost affected counterparty)
      (fun _ w' => Posted env w w'
        ((raisedScore env.timestamp boost (scoreBook w.ledger)
          (counterparty, pair)).toList.map (.infected (counterparty, pair)))) env w := by
  have allowed {score : RiskScore} (raised : raisedScore env.timestamp boost
      (scoreBook w.ledger) (counterparty, pair) = some score) :
      (Posting.infected (counterparty, pair) score).Allowed (rulesOf w.ledger)
        env.timestamp (scoreBook w.ledger) :=
    raisedScore_allowed raised
  unfold infect
  rw [wlp_bind, wlp_asks, wlp_bind, wlp_load]
  unfold raisedScore at allowed ⊢
  change wlp (if min (satAdd32 (((scoreBook w.ledger).live (counterparty, pair)).getD
    (unscored env.timestamp)).score boost) 100 ≠ (((scoreBook w.ledger).live
      (counterparty, pair)).getD (unscored env.timestamp)).score then _ else _) _ _ _
  dsimp only at allowed ⊢
  split
  · next raised =>
    rw [if_pos raised] at allowed
    refine posted_of_book ?_
    refine wlp_seq setScore_book fun _ w₁ book₁ => ?_
    rw [wlp_bind, wlp_emit, wlp_pure]
    exact ⟨allowed rfl, book₁⟩
  · exact (wlp_pure _).mpr (.nil (Std.Refl.refl _))

theorem infectAll_posted (anchor : Address) (pair : Symbol) (boost : Nat) :
    ∀ (counterparties : List Address) (affected : Nat) (w : State),
      wlp (fold (infect anchor pair boost) affected counterparties)
        (fun _ w' => Posted env w w'
          (infections env.timestamp boost pair (scoreBook w.ledger) counterparties)) env w
  | [], affected, w => (wlp_pure affected).mpr (.nil (Std.Refl.refl _))
  | counterparty :: rest, affected, w => by
      refine wlp_seq infect_posted ?_
      intro affected' w₁ posted
      refine wlp_mono (infectAll_posted anchor pair boost rest affected' w₁) ?_
      intro _ w' later
      have book₁ := posted.book
      unfold infections
      cases found : raisedScore env.timestamp boost (scoreBook w.ledger)
          (counterparty, pair) with
      | none =>
        rw [found] at posted book₁
        rw [book₁] at later
        exact posted.append later
      | some score =>
        rw [found] at posted book₁
        rw [book₁] at later
        exact posted.append later

theorem propagateContagion_posted {anchor : Address} {pair : Symbol} {boost : Nat} :
    wlp (propagateContagion anchor pair boost)
      (fun _ w' => Posted env w w' (if dispatching w then [] else
        infections env.timestamp boost pair (scoreBook w.ledger)
          (counterpartiesOf w anchor pair))) env w := by
  unfold propagateContagion
  rw [wlp_bind, wlp_loadOr, wlp_ite]
  split
  · exact (wlp_pure _).mpr (.nil (Std.Refl.refl _))
  · rw [wlp_bind, wlp_loadOr]
    exact infectAll_posted anchor pair boost _ 0 w

/-! ### Overrides -/

/-- A change under the quorum of the administrators that is one posting. -/
theorem asAdmins_posted {α : Type} {signers : List Address} {change : M α}
    {postings : List Posting}
    (posts : ∀ w₁, wlp change (fun _ w' => Posted env w₁ w' postings) env w₁) :
    wlp (asAdmins signers (pure ()) change) (fun _ w' => Posted env w w' postings) env w := by
  unfold asAdmins
  iterate 3 refine Posted.skip fun _ _ _ => ?_
  exact Posted.skip fun _ w₁ _ => posts w₁

theorem liftLimit_posted :
    wlp (remove .persistent (.lastSubmitTime wallet pair))
      (fun _ w' => Posted env w w' [.limitLifted (wallet, pair)]) env w := by
  refine posted_of_book ?_
  rw [wlp_erase]
  exact ⟨trivial, scoreBook_put_lastSubmit ..⟩

variable (env w signers wallet pair) in
theorem overrideRateLimit_posted (justification : Bytes) :
    wlp (overrideRateLimit signers wallet pair justification)
      (fun _ w' => Posted env w w' [.limitLifted (wallet, pair)]) env w := by
  refine asAdmins_posted fun w₁ => Posted.skip fun _ w₂ _ => ?_
  exact wlp_seq liftLimit_posted fun _ _ posted => posted.rest

theorem liftLimits_posted :
    ∀ (entries : List Entry) (w : State),
      wlp (each entries fun entry => remove .persistent (.lastSubmitTime entry.1 entry.2))
        (fun _ w' => Posted env w w' (entries.map .limitLifted)) env w
  | [], w => (wlp_pure ()).mpr (.nil (Std.Refl.refl _))
  | entry :: rest, w => by
      refine wlp_seq liftLimit_posted fun _ w₁ posted => ?_
      exact wlp_mono (liftLimits_posted rest w₁) fun _ _ later => posted.append later

theorem batchOverrideRateLimit_posted {entries : List Entry} :
    wlp (batchOverrideRateLimit signers entries)
      (fun _ w' => Posted env w w' (entries.map .limitLifted)) env w := by
  unfold batchOverrideRateLimit asAdmins
  iterate 3 refine Posted.skip fun _ _ _ => ?_
  refine Posted.skip fun _ w₁ _ => ?_
  exact wlp_seq (liftLimits_posted entries w₁) fun _ _ posted => (wlp_pure _).mpr posted

theorem overrideScoreVelocityCap_posted :
    wlp (overrideScoreVelocityCap signers wallet pair)
      (fun _ w' => Posted env w w' [.capLifted (wallet, pair)]) env w := by
  refine asAdmins_posted fun w₁ => posted_of_book ?_
  rw [wlp_save]
  exact ⟨trivial, scoreBook_put_overridden ..⟩

theorem overrideScoreFloor_posted :
    wlp (overrideScoreFloor signers wallet pair)
      (fun _ w' => Posted env w w' [.floorLifted (wallet, pair)]) env w := by
  refine asAdmins_posted fun w₁ => posted_of_book ?_
  rw [wlp_erase]
  exact ⟨trivial, scoreBook_put_peak ..⟩

end Single

/-! ### Calls and transactions -/

/-- The postings of a call that returns, from the state before it. -/
def postingsOf (env : ContractEnv) (w : State) : Call → List Posting
  | .user (.submitScore signers sub input) => landing env w signers (sub.submitted input)
  | .user (.relayAttestedScore relayer sub attestation) =>
    if (relayAttestedScore relayer sub attestation env w).value? = some true then
      landing env w [] sub.normalize
    else []
  | .user (.submitScoresBatch subs) =>
    (submitScoresBatch subs env w).value?.elim [] fun result =>
      (acceptedEntries subs result.results).map fun sub =>
        .batched (sub.wallet, sub.assetPair) sub.normalize.toRiskScore
  | .user (.submitScoresBatchAttested signers subs attestation) =>
    (submitScoresBatchAttested signers subs attestation env w).value?.elim [] fun result =>
      (acceptedEntries subs result.results).map fun entry =>
        .attested (entry.submission.wallet, entry.submission.assetPair)
          entry.submission.normalize.toRiskScore
  | .user (.revealConsensus _ wallet pair votes _ timestamp) =>
    (revealedScore env w wallet pair timestamp votes).toList.map (.direct (wallet, pair))
  | .user (.submitConsensusScore _ wallet pair votes timestamp) =>
    (directScore env w wallet pair timestamp votes).toList.map (.direct (wallet, pair))
  | .user (.commitPendingScore wallet pair) =>
    ((scoreBook w.ledger).parked (wallet, pair)).toList.map (.committed (wallet, pair))
  | .user (.propagateContagion anchor pair boost) =>
    if dispatching w then [] else
      infections env.timestamp boost pair (scoreBook w.ledger)
        (counterpartiesOf w anchor pair)
  | .admins _ (.cancelPendingScore wallet pair) => [.cancelled (wallet, pair)]
  | .admins _ (.resolveDisputeAdmin wallet pair correctedScore) =>
    [.corrected (wallet, pair) (correctedRiskScore correctedScore env.timestamp)]
  | .admins _ (.clearScoreHistoryWithAudit wallet pair _ _) =>
    [.historyCleared (wallet, pair)]
  | .admins _ (.clearScoreWithAudit wallet pair _ _) => [.cleared (wallet, pair)]
  | .admins _ (.overrideRateLimit wallet pair _) => [.limitLifted (wallet, pair)]
  | .admins _ (.batchOverrideRateLimit entries) => entries.map .limitLifted
  | .admins _ (.overrideScoreVelocityCap wallet pair) => [.capLifted (wallet, pair)]
  | .admins _ (.overrideScoreFloor wallet pair) => [.floorLifted (wallet, pair)]
  | _ => []

section Calls

variable {env : ContractEnv} {w w' : State} {u : Unit}

/-- A program run for its effect posts what its value says. -/
theorem booked_of_dropResult {α : Type} {m : M α} {postings : α → List Posting}
    (posts : wlp m (fun a w' => Posted env w w' (postings a)) env w)
    (returned : dropResult m env w = .ok u w') :
    ∃ a, (m env w).value? = some a ∧ Booked env w w' (postings a) := by
  obtain ⟨a, _, ran, ⟨⟩⟩ := bind_ok.mp returned
  exact ⟨a, by rw [ran]; rfl, (posts a w' ran).toBooked⟩

theorem exec_booked {call : Call} (returned : exec call env w = .ok u w') :
    Booked env w w' (postingsOf env w call) := by
  have silent (free : (footprint call).all (fun t => !t.isScoreBook) = true) :
      Booked env w w' [] :=
    ⟨trivial, About.of_all (R := SameScoreBook) free ((exec_keeps call).ok returned)⟩
  rcases call with call | ⟨signers, call⟩ | call
  · cases call
    case submitScore signers sub input =>
      exact (submitScore_posted _ _ returned).toBooked
    case relayAttestedScore relayer sub attestation =>
      obtain ⟨took, ran, booked⟩ :=
        booked_of_dropResult relayAttestedScore_posted returned
      simp only [postingsOf, ran]
      cases took <;> simpa using booked
    case submitScoresBatch subs =>
      obtain ⟨result, ran, booked⟩ :=
        booked_of_dropResult submitScoresBatch_posted returned
      simpa only [postingsOf, ran, Option.elim_some] using booked
    case submitScoresBatchAttested signers subs attestation =>
      obtain ⟨result, ran, booked⟩ := booked_of_dropResult submitScoresBatchAttested_posted returned
      simpa only [postingsOf, ran, Option.elim_some] using booked
    case revealConsensus signers wallet pair votes nonces timestamp =>
      exact (revealConsensus_posted _ _ returned).toBooked
    case submitConsensusScore signers wallet pair votes timestamp =>
      exact (submitConsensusScore_posted _ _ returned).toBooked
    case commitPendingScore wallet pair =>
      exact (commitPendingScore_posted _ _ returned).toBooked
    case propagateContagion anchor pair boost =>
      obtain ⟨_, _, booked⟩ :=
        booked_of_dropResult propagateContagion_posted returned
      exact booked
    all_goals exact silent rfl
  · cases call
    case cancelPendingScore wallet pair =>
      exact (cancelPendingScore_posted _ _ returned).toBooked
    case resolveDisputeAdmin wallet pair score =>
      exact (resolveDisputeAdmin_posted _ _ returned).toBooked
    case clearScoreHistoryWithAudit wallet pair reason category =>
      exact (clearScoreHistoryWithAudit_posted _ _ returned).toBooked
    case clearScoreWithAudit wallet pair reason category =>
      exact (clearScoreWithAudit_posted _ _ returned).toBooked
    case overrideRateLimit wallet pair justification =>
      exact (overrideRateLimit_posted _ _ _ _ _ _ _ _ returned).toBooked
    case batchOverrideRateLimit entries =>
      obtain ⟨_, _, booked⟩ :=
        booked_of_dropResult batchOverrideRateLimit_posted returned
      exact booked
    case overrideScoreVelocityCap wallet pair =>
      exact (overrideScoreVelocityCap_posted _ _ returned).toBooked
    case overrideScoreFloor wallet pair =>
      exact (overrideScoreFloor_posted _ _ returned).toBooked
    all_goals exact silent rfl
  · exact silent (by cases call <;> rfl)

end Calls

/-- The postings of a transaction; none when it does not return. -/
def postings (w : State) (tx : Transaction) : List Posting :=
  if Returns exec w tx then
    postingsOf tx.env { w with authorized := [] } tx.call
  else []

/-- The contract is a machine on the book. -/
theorem step_booked (w : State) (tx : Transaction) :
    Booked tx.env w (step exec w tx) (postings w tx) := by
  unfold postings
  split
  · next returns =>
    have booked := exec_booked returns.ok
    exact ⟨booked.allowed, booked.book⟩
  · next failed =>
    rw [step_of_not_returns failed]
    exact ⟨trivial, rfl⟩

end LedgerLens
