import LedgerLens.Host.Histories
import LedgerLens.Submitter.Pipeline

/-!
Invariants of the submitter's loop and log. Recovery, restores and retries make calls
that concern no submission; an invariant that such calls keep, and that follows the
loop through a recovery, needs attention in one place only, the attempt itself.
`LogInvariant.submit` then carries it through a whole call.
-/

namespace LedgerLens.Submitter

open Host Host.Prog

/-- A call that is made beside the attempt, and tells the loop nothing. -/
def Event.isQuiet : Event → Bool
  | .nextSequence (.error _) | .confirm _ (.ok _) | .lookup _ | .restore _ => true
  | _ => false

/-- What a recovery makes of the loop, but for its sequence number. -/
def Loop.raised (config : SubmitterConfig) (loop : Loop) (error : TransportError) : Loop :=
  match error.kind with
  | .insufficientFee => { loop with fee := max (min (loop.fee * 2) u64Max) 1 }
  | .resourceLimitExceeded =>
    let required := error.requiredResources.getD loop.resources
    { loop with resources := required.withSafetyMargin config.resourceSafetyMarginBps }
  | _ => loop

@[simp] theorem Loop.raised_sequence {config : SubmitterConfig} {loop : Loop}
    {error : TransportError} : (loop.raised config error).sequence = loop.sequence := by
  unfold Loop.raised
  split <;> rfl

/-- `A` holds of the loop and the log, and `E` of a log whatever happens. -/
structure LogInvariant (config : SubmitterConfig) (A : Loop → List Event → Prop)
    (E : List Event → Prop) : Prop where
  quiet : ∀ {loop log} (e : Event), A loop log → e.isQuiet = true → A loop (log ++ [e])
  refresh : ∀ {loop log} (sequence : Nat), A loop log →
    A { loop with sequence } (log ++ [.nextSequence (.ok sequence)])
  unconfirmed : ∀ {loop log} (hash : String) (error : TransportError), A loop log →
    A (loop.raised config error) (log ++ [.confirm hash (.error error)])
  noted : ∀ {loop log} (lastError : Option String), A loop log → A { loop with lastError } log
  fails : ∀ {loop log}, A loop log → E log

section Steps

variable {τ α : Type} {setup : Setup τ} {s : Session τ} {Q : α → Session τ → Prop}
  {F : Session τ → Prop}

theorem ends_ask {call : SorobanTransport τ → τ → Answer α × τ} {event : Answer α → Event}
    {Q : Answer α → Session τ → Prop}
    (holds : ∀ answer t, (call setup.transport s.transport).1 = answer →
      Q answer { s with transport := t, log := s.log ++ [event answer] }) :
    ends (ask call event) Q F setup s := holds _ _ rfl

theorem ends_count {change : SubmitterMetrics → SubmitterMetrics}
    {Q : Unit → Session τ → Prop} :
    ends (count change) Q F setup s ↔ Q () { s with metrics := change s.metrics } := Iff.rfl

theorem ends_orFail {text : String} {answer : Answer α} (ok : ∀ a, answer = .ok a → Q a s)
    (fails : F s) : ends (orFail text answer : S τ α) Q F setup s := by
  cases answer with
  | ok a => exact ok a rfl
  | error error => exact fails

end Steps

/-- What an attempt leaves to the next one. -/
def Attempt.Leaves {τ : Type} (A : Loop → List Event → Prop) (E : List Event → Prop) :
    Attempt → Session τ → Prop
  | .confirmed _, s => E s.log
  | .again loop, s => A loop s.log

namespace LogInvariant

variable {τ α : Type} {A : Loop → List Event → Prop} {E : List Event → Prop} {setup : Setup τ}
  {s : Session τ} {request : ScoreSubmission} {attempt : Nat} {loop : Loop}

section Recovery

variable (inv : LogInvariant setup.config A E)

include inv

theorem nextSequence {text : String} (held : A loop s.log) :
    ends (nextSequence text) (fun sequence s => A { loop with sequence } s.log)
      (fun s => E s.log) setup s := by
  unfold Submitter.nextSequence
  rw [ends_bind]
  refine ends_ask fun answer t _ => ?_
  cases answer with
  | ok sequence' => exact inv.refresh sequence' held
  | error error => exact inv.fails (inv.quiet _ held rfl)

/-- A quiet call whose failure ends the submission. -/
theorem quietCall {call : SorobanTransport τ → τ → Answer α × τ} {event : Answer α → Event}
    {text : String} (held : A loop s.log) (quiet : ∀ answer, (event answer).isQuiet = true) :
    ends (ask call event >>= orFail text) (fun _ s => A loop s.log) (fun s => E s.log) setup
      s := by
  rw [ends_bind]
  refine ends_ask fun answer t _ => ?_
  have held := inv.quiet _ held (quiet answer)
  exact ends_orFail (fun _ _ => held) (inv.fails held)

theorem restore (held : A loop s.log) :
    ends (restore request) (fun _ s => A loop s.log) (fun s => E s.log) setup s := by
  unfold Submitter.restore
  rw [ends_bind, ends_count]
  exact inv.quietCall held fun _ => rfl

theorem retry (loop : Loop) {kind : FailureKind} (held : A loop s.log) :
    ends (retry kind attempt) (fun _ s => A loop s.log) (fun s => E s.log) setup s := by
  unfold Submitter.retry
  simp only [ends_bind, ends_asks, ends_require, ends_update]
  split
  · exact held
  · exact inv.fails held

/-- The log ends with the error by now. -/
theorem recover {error : TransportError} (held : A (loop.raised setup.config error) s.log) :
    ends (recover request error loop) (Attempt.Leaves A E) (fun s => E s.log) setup s := by
  unfold Submitter.recover
  unfold Loop.raised at held
  cases kind : error.kind <;> rw [kind] at held <;> dsimp only at held ⊢
  case insufficientFee | resourceLimitExceeded | expiredBounds => exact held
  case badSequence =>
    rw [ends_bind]
    exact inv.nextSequence held
  case restoreRequired =>
    rw [ends_bind]
    refine ends_mono (inv.restore held) fun _ t held => ?_
    rw [ends_bind]
    exact inv.nextSequence held
  case rpcLag =>
    unfold lookup
    rw [ends_bind]
    refine ends_mono (inv.quietCall held fun _ => rfl) fun found t held => ?_
    cases found with
    | some confirmation => exact inv.fails held
    | none => exact held
  case permanent => exact inv.fails held

theorem recoverFromError {error : TransportError}
    (held : A (loop.raised setup.config error) s.log) :
    ends (recoverFromError request attempt loop error) (Attempt.Leaves A E) (fun s => E s.log)
      setup s := by
  unfold Submitter.recoverFromError
  rw [ends_bind]
  refine ends_mono (inv.recover held) fun recovered t held => ?_
  cases recovered with
  | confirmed confirmation => exact held
  | again loop =>
    rw [ends_bind, ends_count, ends_bind]
    exact inv.retry loop held

theorem orRecover {answer : Answer α} {rest : α → S τ Attempt}
    (failed : ∀ error, answer = .error error → A (loop.raised setup.config error) s.log)
    (goesOn : ∀ a, answer = .ok a → ends (rest a) (Attempt.Leaves A E) (fun s => E s.log) setup s) :
    ends (orRecover request attempt loop answer rest) (Attempt.Leaves A E) (fun s => E s.log)
      setup s := by
  cases answer with
  | ok a => exact goesOn a rfl
  | error error => exact inv.recoverFromError (failed error rfl)

theorem restoreAndRefresh (held : A loop s.log) :
    ends (restoreAndRefresh request loop) (Attempt.Leaves A E) (fun s => E s.log) setup s := by
  unfold Submitter.restoreAndRefresh
  rw [ends_bind]
  refine ends_mono (inv.restore held) fun _ t held => ?_
  rw [ends_bind]
  exact inv.nextSequence held

/-- What is left of a submission once the transport has answered it. -/
theorem confirm {answer : Answer String} (taken : ∀ hash, answer = .ok hash → A loop s.log)
    (failed : ∀ error, answer = .error error → A (loop.raised setup.config error) s.log) :
    ends (Submitter.orRecover request attempt loop answer fun transactionHash =>
        confirmSubmitted request attempt loop transactionHash)
      (Attempt.Leaves A E) (fun s => E s.log) setup s := by
  refine inv.orRecover failed fun hash isTaken => ?_
  unfold confirmSubmitted
  rw [ends_bind]
  refine ends_ask fun answer t _ => ?_
  have held := taken hash isTaken
  cases answer with
  | ok confirmation => exact inv.fails (inv.quiet (.confirm hash (.ok confirmation)) held rfl)
  | error error =>
    rw [ends_bind]
    refine ends_mono (inv.recoverFromError (inv.unconfirmed hash error held)) ?_
    intro recovered t held
    cases recovered with
    | confirmed confirmation => exact held
    | again loop => exact inv.noted _ held

end Recovery

section Loop

variable (inv : LogInvariant setup.config A E)
  (attempts : ∀ (loop : Loop) (attempt : Nat) (s : Session τ), A loop s.log →
    ends (attemptOnce request attempt loop) (Attempt.Leaves A E) (fun s => E s.log) setup s)

include inv attempts

/-- By induction on the attempts that are left. -/
theorem loops {left : Nat} (held : A loop s.log) :
    ends (Submitter.attempts request attempt left loop) (fun _ s => E s.log) (fun s => E s.log)
      setup s := by
  induction left generalizing attempt loop s with
  | zero => exact inv.fails held
  | succ left ih =>
    unfold Submitter.attempts
    rw [ends_bind]
    refine ends_mono (attempts loop attempt s held) fun outcome t held => ?_
    cases outcome with
    | confirmed confirmation => exact held
    | again loop => exact ih held

theorem submit
    (start : A { sequence := 0, fee := 0, resources := .zero, lastError := none } s.log) :
    ends (Submitter.submit request) (fun _ s => E s.log) (fun s => E s.log) setup s := by
  unfold Submitter.submit lookup
  rw [ends_bind, ends_require]
  split
  · rw [ends_bind]
    refine ends_mono (inv.quietCall start fun _ => rfl) fun found t held => ?_
    cases found with
    | some confirmation => exact inv.fails held
    | none =>
      rw [ends_bind]
      refine ends_mono (inv.nextSequence held) fun sequence t held => ?_
      rw [ends_bind, ends_asks]
      exact inv.loops attempts held
  · exact inv.fails start

end Loop

end LogInvariant

end LedgerLens.Submitter
