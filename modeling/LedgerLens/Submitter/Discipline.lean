import LedgerLens.Submitter.Escalation

/-!
What the submitter never does, whatever the transport answers: it signs nothing but the
transaction it has just simulated and found to be paid for, it submits no more often than it has
attempts, and it reports no confirmation but one it was given. The main result is
`submit_disciplined`.
-/

namespace LedgerLens.Submitter

open Host Host.Prog

/-- The transaction was built with some resources and simulated, and nothing was done since; the
simulation needs no restore, no more than those resources and no more than its fee. -/
def Checked (transaction : Transaction) (log : List Event) : Prop :=
  ∃ earlier sequence fee resources simulation,
    log = earlier ++ [.build sequence fee resources (.ok transaction),
      .resimulate transaction (.ok simulation)] ∧
    simulation.restoreRequired = false ∧
    resources.contains simulation.requiredResources = true ∧
    simulation.minimumFee ≤ transaction.fee

def SignsChecked (log : List Event) : Prop :=
  AtEach (fun before e => ∀ transaction answer, e = .sign transaction answer →
    Checked transaction before) log

/-- The last call answered with this confirmation. -/
def Obtained (confirmation : Confirmation) (log : List Event) : Prop :=
  ∃ earlier e, log = earlier ++ [e] ∧
    (e = .lookup (.ok (some confirmation)) ∨ ∃ hash, e = .confirm hash (.ok confirmation))

/-- What was signed was checked, and at most so many transactions were submitted. -/
structure Held (n : Nat) (log : List Event) : Prop where
  signs : SignsChecked log
  submits : log.countP Event.isSubmit ≤ n

section Log

variable {n N : Nat} {log : List Event}

theorem Held.mono (held : Held n log) (le : n ≤ N) : Held N log :=
  ⟨held.signs, held.submits.trans le⟩

/-- By any call that does not submit, and signs only what was checked. -/
theorem Held.snoc {e : Event} (held : Held n log)
    (signs : ∀ transaction answer, e = .sign transaction answer → Checked transaction log)
    (submits : e.isSubmit = false) : Held n (log ++ [e]) := by
  refine ⟨atEach_snoc.mpr ⟨held.signs, signs⟩, ?_⟩
  rw [List.countP_append, List.countP_singleton, submits]
  exact held.submits

theorem Held.submit {sequence : Nat} {transaction : Transaction} {answer : Answer String}
    (held : Held n log) : Held (n + 1) (log ++ [.submit sequence transaction answer]) := by
  refine ⟨atEach_snoc.mpr ⟨held.signs, nofun⟩, ?_⟩
  rw [List.countP_append, List.countP_singleton]
  exact Nat.add_le_add_right held.submits 1

theorem heldInvariant {config : SubmitterConfig} (le : n ≤ N) :
    LogInvariant config (fun _ => Held n) (Held N) where
  quiet e held quiet := held.snoc (by rintro _ _ rfl; cases quiet) (by cases e <;> trivial)
  refresh _ held := held.snoc nofun rfl
  unconfirmed _ _ held := held.snoc nofun rfl
  noted _ held := held
  fails held := held.mono le

end Log

section Pipeline

variable {τ : Type} {setup : Setup τ} {s : Session τ} {request : ScoreSubmission} {attempt : Nat}
  {loop : Loop} {n N : Nat} (le : n + 1 ≤ N)

include le

theorem submitBuilt_held {adjusted : Transaction} (held : Held n s.log)
    (checked : Checked adjusted s.log) :
    ends (submitBuilt request attempt loop adjusted)
      (Attempt.Leaves (fun _ => Held (n + 1)) (Held N)) (fun s => Held N s.log) setup s := by
  unfold submitBuilt
  rw [ends_bind]
  refine ends_ask fun signature t _ => ?_
  have signed : Held n (s.log ++ [.sign adjusted signature]) :=
    held.snoc (by rintro _ _ ⟨⟩; exact checked) rfl
  rw [ends_bind]
  refine ends_orFail (fun bytes _ => ?_) (signed.mono (by omega))
  rw [ends_bind, ends_count, ends_bind]
  exact ends_ask fun submitted t _ =>
    (heldInvariant le).confirm (fun _ _ => signed.submit) fun _ _ => signed.submit

theorem submitAdjusted_held {sequence fee : Nat} {resources : Resources} {adjusted : Transaction}
    {earlier : List Event} (held : Held n s.log)
    (built : s.log = earlier ++ [.build sequence fee resources (.ok adjusted)]) :
    ends (submitAdjusted request attempt loop resources adjusted)
      (Attempt.Leaves (fun _ => Held (n + 1)) (Held N)) (fun s => Held N s.log) setup s := by
  unfold submitAdjusted
  rw [ends_bind, ends_asks, ends_bind, ends_count, ends_bind]
  refine ends_ask fun answer t _ => ?_
  have simulated : Held n (s.log ++ [.resimulate adjusted answer]) := held.snoc nofun rfl
  have inv : LogInvariant setup.config _ _ := heldInvariant le
  have more := simulated.mono (Nat.le_add_right n 1)
  refine inv.orRecover (fun _ _ => more) fun simulation isAnswer => ?_
  simp only [ends_ite]
  split
  · exact inv.restoreAndRefresh more
  · next noRestore =>
    split
    · rw [ends_bind]
      exact inv.retry loop more
    · next covered =>
      split
      · rw [ends_bind]
        exact inv.retry loop more
      · next paid =>
        refine submitBuilt_held le simulated ⟨earlier, sequence, fee, resources, simulation,
          ?_, by simpa using noRestore, by simpa using covered, by omega⟩
        rw [isAnswer, built, List.append_assoc]
        rfl

theorem attemptOnce_held (held : Held n s.log) :
    ends (attemptOnce request attempt loop) (Attempt.Leaves (fun _ => Held (n + 1)) (Held N))
      (fun s => Held N s.log) setup s := by
  have inv : LogInvariant setup.config _ _ := heldInvariant le
  unfold attemptOnce build
  rw [ends_bind, ends_count, ends_bind]
  refine ends_ask fun answer t _ => ?_
  have bounded : Held n (s.log ++ [.transactionBounds answer]) := held.snoc nofun rfl
  rw [ends_bind]
  refine ends_orFail (fun bounds _ => ?_) (bounded.mono (by omega))
  rw [ends_bind]
  refine ends_ask fun answer t _ => ?_
  have built := bounded.snoc (e := .build loop.sequence loop.fee loop.resources answer) nofun rfl
  refine inv.orRecover (fun _ _ => built.mono (Nat.le_add_right n 1)) fun transaction _ => ?_
  rw [ends_bind, ends_count, ends_bind]
  refine ends_ask fun answer t _ => ?_
  have simulated := built.snoc (e := .simulate transaction answer) nofun rfl
  have more := simulated.mono (Nat.le_add_right n 1)
  refine inv.orRecover (fun _ _ => more) fun simulation _ => ?_
  rw [ends_ite]
  split
  · exact inv.restoreAndRefresh more
  · unfold adjust build
    rw [ends_bind, ends_asks, ends_bind]
    refine ends_ask fun answer t _ => ?_
    have adjusted {fee : Nat} {resources : Resources} :=
      simulated.snoc (e := .build loop.sequence fee resources answer) nofun rfl
    rw [ends_bind]
    refine ends_orFail (fun transaction isAnswer => ?_) (adjusted.mono (by omega))
    exact submitAdjusted_held le adjusted (by rw [isAnswer])

end Pipeline

section Loop

variable {τ : Type} {setup : Setup τ} {s : Session τ} {request : ScoreSubmission} {attempt : Nat}
  {loop : Loop} {n N : Nat}

/-- By induction on the attempts that are left, each of which submits at most once. -/
theorem attempts_held {left : Nat} (le : n + left ≤ N) (held : Held n s.log) :
    ends (attempts request attempt left loop) (fun _ s => Held N s.log) (fun s => Held N s.log)
      setup s := by
  induction left generalizing attempt loop s n with
  | zero => exact held.mono le
  | succ left ih =>
    unfold attempts
    rw [ends_bind]
    refine ends_mono (attemptOnce_held (by omega) held) fun outcome t held => ?_
    cases outcome with
    | confirmed confirmation => exact held
    | again loop => exact ih (by omega) held

theorem submit_held (fresh : s.log = []) :
    ends (submit request) (fun _ s => Held (setup.config.maxRetries + 1) s.log)
      (fun s => Held (setup.config.maxRetries + 1) s.log) setup s := by
  have start : Held 0 s.log := by
    rw [fresh]
    exact ⟨AtEach.nil, Nat.le_refl 0⟩
  have inv : LogInvariant setup.config (fun _ => Held 0) (Held (setup.config.maxRetries + 1)) :=
    heldInvariant (Nat.zero_le _)
  unfold submit lookup
  rw [ends_bind, ends_require]
  split
  · rw [ends_bind]
    refine ends_mono (@LogInvariant.quietCall τ _ _ _ setup s default inv _ _ _ start fun _ => rfl)
      fun found t held => ?_
    cases found with
    | some confirmation => exact held.mono (Nat.zero_le _)
    | none =>
      rw [ends_bind]
      refine ends_mono (@LogInvariant.nextSequence τ _ _ setup t default inv _ held)
        fun sequence t held => ?_
      rw [ends_bind, ends_asks]
      exact attempts_held (by omega) held
  · exact start.mono (Nat.zero_le _)

end Loop

/-! ### Confirmations -/

section Confirmations

variable {τ α : Type} {setup : Setup τ} {s : Session τ} {request : ScoreSubmission} {attempt : Nat}
  {loop : Loop}

/-- A confirmation is the answer to the last call. -/
def Attempt.Yields : Attempt → Session τ → Prop
  | .confirmed confirmation, s => Obtained confirmation s.log
  | .again _, _ => True

theorem ends_any {m : S τ α} {Q : α → Session τ → Prop} (always : ∀ a t, Q a t) :
    ends m Q (fun _ => True) setup s := by
  unfold ends
  split
  · exact always _ _
  · trivial
  · trivial

/-- What was done before does not matter. -/
theorem ends_then {β : Type} {m : S τ β} {f : β → S τ α} {Q : α → Session τ → Prop}
    (later : ∀ b t, ends (f b) Q (fun _ => True) setup t) :
    ends (m >>= f) Q (fun _ => True) setup s :=
  (ends_bind m f).mpr (ends_any later)

theorem ends_lookup {text : String} {Q : Option Confirmation → Session τ → Prop}
    (holds : ∀ found t, (∀ confirmation, found = some confirmation → Obtained confirmation t.log) →
      Q found t) : ends (lookup request text) Q (fun _ => True) setup s := by
  unfold lookup
  rw [ends_bind]
  refine ends_ask fun answer t _ => ?_
  refine ends_orFail (fun found isAnswer => holds found _ fun confirmation isSome => ?_) trivial
  exact ⟨s.log, _, rfl, .inl (by rw [isAnswer, isSome])⟩

theorem recover_yields {error : TransportError} :
    ends (recover request error loop) Attempt.Yields (fun _ => True) setup s := by
  unfold recover
  split
  · trivial
  · exact ends_then fun _ _ => trivial
  · exact ends_then fun _ _ => trivial
  · trivial
  · exact ends_then fun _ _ => ends_then fun _ _ => trivial
  · rw [ends_bind]
    refine ends_lookup fun found t obtained => ?_
    cases found with
    | some confirmation => exact obtained confirmation rfl
    | none => trivial
  · trivial

theorem recoverFromError_yields {error : TransportError} :
    ends (recoverFromError request attempt loop error) Attempt.Yields (fun _ => True) setup s := by
  unfold recoverFromError
  rw [ends_bind]
  refine ends_mono recover_yields fun recovered t yields => ?_
  cases recovered with
  | confirmed confirmation => exact yields
  | again loop => exact ends_then fun _ _ => ends_then fun _ _ => trivial

theorem orRecover_yields {answer : Answer α} {rest : α → S τ Attempt}
    (goesOn : ∀ a, ends (rest a) Attempt.Yields (fun _ => True) setup s) :
    ends (orRecover request attempt loop answer rest) Attempt.Yields (fun _ => True) setup s := by
  cases answer with
  | ok a => exact goesOn a
  | error error => exact recoverFromError_yields

theorem restoreAndRefresh_yields :
    ends (restoreAndRefresh request loop) Attempt.Yields (fun _ => True) setup s :=
  ends_then fun _ _ => ends_then fun _ _ => trivial

theorem confirmSubmitted_yields {transactionHash : String} :
    ends (confirmSubmitted request attempt loop transactionHash) Attempt.Yields (fun _ => True)
      setup s := by
  unfold confirmSubmitted
  rw [ends_bind]
  refine ends_ask fun answer t _ => ?_
  cases answer with
  | ok confirmation => exact ⟨s.log, _, rfl, .inr ⟨transactionHash, rfl⟩⟩
  | error error =>
    rw [ends_bind]
    refine ends_mono recoverFromError_yields fun recovered t yields => ?_
    cases recovered with
    | confirmed confirmation => exact yields
    | again loop => trivial

theorem submitAdjusted_yields {resources : Resources} {adjusted : Transaction} :
    ends (submitAdjusted request attempt loop resources adjusted) Attempt.Yields (fun _ => True)
      setup s := by
  refine ends_then fun config _ => ends_then fun _ _ => ends_then fun resimulated t => ?_
  refine orRecover_yields fun simulation => ?_
  simp only [ends_ite]
  split
  · exact restoreAndRefresh_yields
  · split
    · exact ends_then fun _ _ => trivial
    · split
      · exact ends_then fun _ _ => trivial
      · refine ends_then fun _ _ => ends_then fun _ _ => ends_then fun _ _ =>
          ends_then fun _ _ => ?_
        exact orRecover_yields fun _ => confirmSubmitted_yields

theorem attemptOnce_yields :
    ends (attemptOnce request attempt loop) Attempt.Yields (fun _ => True) setup s := by
  refine ends_then fun _ _ => ends_then fun _ _ => ends_then fun bounds _ => ends_then fun _ _ => ?_
  refine orRecover_yields fun transaction => ends_then fun _ _ => ends_then fun _ _ => ?_
  refine orRecover_yields fun simulation => ?_
  rw [ends_ite]
  split
  · exact restoreAndRefresh_yields
  · exact ends_then fun _ _ => ends_then fun _ _ => ends_then fun _ _ => submitAdjusted_yields

theorem attempts_obtained {left : Nat} :
    ends (attempts request attempt left loop) (fun confirmation s => Obtained confirmation s.log)
      (fun _ => True) setup s := by
  induction left generalizing attempt loop s with
  | zero => trivial
  | succ left ih =>
    unfold attempts
    rw [ends_bind]
    refine ends_mono attemptOnce_yields fun outcome t yields => ?_
    cases outcome with
    | confirmed confirmation => exact yields
    | again loop => exact ih

theorem submit_obtained :
    ends (submit request) (fun confirmation s => Obtained confirmation s.log) (fun _ => True) setup
      s := by
  refine ends_then fun _ _ => ?_
  rw [ends_bind]
  refine ends_lookup fun found t obtained => ?_
  cases found with
  | some confirmation => exact obtained confirmation rfl
  | none => exact ends_then fun _ _ => ends_then fun _ _ => attempts_obtained

end Confirmations

/-- Whatever the transport answers, of a submission by a submitter with a new log. -/
theorem submit_disciplined {τ : Type} (setup : Setup τ) (s : Session τ)
    (request : ScoreSubmission) :
    (∀ t, Ended (submit request) setup { s with log := [] } t →
      SignsChecked t.log ∧ t.log.countP Event.isSubmit ≤ setup.config.maxRetries + 1) ∧
      ∀ confirmation t, submit request setup { s with log := [] } = .ok confirmation t →
        Obtained confirmation t.log := by
  constructor
  · intro t ended
    have held := (submit_held (s := { s with log := [] }) rfl).ended ended
    exact ⟨held.signs, held.submits⟩
  · intro confirmation t ran
    have obtained : ends (submit request) (fun confirmation s => Obtained confirmation s.log)
      (fun _ => True) setup { s with log := [] } := submit_obtained
    unfold ends at obtained
    rwa [ran] at obtained

end LedgerLens.Submitter
