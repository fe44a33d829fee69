import LedgerLens.Submitter.Invariants

/-!
Whether a score may be submitted twice. A transaction that the network took may
still be applied when its confirmation does not arrive. The submitter then starts
over, and it asks for the idempotency key only when the confirmation is said to
lag. A transaction with the same sequence number cannot be applied beside the
first; one with a new number can. The main result is `no_blind_resubmission`.
-/

namespace LedgerLens.Submitter

open Host Host.Prog

/-! ### Successes that may still be applied -/

/-- A transaction with this sequence number was taken, and no lookup since came back empty. -/
def Unresolved (sequence : Nat) (log : List Event) : Prop :=
  Pending (fun e => ∃ transaction hash, e = .submit sequence transaction (.ok hash))
    (fun e => e = .lookup (.ok none)) log

/-- Every submission has the number of the successes that are unresolved when it is made. -/
def NoBlindResubmission (log : List Event) : Prop :=
  AtEach (fun before e => ∀ sequence transaction answer,
    e = .submit sequence transaction answer →
      ∀ taken, Unresolved taken before → sequence = taken) log

/-- Every new sequence number has the number of the successes that are unresolved when it is
read. -/
def SteadySequence (log : List Event) : Prop :=
  AtEach (fun before e => ∀ sequence, e = .nextSequence (.ok sequence) →
    ∀ taken, Unresolved taken before → sequence = taken) log

/-- With steady numbers nothing was submitted blindly, and what is unresolved has this number. -/
def Aligned (sequence : Nat) (log : List Event) : Prop :=
  SteadySequence log → NoBlindResubmission log ∧ ∀ taken, Unresolved taken log → taken = sequence

section Aligned

variable {sequence sequence' taken : Nat} {log : List Event} {e : Event}

theorem Unresolved.earlier (unresolved : Unresolved taken (log ++ [e]))
    (notTaken : ∀ transaction hash, e ≠ .submit taken transaction (.ok hash)) :
    Unresolved taken log := by
  rcases pending_snoc.mp unresolved with ⟨transaction, hash, same⟩ | ⟨before, _⟩
  · exact absurd same (notTaken transaction hash)
  · exact before

theorem Aligned.noBlind (aligned : Aligned sequence log) (steady : SteadySequence log) :
    NoBlindResubmission log := (aligned steady).1

theorem Aligned.quiet (aligned : Aligned sequence log)
    (quiet : ∀ sequence transaction answer, e ≠ .submit sequence transaction answer) :
    Aligned sequence (log ++ [e]) := by
  intro steady
  obtain ⟨noBlind, unresolved⟩ := aligned (atEach_snoc.mp steady).1
  refine ⟨atEach_snoc.mpr ⟨noBlind, ?_⟩, fun taken isTaken => ?_⟩
  · intro sequence transaction answer same
    exact absurd same (quiet sequence transaction answer)
  · exact unresolved taken (isTaken.earlier fun transaction hash => quiet _ _ _)

theorem Aligned.refresh (aligned : Aligned sequence log) :
    Aligned sequence' (log ++ [.nextSequence (.ok sequence')]) := by
  intro steady
  obtain ⟨earlier, refreshed⟩ := atEach_snoc.mp steady
  refine ⟨atEach_snoc.mpr ⟨(aligned earlier).1, nofun⟩, fun taken isTaken => ?_⟩
  exact (refreshed sequence' rfl taken (isTaken.earlier nofun)).symm

theorem Aligned.submit {transaction : Transaction} {answer : Answer String}
    (aligned : Aligned sequence log) :
    Aligned sequence (log ++ [.submit sequence transaction answer]) := by
  intro steady
  obtain ⟨noBlind, unresolved⟩ := aligned (atEach_snoc.mp steady).1
  refine ⟨atEach_snoc.mpr ⟨noBlind, ?_⟩, fun taken isTaken => ?_⟩
  · rintro _ _ _ ⟨⟩ taken isTaken
    exact (unresolved taken isTaken).symm
  · rcases pending_snoc.mp isTaken with ⟨_, _, same⟩ | ⟨before, _⟩
    · cases same
      rfl
    · exact unresolved taken before

end Aligned

/-! ### The pipeline -/

/-- The log of a submission, however it ends. -/
def Blameless (log : List Event) : Prop := SteadySequence log → NoBlindResubmission log

/-- The successes that are unresolved have the loop's number. -/
abbrev LoopAligned (loop : Loop) (log : List Event) : Prop := Aligned loop.sequence log

theorem alignedInvariant {config : SubmitterConfig} :
    LogInvariant config LoopAligned Blameless where
  quiet _ aligned quiet := aligned.quiet (by rintro _ _ _ rfl; cases quiet)
  refresh _ aligned := aligned.refresh
  unconfirmed _ _ aligned := by
    rw [LoopAligned, Loop.raised_sequence]
    exact aligned.quiet nofun
  noted _ aligned := aligned
  fails aligned := aligned.noBlind

section Pipeline

variable {τ : Type} {setup : Setup τ} {s : Session τ} {request : ScoreSubmission} {attempt : Nat}
  {loop : Loop}

/-- A recovery keeps the number. -/
theorem LoopAligned.raised {log : List Event} {config : SubmitterConfig} {error : TransportError}
    (aligned : LoopAligned loop log) : LoopAligned (loop.raised config error) log := by
  rwa [LoopAligned, Loop.raised_sequence]

theorem submitBuilt_aligned {adjusted : Transaction} (aligned : LoopAligned loop s.log) :
    ends (submitBuilt request attempt loop adjusted) (Attempt.Leaves LoopAligned Blameless)
      (fun s => Blameless s.log) setup s := by
  unfold submitBuilt
  rw [ends_bind]
  refine ends_ask fun signature t _ => ?_
  have signed : LoopAligned loop (s.log ++ [.sign adjusted signature]) := aligned.quiet nofun
  rw [ends_bind]
  refine ends_orFail (fun bytes _ => ?_) signed.noBlind
  rw [ends_bind, ends_count, ends_bind]
  refine ends_ask fun submitted t _ => ?_
  have taken : LoopAligned loop (_ ++ [.submit loop.sequence adjusted submitted]) := signed.submit
  exact alignedInvariant.confirm (fun _ _ => taken) fun _ _ => taken.raised

theorem submitAdjusted_aligned {resources : Resources} {adjusted : Transaction}
    (aligned : LoopAligned loop s.log) :
    ends (submitAdjusted request attempt loop resources adjusted)
      (Attempt.Leaves LoopAligned Blameless) (fun s => Blameless s.log) setup s := by
  unfold submitAdjusted
  rw [ends_bind, ends_asks, ends_bind, ends_count, ends_bind]
  refine ends_ask fun answer t _ => ?_
  have simulated : LoopAligned loop (_ ++ [.resimulate adjusted answer]) := aligned.quiet nofun
  refine alignedInvariant.orRecover (fun _ _ => simulated.raised) fun simulation _ => ?_
  simp only [ends_ite]
  split
  · exact alignedInvariant.restoreAndRefresh simulated
  · split
    · rw [ends_bind]
      exact alignedInvariant.retry loop simulated
    · split
      · rw [ends_bind]
        exact alignedInvariant.retry loop simulated
      · exact submitBuilt_aligned simulated

theorem attemptOnce_aligned (aligned : LoopAligned loop s.log) :
    ends (attemptOnce request attempt loop) (Attempt.Leaves LoopAligned Blameless)
      (fun s => Blameless s.log) setup s := by
  unfold attemptOnce build
  rw [ends_bind, ends_count, ends_bind]
  refine ends_ask fun answer t _ => ?_
  have bounded : LoopAligned loop (_ ++ [.transactionBounds answer]) := aligned.quiet nofun
  rw [ends_bind]
  refine ends_orFail (fun bounds _ => ?_) bounded.noBlind
  rw [ends_bind]
  refine ends_ask fun answer t _ => ?_
  have built : LoopAligned loop (_ ++ [.build loop.sequence loop.fee loop.resources answer]) :=
    bounded.quiet nofun
  refine alignedInvariant.orRecover (fun _ _ => built.raised) fun transaction _ => ?_
  rw [ends_bind, ends_count, ends_bind]
  refine ends_ask fun answer t _ => ?_
  have simulated : LoopAligned loop (_ ++ [.simulate transaction answer]) := built.quiet nofun
  refine alignedInvariant.orRecover (fun _ _ => simulated.raised) fun simulation _ => ?_
  rw [ends_ite]
  split
  · exact alignedInvariant.restoreAndRefresh simulated
  · unfold adjust build
    rw [ends_bind, ends_asks, ends_bind]
    refine ends_ask fun answer t _ => ?_
    have adjusted {fee : Nat} {resources : Resources} :
        LoopAligned loop (_ ++ [.build loop.sequence fee resources answer]) :=
      simulated.quiet nofun
    rw [ends_bind]
    exact ends_orFail (fun transaction _ => submitAdjusted_aligned adjusted) adjusted.noBlind

end Pipeline

/-- A call of `submit` whose transport, while a success is unresolved, answers each request for a
sequence number with the number of that success submits nothing blindly, however it ends. -/
theorem no_blind_resubmission {τ : Type} {setup : Setup τ} {s t : Session τ}
    {request : ScoreSubmission} (fresh : s.log = []) (ended : Ended (submit request) setup s t)
    (steady : SteadySequence t.log) : NoBlindResubmission t.log := by
  have start (sequence : Nat) : Aligned sequence s.log := by
    intro _
    rw [fresh]
    exact ⟨AtEach.nil, fun _ unresolved => absurd unresolved not_pending_nil⟩
  exact (alignedInvariant.submit (fun _ _ _ => attemptOnce_aligned) (start 0)).ended ended steady

/-! ### A score submitted twice -/

/-- The numbers of the successes that are unresolved. -/
def unresolvedNumbers (log : List Event) : List Nat :=
  log.foldl (fun numbers e =>
    match e with
    | .submit sequence _ (.ok _) => sequence :: numbers
    | .lookup (.ok none) => []
    | _ => numbers) []

theorem mem_unresolvedNumbers {taken : Nat} {log : List Event} :
    taken ∈ unresolvedNumbers log ↔ Unresolved taken log := by
  induction log using List.reverseRecOn with
  | nil => exact ⟨nofun, fun unresolved => absurd unresolved not_pending_nil⟩
  | append_singleton log e ih =>
    unfold Unresolved at ih ⊢
    rw [pending_snoc, ← ih]
    unfold unresolvedNumbers
    rw [List.foldl_append, List.foldl_cons, List.foldl_nil]
    split
    · simp [eq_comm]
    · simp
    · next notTaken notEmpty =>
      constructor
      · intro listed
        exact .inr ⟨listed, notEmpty⟩
      · rintro (⟨transaction, hash, same⟩ | ⟨listed, _⟩)
        · exact absurd same (notTaken taken transaction hash)
        · exact listed

instance (before : List Event) (e : Event) :
    Decidable (∀ sequence transaction answer, e = .submit sequence transaction answer →
      ∀ taken, Unresolved taken before → sequence = taken) :=
  match e with
  | .submit sequence _ _ =>
    decidable_of_iff (∀ taken ∈ unresolvedNumbers before, sequence = taken) (by
      constructor
      · rintro all _ _ _ ⟨⟩ taken unresolved
        exact all taken (mem_unresolvedNumbers.mpr unresolved)
      · intro all taken listed
        exact all sequence _ _ rfl taken (mem_unresolvedNumbers.mp listed))
  | .nextSequence _ | .transactionBounds _ | .build .. | .simulate .. | .resimulate .. | .sign ..
  | .confirm .. | .lookup _ | .restore _ => .isTrue nofun

instance (log : List Event) : Decidable (NoBlindResubmission log) := AtEach.decidable log

instance (before : List Event) (e : Event) :
    Decidable (∀ sequence, e = .nextSequence (.ok sequence) →
      ∀ taken, Unresolved taken before → sequence = taken) :=
  match e with
  | .nextSequence (.ok sequence) =>
    decidable_of_iff (∀ taken ∈ unresolvedNumbers before, sequence = taken) (by
      constructor
      · rintro all _ ⟨⟩ taken unresolved
        exact all taken (mem_unresolvedNumbers.mpr unresolved)
      · intro all taken listed
        exact all sequence rfl taken (mem_unresolvedNumbers.mp listed))
  | .nextSequence (.error _) | .submit .. | .transactionBounds _ | .build .. | .simulate ..
  | .resimulate .. | .sign .. | .confirm .. | .lookup _ | .restore _ => .isTrue nofun

instance (log : List Event) : Decidable (SteadySequence log) := AtEach.decidable log

/-- What a network will answer; nothing is confirmed before, and all else succeeds. -/
structure Script where
  sequences : List Nat
  simulations : List Simulation
  submissions : List (Answer String)
  confirmations : List (Answer Confirmation)

/-- The next answer; when there is none, the network lags. -/
def nextAnswer {α : Type} : List (Answer α) → Answer α × List (Answer α)
  | [] => (.error ⟨.rpcLag, "no answer", none⟩, [])
  | answer :: rest => (answer, rest)

/-- Builds what it is asked to build, and answers from the script. -/
def scripted : SorobanTransport Script where
  nextSequence script := (.ok (script.sequences.headD 0), { script with
    sequences := script.sequences.tail })
  transactionBounds script := (.ok ⟨0, 100, 7⟩, script)
  build request sequence bounds fee resources script :=
    (.ok ⟨[], sequence, fee, resources, bounds, request.idempotencyKey⟩, script)
  simulate _ script := (.ok (script.simulations.headD ⟨100, ⟨10, 10, 1, 1⟩, false⟩), { script with
    simulations := script.simulations.tail })
  sign _ script := (.ok [], script)
  submit _ script :=
    ((nextAnswer script.submissions).1,
      { script with submissions := (nextAnswer script.submissions).2 })
  confirm _ script :=
    ((nextAnswer script.confirmations).1,
      { script with confirmations := (nextAnswer script.confirmations).2 })
  lookupIdempotencyKey _ _ script := (.ok none, script)
  restoreArchivedEntries _ script := (.ok (), script)

def scriptedSetup : Setup Script := ⟨scripted, .standard⟩

def sampleRequest : ScoreSubmission :=
  ⟨"contract", "wallet", "XLM_USDC", 80, 90, 1, 1000, 1, "key"⟩

/-- A new submitter on this network. -/
def opened (script : Script) : Session Script :=
  ⟨script, ⟨0, 0, 0, 0, 0, fun _ => 0⟩, [], []⟩

/-- The first transaction is taken but its confirmation says that its time is over. The second has
the same sequence number and is refused for it. -/
def appliedUnseen : Script where
  sequences := [1, 2]
  simulations := []
  submissions := [.ok "first", .error ⟨.badSequence, "tx_bad_seq", none⟩, .ok "second"]
  confirmations := [.error ⟨.expiredBounds, "tx_too_late", none⟩, .ok ⟨"second", 8, "key"⟩]

/-- The third is submitted under a new number, and nobody asked whether the first was applied. -/
theorem resubmitted_blindly :
    ∃ t, Ended (submit sampleRequest) scriptedSetup (opened appliedUnseen) t ∧
      ¬ NoBlindResubmission t.log :=
  exists_ended (by decide +kernel)

/-- Here the refresh answers with the number of the first, under which the third is taken. -/
def takenAgain : Script := { appliedUnseen with sequences := [1, 1] }

theorem no_blind_resubmission_sample :
    ∃ t, Ended (submit sampleRequest) scriptedSetup (opened takenAgain) t ∧
      NoBlindResubmission t.log ∧ unresolvedNumbers t.log = [1, 1] := by
  obtain ⟨t, ended, steady, twice⟩ :
      ∃ t, Ended (submit sampleRequest) scriptedSetup (opened takenAgain) t ∧
        (SteadySequence t.log ∧ unresolvedNumbers t.log = [1, 1]) :=
    exists_ended (by decide +kernel)
  exact ⟨t, ended, no_blind_resubmission rfl ended steady, twice⟩

end LedgerLens.Submitter
