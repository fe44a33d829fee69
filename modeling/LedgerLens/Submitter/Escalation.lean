import LedgerLens.Submitter.Resubmission

/-!
Whether a transaction that was refused for its fee or its resources is followed by
a better one. After a refusal the submitter raises the fee and the resources of its
loop, but the transaction it submits is built from the first simulation of the
attempt: of the loop only the fee enters, and that is not the fee that was refused.
`escalates_iff_answersRise` says so in terms of what the transport answers.
-/

namespace LedgerLens.Submitter

open Host Host.Prog

/-! ### Refusals -/

def Event.isSubmit : Event → Bool
  | .submit .. => true
  | _ => false

/-- The last transaction submitted was refused in this way. -/
def Refused (way : Transaction → TransportError → Prop) (log : List Event) : Prop :=
  Pending (fun e => ∃ sequence transaction error,
      e = .submit sequence transaction (.error error) ∧ way transaction error)
    (fun e => e.isSubmit = true) log

/-- The last transaction submitted, which had this fee, was refused for it. -/
def RefusedFee (fee : Nat) : List Event → Prop :=
  Refused fun transaction error => transaction.fee = fee ∧ error.kind = .insufficientFee

/-- The last transaction submitted was refused for its resources, and these are required. -/
def RefusedResources (required : Resources) : List Event → Prop :=
  Refused fun _ error =>
    error.kind = .resourceLimitExceeded ∧ error.requiredResources = some required

/-- A transaction of this fee and with these resources answers the refusal before it. -/
def Answers (fee : Nat) (resources : Resources) (log : List Event) : Prop :=
  (∀ refused, RefusedFee refused log → refused < 2 ^ 63 → refused < fee) ∧
    ∀ required, RefusedResources required log → resources.contains required = true

/-- Every transaction submitted answers the refusal before it. -/
def Escalates (log : List Event) : Prop :=
  AtEach (fun before e => ∀ sequence transaction answer,
    e = .submit sequence transaction answer →
      Answers transaction.fee transaction.resources before) log

/-- The transport builds transactions with the fee and the resources it is asked for. -/
def BuildsAsked {τ : Type} (transport : SorobanTransport τ) : Prop :=
  ∀ request sequence bounds fee resources t transaction,
    (transport.build request sequence bounds fee resources t).1 = .ok transaction →
      transaction.fee = fee ∧ transaction.resources = resources

/-- The last transaction submitted, with the error, if it was refused. -/
def refusal (log : List Event) : Option (Transaction × TransportError) :=
  log.foldl (fun last e =>
    match e with
    | .submit _ transaction (.error error) => some (transaction, error)
    | .submit _ _ (.ok _) => none
    | _ => last) none

/-- Whether a fee and resources are enough after a refusal. -/
def answersRefusal (fee : Nat) (resources : Resources) : Option (Nat × TransportError) → Bool
  | some (refused, error) =>
    (error.kind != .insufficientFee || 2 ^ 63 ≤ refused || refused < fee) &&
      (error.kind != .resourceLimitExceeded || error.requiredResources.all resources.contains)
  | none => true

/-! ### What the transport has answered -/

/-- What the answers so far come to: the fee they have raised, the last first simulation of an
attempt, and the last refusal. -/
structure Answered where
  fee : Nat
  simulation : Simulation
  refused : Option (Nat × TransportError)

namespace Answered

variable (config : SubmitterConfig) (answered : Answered)

/-- The fee of the transaction that comes next. -/
def offer : Nat :=
  max answered.fee (addMargin answered.simulation.minimumFee config.feeSafetyMarginBps)

/-- Its resources. -/
def grant : Resources :=
  answered.simulation.requiredResources.withSafetyMargin config.resourceSafetyMarginBps

/-- A failure doubles the raised fee, which starts from nothing, if it was about the fee. -/
def failed (error : TransportError) : Answered :=
  if error.kind = .insufficientFee then
    { answered with fee := max (min (answered.fee * 2) u64Max) 1 }
  else answered

/-- A second simulation raises the fee when it asks for a higher one, and for nothing else. -/
def resimulated (simulation : Simulation) : Answered :=
  if !simulation.restoreRequired && (answered.grant config).contains simulation.requiredResources &&
      answered.offer config < simulation.minimumFee then
    { answered with fee := addMargin simulation.minimumFee config.feeSafetyMarginBps }
  else answered

/-- By an event, of which only the answer counts. -/
def next : Event → Answered
  | .simulate _ (.ok simulation) => { answered with simulation }
  | .resimulate _ (.ok simulation) => answered.resimulated config simulation
  | .build _ _ _ (.error error) | .simulate _ (.error error) | .resimulate _ (.error error)
  | .confirm _ (.error error) => answered.failed error
  | .submit _ _ (.error error) =>
    { answered.failed error with refused := some (answered.offer config, error) }
  | .submit _ _ (.ok _) => { answered with refused := none }
  | _ => answered

@[simp] theorem failed_refused (error : TransportError) :
    (answered.failed error).refused = answered.refused := by
  unfold failed
  split <;> rfl

@[simp] theorem resimulated_refused (simulation : Simulation) :
    (answered.resimulated config simulation).refused = answered.refused := by
  unfold resimulated
  split <;> rfl

/-- A failure raises the answers as the recovery raises the loop. -/
theorem failed_fee {loop : Loop} (error : TransportError) (same : answered.fee = loop.fee) :
    (answered.failed error).fee = (loop.raised config error).fee := by
  unfold failed Loop.raised
  cases error.kind <;> simp [same]

end Answered

def answered (config : SubmitterConfig) (log : List Event) : Answered :=
  log.foldl (Answered.next config) ⟨0, ⟨0, .zero, false⟩, none⟩

/-- At every submission, what the transport has answered is enough for its last refusal. -/
def AnswersRise (config : SubmitterConfig) (log : List Event) : Prop :=
  AtEach (fun before e => e.isSubmit = true →
    answersRefusal ((answered config before).offer config) ((answered config before).grant config)
      (answered config before).refused = true) log

section Logs

variable {config : SubmitterConfig} {log : List Event} {e : Event} {loop loop' : Loop}

theorem refused_iff {way : Transaction → TransportError → Prop} :
    Refused way log ↔ ∃ transaction error, refusal log = some (transaction, error) ∧
      way transaction error := by
  unfold Refused
  induction log using List.reverseRecOn with
  | nil => exact ⟨fun pending => absurd pending not_pending_nil, nofun⟩
  | append_singleton log e ih =>
    rw [pending_snoc, ih]
    unfold refusal
    rw [List.foldl_append, List.foldl_cons, List.foldl_nil]
    rcases e with _ | _ | _ | _ | _ | _ | ⟨_, _, _ | _⟩ | _ | _ | _ <;>
      simp [Event.isSubmit]

theorem answersRefusal_iff {fee : Nat} {resources : Resources} :
    answersRefusal fee resources ((refusal log).map (Prod.map Transaction.fee id)) = true ↔
      Answers fee resources log := by
  unfold Answers RefusedFee RefusedResources
  simp only [refused_iff]
  rcases refusal log with _ | ⟨refused, error⟩
  · simp [answersRefusal]
  · cases kind : error.kind <;> simp [answersRefusal, kind, Option.all_eq_true]
    omega

theorem answered_snoc : answered config (log ++ [e]) = (answered config log).next config e := by
  unfold answered
  rw [List.foldl_append]
  rfl

/-- The loop and the log are as the answers say, and submissions answer refusals exactly when the
answers rise. -/
structure Tracks (config : SubmitterConfig) (loop : Loop) (log : List Event) : Prop where
  fee : (answered config log).fee = loop.fee
  refused : (answered config log).refused = (refusal log).map (Prod.map Transaction.fee id)
  follows : Escalates log ↔ AnswersRise config log

theorem Tracks.snoc (tracks : Tracks config loop log) (other : e.isSubmit = false)
    (fee : ((answered config log).next config e).fee = loop'.fee) :
    Tracks config loop' (log ++ [e]) where
  fee := answered_snoc ▸ fee
  refused := by
    have kept : ((answered config log).next config e).refused = (answered config log).refused := by
      unfold Answered.next
      split <;> first | rfl | (simp; done) | cases other
    have last : refusal (log ++ [e]) = refusal log := by
      unfold refusal
      rw [List.foldl_append, List.foldl_cons, List.foldl_nil]
      split <;> first | rfl | cases other
    rw [answered_snoc, kept, tracks.refused, last]
  follows := by
    have follows := tracks.follows
    unfold Escalates AnswersRise at follows ⊢
    rw [atEach_snoc, atEach_snoc, follows]
    refine and_congr_right fun _ => ⟨fun _ submits => ?_, ?_⟩
    · rw [other] at submits
      cases submits
    · rintro _ _ _ _ rfl
      cases other

/-- The step that matters: what is submitted is what the answers come to. -/
theorem Tracks.submit {sequence : Nat} {transaction : Transaction} {answer : Answer String}
    (tracks : Tracks config loop log)
    (hasFee : transaction.fee = (answered config log).offer config)
    (hasResources : transaction.resources = (answered config log).grant config)
    (fee : ((answered config log).next config (.submit sequence transaction answer)).fee =
      loop'.fee) : Tracks config loop' (log ++ [.submit sequence transaction answer]) where
  fee := answered_snoc ▸ fee
  refused := by
    rw [answered_snoc]
    unfold refusal
    rw [List.foldl_append, List.foldl_cons, List.foldl_nil]
    cases answer with
    | ok hash => rfl
    | error error => simp [Answered.next, hasFee]
  follows := by
    have follows := tracks.follows
    unfold Escalates AnswersRise at follows ⊢
    rw [atEach_snoc, atEach_snoc, follows]
    refine and_congr_right fun _ => ?_
    rw [tracks.refused, ← hasFee, ← hasResources, answersRefusal_iff]
    constructor
    · exact fun answers _ => answers sequence transaction answer rfl
    · rintro answers _ _ _ ⟨⟩
      exact answers rfl

/-- The log of a call, however it ends. -/
def Followed (config : SubmitterConfig) (log : List Event) : Prop :=
  Escalates log ↔ AnswersRise config log

theorem tracksInvariant : LogInvariant config (Tracks config) (Followed config) where
  quiet e tracks quiet := by
    refine tracks.snoc (by cases e <;> first | rfl | cases quiet) (Eq.trans ?_ tracks.fee)
    rcases e with ⟨_ | _⟩ | _ | _ | _ | _ | _ | _ | ⟨_, _ | _⟩ | _ | _ <;> first | rfl | cases quiet
  refresh _ tracks := tracks.snoc rfl tracks.fee
  unconfirmed _ error tracks := tracks.snoc rfl (Answered.failed_fee _ _ error tracks.fee)
  noted _ tracks := ⟨tracks.fee, tracks.refused, tracks.follows⟩
  fails tracks := tracks.follows

end Logs

/-! ### The pipeline -/

section Pipeline

variable {τ : Type} {setup : Setup τ} {s : Session τ} {request : ScoreSubmission} {attempt : Nat}
  {loop : Loop}

/-- The attempt ends in a log of which the invariant holds, whichever way. -/
abbrev KeepsTracking (m : S τ Attempt) (setup : Setup τ) (s : Session τ) : Prop :=
  ends m (Attempt.Leaves (Tracks setup.config) (Followed setup.config))
    (fun s => Followed setup.config s.log) setup s

section Adjusted

variable {adjusted : Transaction} (tracks : Tracks setup.config loop s.log)
  (hasFee : adjusted.fee = (answered setup.config s.log).offer setup.config)
  (hasResources : adjusted.resources = (answered setup.config s.log).grant setup.config)

include tracks hasFee hasResources

theorem submitBuilt_tracks : KeepsTracking (submitBuilt request attempt loop adjusted) setup s := by
  unfold KeepsTracking submitBuilt
  rw [ends_bind]
  refine ends_ask fun signature t _ => ?_
  have same : answered setup.config (s.log ++ [.sign adjusted signature]) =
      answered setup.config s.log := answered_snoc
  have signed : Tracks setup.config loop (s.log ++ [.sign adjusted signature]) :=
    tracks.snoc rfl tracks.fee
  rw [ends_bind]
  refine ends_orFail (fun bytes _ => ?_) signed.follows
  rw [ends_bind, ends_count, ends_bind]
  rw [← same] at hasFee hasResources
  refine ends_ask fun submitted t _ => ?_
  refine tracksInvariant.confirm (fun hash taken => ?_) fun error refused => ?_
  · subst taken
    exact signed.submit hasFee hasResources signed.fee
  · subst refused
    exact signed.submit hasFee hasResources (Answered.failed_fee _ _ error signed.fee)

theorem submitAdjusted_tracks {resources : Resources}
    (granted : resources = (answered setup.config s.log).grant setup.config) :
    KeepsTracking (submitAdjusted request attempt loop resources adjusted) setup s := by
  subst granted
  unfold KeepsTracking submitAdjusted
  rw [ends_bind, ends_asks, ends_bind, ends_count, ends_bind]
  refine ends_ask fun answer t _ => ?_
  refine tracksInvariant.orRecover (fun error failed => ?_) fun simulation isAnswer => ?_
  · subst failed
    exact tracks.snoc rfl (Answered.failed_fee _ _ error tracks.fee)
  · subst isAnswer
    -- the answers change with the loop: only when the fee alone is too low
    have kept (enough : ¬ (simulation.restoreRequired = false ∧
        ((answered setup.config s.log).grant setup.config).contains simulation.requiredResources =
          true ∧ adjusted.fee < simulation.minimumFee)) :
        answered setup.config (s.log ++ [.resimulate adjusted (.ok simulation)]) =
          answered setup.config s.log := by
      rw [answered_snoc, Answered.next, Answered.resimulated, if_neg]
      simpa [hasFee, and_assoc] using enough
    have again {loop' : Loop} (unraised : loop'.fee = loop.fee)
        (same : answered setup.config (s.log ++ [.resimulate adjusted (.ok simulation)]) =
          answered setup.config s.log) :
        Tracks setup.config loop' (s.log ++ [.resimulate adjusted (.ok simulation)]) :=
      tracks.snoc rfl (by rw [← answered_snoc, same, tracks.fee, unraised])
    simp only [ends_ite]
    split
    · next archived =>
      exact tracksInvariant.restoreAndRefresh (again rfl (kept (by simp [archived])))
    · next present =>
      split
      · next exceeded =>
        rw [ends_bind]
        refine tracksInvariant.retry _ (again rfl (kept ?_))
        simp_all
      · next covered =>
        split
        · next cheap =>
          rw [ends_bind]
          refine tracksInvariant.retry _ (tracks.snoc rfl ?_)
          rw [Answered.next, Answered.resimulated, if_pos]
          simp_all
        · next paid =>
          have same := kept (by simp [paid])
          exact submitBuilt_tracks (again rfl same) (by rw [same, hasFee])
            (by rw [same, hasResources])

end Adjusted

theorem adjust_tracks {bounds : TransactionBounds} {simulation : Simulation}
    (builds : BuildsAsked setup.transport) (tracks : Tracks setup.config loop s.log)
    (last : (answered setup.config s.log).simulation = simulation) :
    KeepsTracking (adjust request attempt loop bounds simulation) setup s := by
  subst last
  unfold KeepsTracking adjust build
  rw [ends_bind, ends_asks, ends_bind]
  refine ends_ask fun answer t heard => ?_
  rw [ends_bind]
  cases answer with
  | error error =>
    have failed {fee : Nat} {resources : Resources} :
        Tracks setup.config (loop.raised setup.config error)
          (s.log ++ [.build loop.sequence fee resources (.error error)]) :=
      tracks.snoc rfl (Answered.failed_fee _ _ error tracks.fee)
    exact failed.follows
  | ok adjusted =>
    obtain ⟨hasFee, hasResources⟩ := builds _ _ _ _ _ _ _ heard
    have same {fee : Nat} {resources : Resources} : answered setup.config (s.log ++ [.build
        loop.sequence fee resources (.ok adjusted)]) = answered setup.config s.log := answered_snoc
    have built {fee : Nat} {resources : Resources} : Tracks setup.config loop (s.log ++ [.build
        loop.sequence fee resources (.ok adjusted)]) := tracks.snoc rfl tracks.fee
    refine submitAdjusted_tracks built ?_ ?_ ?_
    · rw [same, hasFee, Answered.offer, tracks.fee]
    · rw [same, hasResources]
      rfl
    · rw [same]
      rfl

theorem attemptOnce_tracks (builds : BuildsAsked setup.transport)
    (tracks : Tracks setup.config loop s.log) :
    KeepsTracking (attemptOnce request attempt loop) setup s := by
  unfold KeepsTracking attemptOnce build
  rw [ends_bind, ends_count, ends_bind]
  refine ends_ask fun answer t _ => ?_
  have bounded : Tracks setup.config loop (s.log ++ [.transactionBounds answer]) :=
    tracks.snoc rfl tracks.fee
  rw [ends_bind]
  refine ends_orFail (fun bounds _ => ?_) bounded.follows
  rw [ends_bind]
  refine ends_ask fun answer t _ => ?_
  refine tracksInvariant.orRecover (fun error failed => ?_) fun transaction isBuilt => ?_
  · subst failed
    exact bounded.snoc rfl (Answered.failed_fee _ _ error bounded.fee)
  · subst isBuilt
    have built := bounded.snoc (e := .build loop.sequence loop.fee loop.resources
      (.ok transaction)) rfl bounded.fee
    rw [ends_bind, ends_count, ends_bind]
    refine ends_ask fun answer t _ => ?_
    refine tracksInvariant.orRecover (fun error failed => ?_) fun simulation isSimulated => ?_
    · subst failed
      exact built.snoc rfl (Answered.failed_fee _ _ error built.fee)
    · subst isSimulated
      have simulated := built.snoc (e := .simulate transaction (.ok simulation)) rfl built.fee
      rw [ends_ite]
      split
      · exact tracksInvariant.restoreAndRefresh simulated
      · exact adjust_tracks builds simulated (by rw [answered_snoc]; rfl)

end Pipeline

/-- In a call of `submit` whose transport builds what it is asked for, the transactions submitted
answer the refusals before them exactly when the answers of the transport rise, however the call
ends. -/
theorem escalates_iff_answersRise {τ : Type} {setup : Setup τ} {s t : Session τ}
    {request : ScoreSubmission} (fresh : s.log = []) (builds : BuildsAsked setup.transport)
    (ended : Ended (submit request) setup s t) :
    Escalates t.log ↔ AnswersRise setup.config t.log := by
  refine (tracksInvariant.submit (fun _ _ _ => attemptOnce_tracks builds) ?_).ended ended
  rw [fresh]
  exact ⟨rfl, rfl, fun _ => AtEach.nil, fun _ => AtEach.nil⟩

/-! ### Refusals that are not answered -/

instance (before : List Event) (e : Event) :
    Decidable (∀ sequence transaction answer, e = .submit sequence transaction answer →
      Answers transaction.fee transaction.resources before) :=
  match e with
  | .submit sequence transaction answer =>
    decidable_of_iff _ (answersRefusal_iff.trans
      ⟨by rintro answers _ _ _ ⟨⟩; exact answers, fun all => all sequence transaction answer rfl⟩)
  | .nextSequence _ | .transactionBounds _ | .build .. | .simulate .. | .resimulate .. | .sign ..
  | .confirm .. | .lookup _ | .restore _ => .isTrue nofun

instance (log : List Event) : Decidable (Escalates log) := AtEach.decidable log

/-- A network that refuses the first transaction and takes the second. -/
def refusing (error : TransportError) (simulations : List Simulation) : Script where
  sequences := [1]
  simulations
  submissions := [.error error, .ok "second"]
  confirmations := [.ok ⟨"second", 8, "key"⟩]

def tooCheap : TransportError := ⟨.insufficientFee, "tx_insufficient_fee", none⟩

def tooSmall : TransportError :=
  ⟨.resourceLimitExceeded, "resource limit exceeded", some ⟨1000, 1000, 10, 10⟩⟩

/-- With the same simulations as before, the second transaction has the fee of the first, or
resources that do not cover those required. -/
theorem refused_alike :
    (∃ t, Ended (submit sampleRequest) scriptedSetup (opened (refusing tooCheap [])) t ∧
      ¬ Escalates t.log) ∧
    ∃ t, Ended (submit sampleRequest) scriptedSetup (opened (refusing tooSmall [])) t ∧
      ¬ Escalates t.log :=
  ⟨exists_ended (by decide +kernel), exists_ended (by decide +kernel)⟩

/-- Here the third simulation, the first of the second attempt, asks for more. -/
def risingFee : List Simulation :=
  [⟨100, ⟨10, 10, 1, 1⟩, false⟩, ⟨100, ⟨10, 10, 1, 1⟩, false⟩, ⟨150, ⟨10, 10, 1, 1⟩, false⟩,
    ⟨150, ⟨10, 10, 1, 1⟩, false⟩]

theorem builds_asked : BuildsAsked scriptedSetup.transport := by
  rintro _ _ _ _ _ _ _ ⟨⟩
  exact ⟨rfl, rfl⟩

theorem escalates_iff_answersRise_sample :
    ∃ t, Ended (submit sampleRequest) scriptedSetup (opened (refusing tooCheap risingFee)) t ∧
      Escalates t.log ∧ AnswersRise scriptedSetup.config t.log := by
  obtain ⟨t, ended, escalates⟩ :
      ∃ t, Ended (submit sampleRequest) scriptedSetup (opened (refusing tooCheap risingFee)) t ∧
        Escalates t.log :=
    exists_ended (by decide +kernel)
  exact ⟨t, ended, escalates,
    (escalates_iff_answersRise rfl builds_asked ended).mp escalates⟩

end LedgerLens.Submitter
