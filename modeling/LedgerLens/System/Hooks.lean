import LedgerLens.Host.Invariants
import LedgerLens.System.Limits

/-!
Dispatch with consumers that call back. A consumer is untrusted code: while it
runs it may call any entry point of this contract, in any order. The switch
`dispatching` is set meanwhile, and every path to a live score or to the hook
registry asks for it. The main result is `dispatch_not_reentered`.
-/

namespace LedgerLens

open Host Host.Prog Storage

/-! ### Consumers -/

/-- What a consumer does when it is called: it calls this contract, and returns or fails. -/
structure Reaction where
  calls : List Transaction
  succeeds : Bool

/-- What every consumer does, given what it is told and the state it finds. -/
abbrev Consumers := Address → Address → Symbol → RiskScore → Nat → State → Reaction

/-- The states a sequence of calls goes through. -/
def statesFrom (w : State) : List Transaction → List State
  | [] => [w]
  | tx :: rest => w :: statesFrom (step exec w tx) rest

/-- A hook that was called, what it was told, and the states of the contract while it ran. -/
structure HookCall where
  hook : ScoreChangeHook
  scoreCount : Nat
  states : List State

/-- Call a consumer; what it did is undone when it fails. -/
def callBack (consumer : State → Reaction) : M (Bool × List State) := fun _ w =>
  let reaction := consumer w
  let visited := statesFrom w reaction.calls
  if reaction.succeeds then
    .ok (true, visited) { run exec w reaction.calls with authorized := w.authorized }
  else .ok (false, visited) w

/-- `dispatchHook` with consumers that call back, and with a log of the calls. -/
def dispatchHookWith (consumers : Consumers) (wallet : Address) (pair : Symbol)
    (riskScore : RiskScore) (scoreCount threshold : Nat)
    (progress : DispatchProgress × List HookCall) (hook : ScoreChangeHook) :
    M (DispatchProgress × List HookCall) :=
  if progress.1.dispatched < maxScoreChangeHooksPerDispatch ∧
    hook.isDue wallet pair scoreCount
  then do
    let (succeeded, states) ←
      callBack (consumers hook.consumer wallet pair riskScore scoreCount)
    let updated := hook.afterCallback succeeded threshold scoreCount
    whenever (!succeeded && updated.consecutiveFailures = threshold) do
      emit (.scoreHookAutoDisabled hook.consumer wallet pair updated.consecutiveFailures)
    return ({ dispatched := progress.1.dispatched + 1, hooks := progress.1.hooks ++ [updated] },
      progress.2 ++ [⟨hook, scoreCount, states⟩])
  else
    return ({ progress.1 with hooks := progress.1.hooks ++ [hook] }, progress.2)

/-- `dispatchScoreChangeHooks` with consumers that call back; the result is the log. -/
def dispatchScoreChangeHooksWith (consumers : Consumers) (dispatcher wallet : Address)
    (pair : Symbol) : M (List HookCall) := do
  require (!(← isScoreHookDispatching)) .scoreHookDispatchInProgress
  requireAuth dispatcher
  let scoreCount ← getScoreCount wallet pair
  let riskScore ← okOr (← peekScore wallet pair) .scoreNotFound
  let hooks ← getScoreChangeHooks
  let threshold ← getScoreHookFailureThreshold
  store .inst .dispatching true
  let progress ← fold (dispatchHookWith consumers wallet pair riskScore scoreCount threshold)
    ({ dispatched := 0, hooks := [] }, []) hooks
  store .inst .registry progress.1.hooks
  store .inst .dispatching false
  return progress.2

section Answering

variable (env : ContractEnv) (wallet : Address) (pair : Symbol) (riskScore : RiskScore)
  (count threshold : Nat)

/-- Consumers that only answer, as the environment says. -/
def answering : Consumers := fun consumer wallet pair riskScore count _ =>
  ⟨[], env.external.onScoreChange consumer wallet pair riskScore count⟩

theorem callBack_answering (consumer : Address) (w : State) :
    callBack (answering env consumer wallet pair riskScore count) env w =
      .ok (env.external.onScoreChange consumer wallet pair riskScore count, [w]) w := by
  unfold callBack answering
  cases env.external.onScoreChange consumer wallet pair riskScore count <;> rfl

theorem whenever_emits (reached : Bool) (event : Event) (w : State) :
    ∃ w', (whenever reached (emit event) : M Unit) env w = .ok () w' := by
  cases reached <;> exact ⟨_, rfl⟩

theorem dispatchHooks_answering (hooks : List ScoreChangeHook)
    (progress : DispatchProgress × List HookCall)
    (logged : progress.2.length = progress.1.dispatched) (w : State) :
    ∃ after log w', log.length = after.dispatched ∧
      fold (dispatchHookWith (answering env) wallet pair riskScore count threshold) progress hooks
        env w = .ok (after, log) w' ∧
      fold (dispatchHook wallet pair riskScore count threshold) progress.1 hooks env w =
        .ok after w' := by
  induction hooks generalizing progress w with
  | nil => exact ⟨progress.1, progress.2, w, logged, rfl, rfl⟩
  | cons hook rest ih =>
    obtain ⟨next, w₁, logged, visited, plain⟩ : ∃ next w₁, next.2.length = next.1.dispatched ∧
        dispatchHookWith (answering env) wallet pair riskScore count threshold progress hook env w =
          .ok next w₁ ∧
        dispatchHook wallet pair riskScore count threshold progress.1 hook env w =
          .ok next.1 w₁ := by
      unfold dispatchHookWith dispatchHook
      have asked : (asks fun env => env.external.onScoreChange hook.consumer wallet pair riskScore
          count : M Bool) env w =
        .ok (env.external.onScoreChange hook.consumer wallet pair riskScore count) w := rfl
      split
      · rw [run_bind_of_ok (callBack_answering env wallet pair riskScore count hook.consumer w),
          run_bind_of_ok asked]
        generalize env.external.onScoreChange hook.consumer wallet pair riskScore count = succeeded
        obtain ⟨w₁, emitted⟩ := whenever_emits env (!succeeded && (hook.afterCallback succeeded
          threshold count).consecutiveFailures = threshold) (.scoreHookAutoDisabled hook.consumer
            wallet pair (hook.afterCallback succeeded threshold count).consecutiveFailures) w
        exact ⟨(_, _), w₁, by simp [logged], run_bind_of_ok emitted, run_bind_of_ok emitted⟩
      · exact ⟨({ progress.1 with hooks := progress.1.hooks ++ [hook] }, progress.2), w, logged,
          rfl, rfl⟩
    obtain ⟨after, log, w', same, loud, quiet⟩ := ih next logged w₁
    exact ⟨after, log, w', same, (run_bind_of_ok visited).trans loud,
      (run_bind_of_ok plain).trans quiet⟩

end Answering

/-- With consumers that only answer this is the dispatch of the contract, which reports the number
of calls. -/
theorem dispatch_answering (env : ContractEnv) (w : State) (dispatcher wallet : Address)
    (pair : Symbol) :
    (List.length <$> dispatchScoreChangeHooksWith (answering env) dispatcher wallet pair) env w =
      dispatchScoreChangeHooks dispatcher wallet pair env w := by
  have next {α β : Type} {m : M α} {f g : α → M β} {w : State}
      (same : ∀ a w', f a env w' = g a env w') : (m >>= f) env w = (m >>= g) env w := by
    rw [run_bind, run_bind]
    cases m env w <;> first | rfl | exact same ..
  unfold dispatchScoreChangeHooksWith dispatchScoreChangeHooks
  simp only [map_bind]
  refine next fun _ _ => next fun _ _ => next fun _ _ => next fun count _ => next fun _ _ => ?_
  refine next fun riskScore _ => next fun hooks _ => next fun threshold _ => next fun _ w₁ => ?_
  obtain ⟨after, log, w', same, loud, quiet⟩ :=
    dispatchHooks_answering env wallet pair riskScore count threshold hooks (⟨0, []⟩, []) rfl w₁
  rw [run_bind_of_ok loud, run_bind_of_ok quiet]
  refine next fun _ _ => next fun _ _ => ?_
  simp only [map_pure, same]

/-! ### The switch -/

abbrev hookRegistry (w : State) : List ScoreChangeHook :=
  (w.ledger.entry .inst .registry).getD []

abbrev isDispatching (w : State) : Bool := (w.ledger.entry .inst .dispatching).getD false

/-- What the switch protects, and the switch. -/
@[reducible] def Tag.isHooked : Tag → Bool
  | .score | .scoreCount | .registry | .failureThreshold | .dispatching => true
  | _ => false

/-- The switch is set, and all that it protects is as it was in `w₀`. -/
structure Frozen (w₀ : State) (env : ContractEnv) (w : State) : Prop where
  dispatching : isDispatching w₀ = true
  same : Same Tag.isHooked w₀ w

abbrev SwitchedOff (_ : ContractEnv) (w : State) : Prop := isDispatching w = false

section Switch

variable {env : ContractEnv} {w w' w₀ : State}

theorem Frozen.isDispatching (frozen : Frozen w₀ env w) : isDispatching w = true := by
  rw [LedgerLens.isDispatching, frozen.same.entry .inst .dispatching rfl]
  exact frozen.dispatching

instance : CarriedBy (Frozen w₀) (Same Tag.isHooked) where
  forth same frozen := ⟨frozen.dispatching, IsTrans.trans _ _ _ frozen.same same⟩

instance : Reflects SwitchedOff (Same Tag.isHooked) where
  back same idle := by
    rwa [SwitchedOff, isDispatching, same.entry .inst .dispatching rfl] at idle

/-- What asks for the switch does not return while it is set. -/
instance Preserves.ofSwitchedOff {α : Type} (m : M α) [guarded : Guarded SwitchedOff m] :
    Preserves (Frozen w₀) m where
  ok ran frozen := by
    have idle : SwitchedOff _ _ := guarded.holds ran
    rw [SwitchedOff, frozen.isDispatching] at idle
    cases idle

instance {α : Type} (rest : Bool → Unit → M α) : Guarded SwitchedOff
    (isScoreHookDispatching >>= fun dispatching =>
      require (!dispatching) .scoreHookDispatchInProgress >>= rest dispatching) where
  holds ran := by
    obtain ⟨dispatching, _, read, ran⟩ := bind_ok.mp ran
    obtain ⟨rfl, rfl⟩ := loadOr_ok.mp read
    obtain ⟨_, _, asked, _⟩ := bind_ok.mp ran
    simpa using (require_ok.mp asked).1

end Switch

section Entries

set_option synthInstance.maxSize 100000000

variable {w₀ : State} (signers : List Address) (wallet : Address) (pair : Symbol)

instance (riskScore : RiskScore) : Guarded SwitchedOff (admitScore wallet pair riskScore) := by
  unfold admitScore
  infer_instance

instance (riskScore : RiskScore) :
    Guarded SwitchedOff (writeScoreWithRateLimit wallet pair riskScore) := by
  unfold writeScoreWithRateLimit
  infer_instance

instance : Guarded SwitchedOff (ensureSubmissionsOpen pair) := by
  unfold ensureSubmissionsOpen
  infer_instance

instance (sub : ScoreSubmission) (input : Option ScoreAttestationInput) :
    Guarded SwitchedOff (submitScore signers sub input) := by
  unfold submitScore
  infer_instance

instance (subs : List ScoreSubmission) : Guarded SwitchedOff
    (submitScoresBatch subs) := by
  unfold submitScoresBatch
  infer_instance

instance (subs : List ScoreSubmissionWithProof) (attestation : BatchAttestation) :
    Guarded SwitchedOff (submitScoresBatchAttested signers subs attestation) := by
  unfold submitScoresBatchAttested
  infer_instance

instance : Guarded SwitchedOff (commitPendingScore wallet pair) := by
  unfold commitPendingScore
  infer_instance

instance (corrected : Nat) :
    Guarded SwitchedOff (resolveDisputeAdmin signers wallet pair corrected) := by
  unfold resolveDisputeAdmin
  infer_instance

instance (reason category : Bytes) :
    Guarded SwitchedOff (clearScoreWithAudit signers wallet pair reason category) := by
  unfold clearScoreWithAudit
  infer_instance

instance (consumer : Address) :
    Guarded SwitchedOff (registerScoreChangeHook consumer wallet pair) := by
  unfold registerScoreChangeHook
  infer_instance

instance (consumer : Address) :
    Guarded SwitchedOff (unregisterScoreChangeHook consumer wallet pair) := by
  unfold unregisterScoreChangeHook
  infer_instance

instance (threshold : Nat) : Guarded SwitchedOff (setScoreHookFailureThreshold signers
    threshold) := by
  unfold setScoreHookFailureThreshold
  infer_instance

instance (dispatcher : Address) :
    Guarded SwitchedOff (dispatchScoreChangeHooks dispatcher wallet pair) := by
  unfold dispatchScoreChangeHooks
  infer_instance

instance (ns : NormalizedSubmission) :
    Preserves (Frozen w₀) (finalizeScoreSubmission signers ns) := by
  unfold finalizeScoreSubmission landScore
  infer_instance

instance (sub : ScoreSubmission) (attestation : RelayScoreAttestation) (digest : BytesN 32) :
    Preserves (Frozen w₀) (acceptRelay wallet sub attestation digest) := by
  unfold acceptRelay
  infer_instance

instance (sub : ScoreSubmission) (attestation : RelayScoreAttestation) :
    Preserves (Frozen w₀) (relayAttestedScore wallet sub attestation) := by
  unfold relayAttestedScore
  infer_instance

instance (votes : List ModelSubmission) (timestamp : Nat) :
    Preserves (Frozen w₀) (submitConsensusScore signers wallet pair votes timestamp) := by
  unfold submitConsensusScore
  infer_instance

instance (votes : List ModelSubmission) (nonces : List Nat) (timestamp : Nat) :
    Preserves (Frozen w₀) (revealConsensus signers wallet pair votes nonces timestamp) := by
  unfold revealConsensus
  infer_instance

/-- Contagion does not fail while the switch is set; it does nothing. -/
instance (boost : Nat) : Preserves (Frozen w₀) (propagateContagion wallet pair boost) := by
  refine .of_wlp fun env w frozen => ?_
  unfold propagateContagion
  rw [wlp_bind, wlp_loadOr, wlp_ite, if_pos frozen.isDispatching, wlp_pure]
  exact frozen

end Entries

/-! ### Calls while the switch is set -/

section Runs

variable {env : ContractEnv} {w w' w₀ : State} {call : Call}

/-- Whatever entry point is called, it changes nothing that the switch protects. -/
theorem exec_whileDispatching (frozen : Frozen w₀ env w) (ran : exec call env w = .ok () w') :
    Frozen w₀ env w' := by
  have unchanged (free : (footprint call).all (fun t => !t.isHooked) = true) :
      Frozen w₀ env w' :=
    CarriedBy.forth (R := Same Tag.isHooked) (About.of_all free ((exec_keeps call).ok ran))
      frozen
  rcases call with call | ⟨signers, call⟩ | call
  · cases call
    case submitScore signers sub input =>
      exact Preserves.ok (m := submitScore signers sub input) ran frozen
    case relayAttestedScore relayer sub attestation =>
      exact Preserves.ok (m := dropResult (relayAttestedScore relayer sub attestation)) ran
        frozen
    case submitScoresBatch subs =>
      exact Preserves.ok (m := dropResult (submitScoresBatch subs)) ran frozen
    case submitScoresBatchAttested signers subs attestation =>
      exact Preserves.ok
        (m := dropResult (submitScoresBatchAttested signers subs attestation)) ran
        frozen
    case submitConsensusScore signers wallet pair votes timestamp =>
      exact Preserves.ok (m := submitConsensusScore signers wallet pair votes timestamp)
        ran frozen
    case revealConsensus signers wallet pair votes nonces timestamp =>
      exact Preserves.ok (m := revealConsensus signers wallet pair votes nonces timestamp)
        ran frozen
    case commitPendingScore wallet pair =>
      exact Preserves.ok (m := commitPendingScore wallet pair) ran frozen
    case propagateContagion anchor pair boost =>
      exact Preserves.ok (m := dropResult (propagateContagion anchor pair boost)) ran
        frozen
    case registerScoreChangeHook consumer wallet pair =>
      exact Preserves.ok (m := registerScoreChangeHook consumer wallet pair) ran frozen
    case unregisterScoreChangeHook consumer wallet pair =>
      exact Preserves.ok (m := unregisterScoreChangeHook consumer wallet pair) ran frozen
    case dispatchScoreChangeHooks dispatcher wallet pair =>
      exact Preserves.ok (m := dropResult (dispatchScoreChangeHooks dispatcher wallet pair))
        ran frozen
    all_goals exact unchanged rfl
  · cases call
    case resolveDisputeAdmin wallet pair corrected =>
      exact Preserves.ok (m := resolveDisputeAdmin signers wallet pair corrected) ran
        frozen
    case clearScoreWithAudit wallet pair reason category =>
      exact Preserves.ok (m := clearScoreWithAudit signers wallet pair reason category)
        ran frozen
    case setScoreHookFailureThreshold threshold =>
      exact Preserves.ok (m := setScoreHookFailureThreshold signers threshold) ran frozen
    all_goals exact unchanged rfl
  · exact unchanged (by cases call <;> rfl)

theorem step_whileDispatching {tx : Transaction} (frozen : Frozen w₀ env w) :
    Frozen w₀ env (step exec w tx) := by
  by_cases returns : Returns exec w tx
  · have start : Frozen w₀ tx.env { w with authorized := [] } :=
      ⟨frozen.dispatching, frozen.same.entry, nofun, nofun⟩
    have kept := exec_whileDispatching start returns.ok
    exact ⟨kept.dispatching, kept.same⟩
  · rwa [step_of_not_returns returns]

theorem run_whileDispatching {txs : List Transaction} (frozen : Frozen w₀ env w) :
    Frozen w₀ env (run exec w txs) :=
  run_induction (fun _ _ => step_whileDispatching) frozen

/-- Not only at the end: no call in between changes anything either. -/
theorem statesFrom_frozen {txs : List Transaction} (frozen : Frozen w₀ env w) :
    ∀ v ∈ statesFrom w txs, Frozen w₀ env v := by
  induction txs generalizing w with
  | nil =>
    intro v visited
    obtain rfl := List.mem_singleton.mp visited
    exact frozen
  | cons tx rest ih =>
    intro v visited
    rcases List.mem_cons.mp visited with rfl | later
    · exact frozen
    · exact ih (step_whileDispatching frozen) v later

end Runs

/-! ### Dispatch -/

abbrev scoreCountOf (w : State) (wallet : Address) (pair : Symbol) : Nat :=
  (w.ledger.entry .persistent (.scoreCount wallet pair)).getD 0

abbrev failureThreshold (w : State) : Nat :=
  (w.ledger.entry .inst .failureThreshold).getD defaultScoreHookFailureThreshold

/-- What one dispatch makes of the registry, and whom it calls: the first hook that is due. -/
inductive Dispatched (wallet : Address) (pair : Symbol) (scoreCount threshold : Nat) :
    List ScoreChangeHook → List ScoreChangeHook → List HookCall → Prop
  | nothing {hooks : List ScoreChangeHook}
      (waiting : ∀ hook ∈ hooks, hook.isDue wallet pair scoreCount = false) :
      Dispatched wallet pair scoreCount threshold hooks hooks []
  | first {earlier later : List ScoreChangeHook} {hook : ScoreChangeHook} (succeeded : Bool)
      (states : List State)
      (waiting : ∀ hook ∈ earlier, hook.isDue wallet pair scoreCount = false)
      (due : hook.isDue wallet pair scoreCount = true) :
      Dispatched wallet pair scoreCount threshold (earlier ++ hook :: later)
        (earlier ++ hook.afterCallback succeeded threshold scoreCount :: later)
        [⟨hook, scoreCount, states⟩]

section Dispatch

variable {consumers : Consumers} {wallet dispatcher : Address} {pair : Symbol}
  {riskScore : RiskScore} {scoreCount threshold : Nat} {env : ContractEnv} {w w' w₀ : State}
  {hooks hooks' : List ScoreChangeHook} {calls : List HookCall} {hook : ScoreChangeHook}

theorem Dispatched.skip (dispatched : Dispatched wallet pair scoreCount threshold hooks hooks'
      calls) (waiting : calls = [] → hook.isDue wallet pair scoreCount = false) :
    Dispatched wallet pair scoreCount threshold (hooks ++ [hook]) (hooks' ++
      [hook]) calls := by
  cases dispatched with
  | nothing others =>
    refine .nothing fun other listed => ?_
    rcases List.mem_append.mp listed with listed | listed
    · exact others other listed
    · obtain rfl := List.mem_singleton.mp listed
      exact waiting rfl
  | first succeeded states others due =>
    simp only [List.append_assoc, List.cons_append]
    exact .first succeeded states others due

theorem Dispatched.call (dispatched : Dispatched wallet pair scoreCount threshold hooks hooks'
      []) (due : hook.isDue wallet pair scoreCount = true) (succeeded : Bool)
    (states : List State) :
    Dispatched wallet pair scoreCount threshold (hooks ++ [hook])
      (hooks' ++ [hook.afterCallback succeeded threshold scoreCount])
      [⟨hook, scoreCount, states⟩] := by
  cases dispatched with
  | nothing others => exact .first succeeded states others due

/-- The loop so far, with `rest` to be visited. -/
structure Visited (wallet : Address) (pair : Symbol) (scoreCount threshold : Nat)
    (hooks : List ScoreChangeHook) (w₀ : State) (env : ContractEnv)
    (rest : List ScoreChangeHook) (progress : DispatchProgress × List HookCall) (w : State) :
    Prop where
  frozen : Frozen w₀ env w
  dispatched : ∃ done, hooks = done ++ rest ∧
    Dispatched wallet pair scoreCount threshold done progress.1.hooks progress.2
  counted : progress.1.dispatched = progress.2.length
  during : ∀ call ∈ progress.2, ∀ v ∈ call.states, Frozen w₀ env v

theorem callBack_frozen {consumer : State → Reaction} (frozen : Frozen w₀ env w) :
    wp (callBack consumer) (fun answer w' => Frozen w₀ env w' ∧
      ∀ v ∈ answer.2, Frozen w₀ env v) env w := by
  have during : ∀ v ∈ statesFrom w (consumer w).calls, Frozen w₀ env v :=
    statesFrom_frozen frozen
  unfold callBack
  by_cases succeeds : (consumer w).succeeds = true
  · refine ⟨_, _, if_pos succeeds, ?_, during⟩
    have kept : Frozen w₀ env (run exec w (consumer w).calls) := run_whileDispatching frozen
    exact ⟨kept.dispatching, kept.same.entry, nofun, nofun⟩
  · exact ⟨_, _, if_neg succeeds, frozen, during⟩

/-- One round of the loop. -/
theorem dispatchHookWith_visited (hook : ScoreChangeHook) (rest : List ScoreChangeHook)
    (progress : DispatchProgress × List HookCall) (w : State)
    (visited : Visited wallet pair scoreCount threshold hooks w₀ env (hook :: rest) progress
      w) :
    wp (dispatchHookWith consumers wallet pair riskScore scoreCount threshold progress hook)
      (Visited wallet pair scoreCount threshold hooks w₀ env rest) env w := by
  obtain ⟨frozen, ⟨done, rfl, dispatched⟩, counted, during⟩ := visited
  unfold dispatchHookWith
  rw [wp_ite]
  split
  · next calls =>
    -- the budget of one call is still there
    have none : progress.2 = [] := by
      have budget : progress.1.dispatched < 1 := calls.1
      rw [counted] at budget
      exact List.length_eq_zero_iff.mp (by omega)
    rw [wp_bind]
    refine wp_mono ?_ (callBack_frozen frozen)
    rintro ⟨succeeded, states⟩ w₁ ⟨frozen₁, during₁⟩
    have next (w₂ : State) (same : w₂.ledger = w₁.ledger) :
        Visited wallet pair scoreCount threshold (done ++ hook :: rest) w₀ env rest
          ({ dispatched := progress.1.dispatched + 1,
             hooks := progress.1.hooks ++ [hook.afterCallback succeeded threshold scoreCount] },
            progress.2 ++ [⟨hook, scoreCount, states⟩]) w₂ := by
      refine ⟨⟨frozen₁.dispatching, ?_, nofun, nofun⟩, ⟨done ++ [hook], by simp, ?_⟩, ?_, ?_⟩
      · rw [same]
        exact frozen₁.same.entry
      · rw [none] at dispatched ⊢
        exact dispatched.call calls.2 succeeded states
      · simp [counted]
      · rw [none]
        intro call listed
        obtain rfl := List.mem_singleton.mp listed
        exact during₁
    rw [wp_bind, wp_whenever]
    split
    · rw [wp_emit, wp_pure]
      exact next _ rfl
    · rw [wp_pure]
      exact next _ rfl
  · next skipped =>
    rw [wp_pure]
    refine ⟨frozen, ⟨done ++ [hook], by simp, dispatched.skip fun none => ?_⟩, counted, during⟩
    by_contra due
    refine skipped ⟨?_, by simpa using due⟩
    rw [counted, none]
    decide

/-- The state the callbacks find. -/
def switchedOn (w : State) : State :=
  { w with ledger := w.ledger.put .inst .dispatching (some true) }

@[reducible] def Tag.isCalledBackOn : Tag → Bool
  | .score | .scoreCount | .failureThreshold => true
  | _ => false

/-- What a dispatch does. -/
structure DispatchEffect (wallet : Address) (pair : Symbol) (env : ContractEnv) (w : State)
    (calls : List HookCall) (w' : State) : Prop where
  dispatched : Dispatched wallet pair (scoreCountOf w wallet pair) (failureThreshold w)
    (hookRegistry w) (hookRegistry w') calls
  during : ∀ call ∈ calls, ∀ v ∈ call.states, Frozen (switchedOn w) env v
  same : Same Tag.isCalledBackOn w w'
  idle : SwitchedOff env w'

theorem switchedOff_effect {w₁ : State} (frozen : Frozen (switchedOn w) env w₁)
    (dispatched : Dispatched wallet pair (scoreCountOf w wallet pair)
      (failureThreshold w) (hookRegistry w) hooks calls)
    (during : ∀ call ∈ calls, ∀ v ∈ call.states, Frozen (switchedOn w) env v) :
    DispatchEffect wallet pair env w calls { w₁ with
      ledger := (w₁.ledger.put .inst .registry (some hooks)).put .inst .dispatching
        (some false) } where
  dispatched := by
    have stored : hookRegistry { w₁ with
        ledger := (w₁.ledger.put .inst .registry (some hooks)).put .inst .dispatching
          (some false) } = hooks := by
      simp [hookRegistry, Ledger.entry_put_of_ne]
    rwa [stored]
  during := during
  same :=
    { entry := fun d k listed => by
        have other {key : DataKey} (outside : key.tag.isCalledBackOn = false) : k ≠ key := by
          rintro rfl
          simp [outside] at listed
        have kept := frozen.same.entry d k (by revert listed; cases k.tag <;> decide)
        rw [switchedOn, Ledger.entry_put_of_ne _ _ (other rfl)] at kept
        rw [Ledger.entry_put_of_ne _ _ (other rfl), Ledger.entry_put_of_ne _ _ (other rfl)]
        exact kept
      authorized := nofun
      balance := nofun }
  idle := by simp [SwitchedOff, isDispatching]

theorem dispatch_wp (idle : SwitchedOff env w)
    (signed : env.signed dispatcher = true ∧ dispatcher ∉ w.authorized)
    (live : (liveScore w wallet pair).isSome = true) :
    wp (dispatchScoreChangeHooksWith consumers dispatcher wallet pair)
      (DispatchEffect wallet pair env w) env w := by
  obtain ⟨riskScore, live⟩ := Option.isSome_iff_exists.mp live
  unfold dispatchScoreChangeHooksWith
  simp only [wp_bind, wp_loadOr, wp_load, wp_require, wp_requireAuth, wp_okOr, wp_save]
  refine ⟨by simpa using idle, signed, riskScore, live, ?_⟩
  have start : Visited wallet pair (scoreCountOf w wallet pair) (failureThreshold w)
      (hookRegistry w) (switchedOn w) env (hookRegistry w) ({ dispatched := 0, hooks := [] }, [])
      { switchedOn w with authorized := dispatcher :: w.authorized } :=
    { frozen := ⟨by simp [switchedOn, isDispatching], fun _ _ _ => rfl, by rintro ⟨⟩, by rintro ⟨⟩⟩
      dispatched := ⟨[], rfl, .nothing (by rintro _ ⟨⟩)⟩
      counted := rfl
      during := by rintro _ ⟨⟩ }
  refine wp_mono ?_ (wp_fold dispatchHookWith_visited _ _ _ start)
  rintro ⟨progress, calls⟩ w₁ ⟨frozen, ⟨done, all, dispatched⟩, _, during⟩
  obtain rfl : hookRegistry w = done := by simpa using all
  rw [wp_pure]
  exact switchedOff_effect frozen dispatched during

theorem dispatch_effect
    (ran : dispatchScoreChangeHooksWith consumers dispatcher wallet pair env w =
      .ok calls w') : DispatchEffect wallet pair env w calls w' := by
  have asked := ok_iff_wp.mp ran
  unfold dispatchScoreChangeHooksWith at asked
  simp only [wp_bind, wp_loadOr, wp_load, wp_require, wp_requireAuth, wp_okOr] at asked
  obtain ⟨idle, signed, riskScore, live, _⟩ := asked
  have total : wp (dispatchScoreChangeHooksWith consumers dispatcher wallet pair)
      (DispatchEffect wallet pair env w) env w :=
    dispatch_wp (by simpa using idle) signed (Option.isSome_iff_exists.mpr ⟨riskScore, live⟩)
  obtain ⟨_, _, same, effect⟩ := total
  cases ran.symm.trans same
  exact effect

end Dispatch

/-! ### What a dispatch cannot do -/

/-- Who listens to what; the other fields are the dispatch's own. -/
def ScoreChangeHook.registration (hook : ScoreChangeHook) : Address × Entry :=
  (hook.consumer, hook.wallet, hook.assetPair)

/-- Every live score and every hook is as in `w`. -/
structure Unwritten (w v : State) : Prop where
  scores : ∀ wallet pair, liveScore v wallet pair = liveScore w wallet pair
  hooks : hookRegistry v = hookRegistry w

theorem Frozen.unwritten {env : ContractEnv} {w v : State} (frozen : Frozen (switchedOn w) env v) :
    Unwritten w v where
  scores wallet pair := by
    have kept := frozen.same.entry .persistent (.score wallet pair) rfl
    rwa [switchedOn, Ledger.entry_put_of_ne _ _ (by simp)] at kept
  hooks := by
    have kept := frozen.same.entry .inst .registry rfl
    rw [switchedOn, Ledger.entry_put_of_ne _ _ (by simp)] at kept
    rw [hookRegistry, kept]

@[simp] theorem registration_afterCallback (hook : ScoreChangeHook) (succeeded : Bool)
    (threshold scoreCount : Nat) :
    (hook.afterCallback succeeded threshold scoreCount).registration = hook.registration := by
  unfold ScoreChangeHook.afterCallback
  split <;> rfl

theorem Dispatched.registrations {wallet : Address} {pair : Symbol}
    {scoreCount threshold : Nat} {hooks hooks' : List ScoreChangeHook} {calls : List HookCall}
    (dispatched : Dispatched wallet pair scoreCount threshold hooks hooks' calls) :
    hooks'.map ScoreChangeHook.registration = hooks.map ScoreChangeHook.registration := by
  cases dispatched with
  | nothing => rfl
  | first => simp

/-- Whatever the consumers call back, no live score and no hook changes while they run, and
after the dispatch the scores and the registrations are those before it. -/
theorem dispatch_not_reentered {consumers : Consumers} {dispatcher wallet : Address}
    {pair : Symbol} {env : ContractEnv} {w w' : State} {calls : List HookCall}
    (ran : dispatchScoreChangeHooksWith consumers dispatcher wallet pair env w =
      .ok calls w') :
    (∀ call ∈ calls, ∀ v ∈ call.states, Unwritten w v) ∧
      (∀ wallet pair, liveScore w' wallet pair = liveScore w wallet pair) ∧
      (hookRegistry w').map ScoreChangeHook.registration =
        (hookRegistry w).map ScoreChangeHook.registration := by
  have effect := dispatch_effect ran
  refine ⟨fun call listed v visited => (effect.during call listed v visited).unwritten, ?_,
    effect.dispatched.registrations⟩
  intro wallet pair
  exact effect.same.entry .persistent (.score wallet pair) rfl

/-- A hook on a score of 80. -/
def sampleHooked : State :=
  run exec blank
    [initSample,
      ⟨sampleEnv [account 5], .user (.registerScoreChangeHook (account 5) (account 3) samplePair)⟩,
      submitSample (account 3) 80]

/-- The consumer has the service submit another score, and takes its hook away. -/
def sampleConsumers : Consumers := fun consumer wallet pair _ _ _ =>
  ⟨[⟨sampleAfter [account 2] 7200, .user (.submitScore [] (sampleSubmission wallet 10) none)⟩,
    ⟨sampleEnv [consumer], .user (.unregisterScoreChangeHook consumer wallet pair)⟩], true⟩

theorem dispatch_not_reentered_sample :
    ∃ calls w', dispatchScoreChangeHooksWith sampleConsumers (account 6) (account 3) samplePair
          (sampleEnv [account 6]) { sampleHooked with authorized := [] } = .ok calls w' ∧
        (∀ call ∈ calls, ∀ v ∈ call.states, Unwritten { sampleHooked with authorized := [] } v) ∧
        liveScore w' (account 3) samplePair = liveScore sampleHooked (account 3) samplePair ∧
        (hookRegistry w').map ScoreChangeHook.registration =
          (hookRegistry sampleHooked).map ScoreChangeHook.registration := by
  have idle : isDispatching sampleHooked = false := by decide +kernel
  have live : (liveScore sampleHooked (account 3) samplePair).isSome = true := by decide +kernel
  generalize sampleHooked = w at idle live ⊢
  have total : wp (dispatchScoreChangeHooksWith sampleConsumers (account 6) (account 3) samplePair)
      (DispatchEffect (account 3) samplePair (sampleEnv [account 6]) { w with authorized := [] })
      (sampleEnv [account 6]) { w with authorized := [] } :=
    dispatch_wp idle ⟨by decide, List.not_mem_nil⟩ live
  obtain ⟨calls, w', ran, _⟩ := total
  obtain ⟨during, scores, registrations⟩ := dispatch_not_reentered ran
  exact ⟨calls, w', ran, during, scores (account 3) samplePair, registrations⟩

end LedgerLens
