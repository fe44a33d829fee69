import LedgerLens.Auth

/-!
Callbacks on score changes: consumers register hooks, anyone may have them
dispatched. While callbacks run, the switch `dispatching` closes the write
paths.
-/

namespace LedgerLens

open Host Host.Prog Storage

abbrev getScoreChangeHooks : M (List ScoreChangeHook) := fetchOr .inst .registry []

abbrev getScoreHookFailureThreshold : M Nat :=
  fetchOr .inst .failureThreshold defaultScoreHookFailureThreshold

/-- The hook listens to this wallet and pair. -/
def ScoreChangeHook.listensTo (hook : ScoreChangeHook) (wallet : Address) (assetPair : Symbol) :
    Bool :=
  hook.wallet = wallet && hook.assetPair = assetPair

def registerScoreChangeHook (consumer wallet : Address) (assetPair : Symbol) : M Unit := do
  require (!(← isScoreHookDispatching)) .scoreHookDispatchInProgress
  require (← hasAdmin) .notInitialized
  requireAuth consumer
  ensureAssetPairBounded assetPair
  let hooks ← getScoreChangeHooks
  let listening := hooks.filter fun hook => hook.listensTo wallet assetPair
  require (listening.all fun hook => hook.consumer ≠ consumer) .scoreHookAlreadyRegistered
  require (hooks.length < maxScoreChangeHooksGlobal ∧ listening.length < maxScoreChangeHooksPerPair)
    .scoreHookLimitReached
  store .inst .registry (hooks ++ [{
    consumer, wallet, assetPair
    enabled := true
    consecutiveFailures := 0
    lastDispatchedCount := ← getScoreCount wallet assetPair }])

def unregisterScoreChangeHook (consumer wallet : Address) (assetPair : Symbol) : M Unit := do
  require (!(← isScoreHookDispatching)) .scoreHookDispatchInProgress
  requireAuth consumer
  let hooks ← getScoreChangeHooks
  let retained := hooks.filter fun hook =>
    !(hook.consumer = consumer && hook.listensTo wallet assetPair)
  require (retained.length ≠ hooks.length) .scoreHookNotRegistered
  store .inst .registry retained

def setScoreHookFailureThreshold (adminSigners : List Address) (threshold : Nat) : M Unit := do
  require (!(← isScoreHookDispatching)) .scoreHookDispatchInProgress
  require (← hasAdmin) .notInitialized
  require (threshold ≠ 0 ∧ threshold ≤ maxScoreHookFailureThreshold) .invalidThreshold
  requireAdminAuth adminSigners
  let hooks ← getScoreChangeHooks
  require (hooks.all fun hook => !(hook.enabled && hook.consecutiveFailures ≥ threshold))
    .invalidThreshold
  store .inst .failureThreshold threshold

/-- The hook after its callback ran; `threshold` failures in a row disable it. -/
def ScoreChangeHook.afterCallback (hook : ScoreChangeHook) (succeeded : Bool)
    (threshold scoreCount : Nat) : ScoreChangeHook :=
  if succeeded then { hook with consecutiveFailures := 0, lastDispatchedCount := scoreCount }
  else
    let failures := satAdd32 hook.consecutiveFailures 1
    { hook with
      consecutiveFailures := failures
      enabled := hook.enabled && failures ≠ threshold
      lastDispatchedCount := scoreCount }

/-- The hook is due: enabled, listening, and behind the submission count. -/
def ScoreChangeHook.isDue (hook : ScoreChangeHook) (wallet : Address) (assetPair : Symbol)
    (scoreCount : Nat) : Bool :=
  hook.enabled && hook.listensTo wallet assetPair && hook.lastDispatchedCount < scoreCount

/-- What a dispatch has done so far. -/
structure DispatchProgress where
  dispatched : Nat
  hooks : List ScoreChangeHook

/-- Visit one hook; it is called when it is due and the dispatch may still call. -/
def dispatchHook (wallet : Address) (assetPair : Symbol) (riskScore : RiskScore)
    (scoreCount threshold : Nat) (progress : DispatchProgress) (hook : ScoreChangeHook) :
    M DispatchProgress :=
  if progress.dispatched < maxScoreChangeHooksPerDispatch ∧ hook.isDue wallet assetPair scoreCount
  then do
    let succeeded ← asks fun env =>
      env.external.onScoreChange hook.consumer wallet assetPair riskScore scoreCount
    let updated := hook.afterCallback succeeded threshold scoreCount
    whenever (!succeeded && updated.consecutiveFailures = threshold) do
      emit (.scoreHookAutoDisabled hook.consumer wallet assetPair updated.consecutiveFailures)
    return { dispatched := progress.dispatched + 1, hooks := progress.hooks ++ [updated] }
  else
    return { progress with hooks := progress.hooks ++ [hook] }

/-- The switch is set while the callbacks run and cleared at the end. -/
def dispatchScoreChangeHooks (dispatcher wallet : Address) (assetPair : Symbol) : M Nat := do
  require (!(← isScoreHookDispatching)) .scoreHookDispatchInProgress
  requireAuth dispatcher
  let scoreCount ← getScoreCount wallet assetPair
  let riskScore ← okOr (← peekScore wallet assetPair) .scoreNotFound
  let hooks ← getScoreChangeHooks
  let threshold ← getScoreHookFailureThreshold
  store .inst .dispatching true
  let progress ← fold (dispatchHook wallet assetPair riskScore scoreCount threshold)
    { dispatched := 0, hooks := [] } hooks
  store .inst .registry progress.hooks
  store .inst .dispatching false
  return progress.dispatched

/-! ### Footprints -/

section Footprints

set_option synthInstance.maxSize 100000000

variable (consumer wallet : Address) (assetPair : Symbol)

instance : Touches (registerScoreChangeHook consumer wallet assetPair)
    [.authorizations, .registry] :=
  ⟨by unfold registerScoreChangeHook; infer_instance⟩

instance : Touches (unregisterScoreChangeHook consumer wallet assetPair)
    [.authorizations, .registry] :=
  ⟨by unfold unregisterScoreChangeHook; infer_instance⟩

instance (signers : List Address) (threshold : Nat) :
    Touches (setScoreHookFailureThreshold signers threshold) [.authorizations, .failureThreshold] :=
  ⟨by unfold setScoreHookFailureThreshold; infer_instance⟩

instance (riskScore : RiskScore) (count threshold : Nat) (progress : DispatchProgress)
    (hook : ScoreChangeHook) :
    Touches (dispatchHook wallet assetPair riskScore count threshold progress hook) [] :=
  ⟨by unfold dispatchHook; infer_instance⟩

instance : Touches (dispatchScoreChangeHooks consumer wallet assetPair)
    [.authorizations, .registry, .dispatching] :=
  ⟨by unfold dispatchScoreChangeHooks; infer_instance⟩

end Footprints

end LedgerLens
