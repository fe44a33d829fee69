import LedgerLens.Host.Program

/-!
The score submitter: it simulates a transaction, builds it again with safety
margins, simulates it once more, signs, submits and confirms it, and starts over
on failures it knows how to recover from. The transport is not part of the
repository; it is any state machine that answers the calls. Every call and its
answer is recorded, so that what a submission did can be read off its log.
-/

namespace LedgerLens.Submitter

open Host Host.Prog

/-! ### Values -/

structure ScoreSubmission where
  contractId : String
  wallet : String
  assetPair : String
  score : Nat
  confidence : Nat
  modelVersion : Nat
  timestamp : Nat
  nonce : Nat
  idempotencyKey : String

structure Resources where
  cpuInstructions : Nat
  memoryBytes : Nat
  readEntries : Nat
  writeEntries : Nat
  deriving DecidableEq, Inhabited

abbrev bpsDenominator : Nat := 10000

abbrev u32Max : Nat := 2 ^ 32 - 1

abbrev u64Max : Nat := 2 ^ 64 - 1

/-- The value with its margin, rounded up and cut at the largest `u64`. -/
def addMargin (value marginBps : Nat) : Nat :=
  min ((value * (bpsDenominator + marginBps) + bpsDenominator - 1) / bpsDenominator) u64Max

namespace Resources

def withSafetyMargin (r : Resources) (marginBps : Nat) : Resources where
  cpuInstructions := addMargin r.cpuInstructions marginBps
  memoryBytes := addMargin r.memoryBytes marginBps
  readEntries := min (addMargin r.readEntries marginBps) u32Max
  writeEntries := min (addMargin r.writeEntries marginBps) u32Max

def contains (r other : Resources) : Bool :=
  r.cpuInstructions ≥ other.cpuInstructions && r.memoryBytes ≥ other.memoryBytes &&
    r.readEntries ≥ other.readEntries && r.writeEntries ≥ other.writeEntries

/-- `Resources::default`. -/
def zero : Resources := ⟨0, 0, 0, 0⟩

end Resources

structure TransactionBounds where
  minTime : Nat
  maxTime : Nat
  ledgerSequence : Nat
  deriving DecidableEq

structure Transaction where
  payload : List UInt8
  sequence : Nat
  fee : Nat
  resources : Resources
  bounds : TransactionBounds
  idempotencyKey : String
  deriving DecidableEq

structure Simulation where
  minimumFee : Nat
  requiredResources : Resources
  restoreRequired : Bool
  deriving DecidableEq

structure Confirmation where
  transactionHash : String
  ledger : Nat
  idempotencyKey : String
  deriving DecidableEq

inductive FailureKind where
  | insufficientFee | resourceLimitExceeded | badSequence | expiredBounds | restoreRequired
  | rpcLag | permanent
  deriving DecidableEq

/-- As the derived `Debug` prints it. -/
def FailureKind.name : FailureKind → String
  | .insufficientFee => "InsufficientFee"
  | .resourceLimitExceeded => "ResourceLimitExceeded"
  | .badSequence => "BadSequence"
  | .expiredBounds => "ExpiredBounds"
  | .restoreRequired => "RestoreRequired"
  | .rpcLag => "RpcLag"
  | .permanent => "Permanent"

structure TransportError where
  kind : FailureKind
  message : String
  requiredResources : Option Resources
  deriving DecidableEq

/-! ### The transport -/

abbrev Answer (α : Type) := Except TransportError α

/-- Any behaviour of the network: each call is answered from, and changes, a state of its own. -/
structure SorobanTransport (τ : Type) where
  nextSequence : τ → Answer Nat × τ
  transactionBounds : τ → Answer TransactionBounds × τ
  build : ScoreSubmission → Nat → TransactionBounds → Nat → Resources → τ → Answer Transaction × τ
  simulate : Transaction → τ → Answer Simulation × τ
  sign : Transaction → τ → Answer (List UInt8) × τ
  submit : List UInt8 → τ → Answer String × τ
  confirm : String → τ → Answer Confirmation × τ
  lookupIdempotencyKey : String → String → τ → Answer (Option Confirmation) × τ
  restoreArchivedEntries : ScoreSubmission → τ → Answer Unit × τ

/-- A call of the transport with its answer. A submission is recorded with the sequence number its
transaction was built with and with that transaction, of which the transport sees the signed
bytes. The first and the second simulation of an attempt are told apart. -/
inductive Event where
  | nextSequence (answer : Answer Nat)
  | transactionBounds (answer : Answer TransactionBounds)
  | build (sequence fee : Nat) (resources : Resources) (answer : Answer Transaction)
  | simulate (transaction : Transaction) (answer : Answer Simulation)
  | resimulate (transaction : Transaction) (answer : Answer Simulation)
  | sign (transaction : Transaction) (answer : Answer (List UInt8))
  | submit (sequence : Nat) (transaction : Transaction) (answer : Answer String)
  | confirm (transactionHash : String) (answer : Answer Confirmation)
  | lookup (answer : Answer (Option Confirmation))
  | restore (answer : Answer Unit)

/-! ### The submitter -/

structure SubmitterConfig where
  maxRetries : Nat
  resourceSafetyMarginBps : Nat
  feeSafetyMarginBps : Nat
  baseBackoffMs : Nat
  maxBackoffMs : Nat

/-- `SubmitterConfig::default`. -/
def SubmitterConfig.standard : SubmitterConfig where
  maxRetries := 5
  resourceSafetyMarginBps := 1500
  feeSafetyMarginBps := 2000
  baseBackoffMs := 250
  maxBackoffMs := 8000

structure SubmitterMetrics where
  attempts : Nat
  simulations : Nat
  submissions : Nat
  confirmations : Nat
  restores : Nat
  retriesByFailure : FailureKind → Nat

/-- What a submitter is made of and works with. -/
structure Setup (τ : Type) where
  transport : SorobanTransport τ
  config : SubmitterConfig

/-- The state of the transport and of the submitter, with the calls made and the delays slept. -/
structure Session (τ : Type) where
  transport : τ
  metrics : SubmitterMetrics
  log : List Event
  delays : List Nat

/-- Errors are the texts a caller reads. -/
abbrev S (τ α : Type) := Prog (Setup τ) String (Session τ) α

/-- What is kept from one attempt to the next. -/
structure Loop where
  sequence : Nat
  fee : Nat
  resources : Resources
  lastError : Option String
  deriving Inhabited

/-- How an attempt ends, if not in an error. -/
inductive Attempt where
  | confirmed (confirmation : Confirmation)
  | again (loop : Loop)

section Submit

variable {τ α : Type}

/-- Make a call and record it with its answer. -/
def ask (call : SorobanTransport τ → τ → Answer α × τ) (event : Answer α → Event) :
    S τ (Answer α) := fun setup s =>
  let answered := call setup.transport s.transport
  .ok answered.1
    { s with transport := answered.2, log := s.log ++ [event answered.1] }

/-- The answer, or the text with the transport's message behind it. -/
def orFail (text : String) : Answer α → S τ α
  | .ok a => pure a
  | .error error => throw (text ++ ": " ++ error.message)

def count (change : SubmitterMetrics → SubmitterMetrics) : S τ Unit :=
  update fun s => { s with metrics := change s.metrics }

def nextSequence (text : String) : S τ Nat := do
  orFail text (← ask (fun t => t.nextSequence) .nextSequence)

def lookup (request : ScoreSubmission) (text : String) : S τ (Option Confirmation) := do
  orFail text
    (← ask (fun t => t.lookupIdempotencyKey request.contractId request.idempotencyKey) .lookup)

/-- Built with this sequence number, fee and these resources. -/
def build (request : ScoreSubmission) (sequence : Nat) (bounds : TransactionBounds) (fee : Nat)
    (resources : Resources) : S τ (Answer Transaction) :=
  ask (fun t => t.build request sequence bounds fee resources) (.build sequence fee resources)

/-- Doubled with every attempt, up to the largest. -/
def backoffMs (config : SubmitterConfig) (attempt : Nat) : Nat :=
  min (min (config.baseBackoffMs * 2 ^ min attempt 31) u64Max) config.maxBackoffMs

def retry (kind : FailureKind) (attempt : Nat) : S τ Unit := do
  let config ← asks Setup.config
  require (attempt < config.maxRetries) ("retry limit reached after " ++ kind.name)
  update fun s => { s with delays := s.delays ++ [backoffMs config attempt] }

def restore (request : ScoreSubmission) : S τ Unit := do
  count fun m => { m with restores := m.restores + 1 }
  orFail "restore preamble failed"
    (← ask (fun t => t.restoreArchivedEntries request) .restore)

section

variable (request : ScoreSubmission) (attempt : Nat) (loop : Loop) (answer : Answer α)
  (rest : α → S τ Attempt)

/-- What `recover_from_error` does for each kind of failure, before the retry. -/
def recover (error : TransportError) (loop : Loop) : S τ Attempt :=
  match error.kind with
  | .insufficientFee =>
    return .again { loop with fee := max (min (loop.fee * 2) u64Max) 1 }
  | .resourceLimitExceeded => do
      let margin ← asks fun setup => setup.config.resourceSafetyMarginBps
      let required := error.requiredResources.getD loop.resources
      return .again { loop with resources := required.withSafetyMargin margin }
  | .badSequence => do
      let sequence ← nextSequence "bad sequence; refresh failed"
      return .again { loop with sequence }
  | .expiredBounds => return .again loop
  | .restoreRequired => do
      restore request
      let sequence ← nextSequence "restore completed but sequence refresh failed"
      return .again { loop with sequence }
  | .rpcLag => do
      match ← lookup request "RPC lag idempotency lookup failed" with
      | some confirmation =>
        count fun m => { m with confirmations := m.confirmations + 1 }
        return .confirmed confirmation
      | none => return .again loop
  | .permanent => throw ("permanent submission failure: " ++ error.message)

def recoverFromError (error : TransportError) : S τ Attempt := do
  match ← recover request error loop with
  | .confirmed confirmation => return .confirmed confirmation
  | .again loop =>
    count fun m => { m with
      retriesByFailure := Function.update m.retriesByFailure error.kind
        (m.retriesByFailure error.kind + 1) }
    retry error.kind attempt
    return .again loop

/-- Go on with an answer, or recover from its error and start over. -/
def orRecover : S τ Attempt :=
  match answer with
  | .ok a => rest a
  | .error error => recoverFromError request attempt loop error

/-- Archived entries are restored, and the attempt starts over. -/
def restoreAndRefresh : S τ Attempt := do
  restore request
  let sequence ← nextSequence "sequence refresh failed"
  return .again { loop with sequence }

/-- Wait for the confirmation of a transaction that was taken. -/
def confirmSubmitted (transactionHash : String) : S τ Attempt := do
  match ← ask (fun t => t.confirm transactionHash) (.confirm transactionHash) with
  | .ok confirmation =>
    count fun m => { m with confirmations := m.confirmations + 1 }
    return .confirmed confirmation
  | .error error =>
    match ← recoverFromError request attempt loop error with
    | .confirmed confirmation => return .confirmed confirmation
    | .again loop => return .again { loop with lastError := "confirmation not yet visible" }

/-- Sign, submit and confirm. -/
def submitBuilt (adjusted : Transaction) : S τ Attempt := do
  let signed ← orFail "transaction signing failed"
    (← ask (fun t => t.sign adjusted) (.sign adjusted))
  count fun m => { m with submissions := m.submissions + 1 }
  let submitted ← ask (fun t => t.submit signed) (.submit loop.sequence adjusted)
  orRecover request attempt loop submitted fun transactionHash =>
    confirmSubmitted request attempt loop transactionHash

/-- The second simulation decides whether the adjusted transaction is submitted. -/
def submitAdjusted (adjustedResources : Resources) (adjusted : Transaction) : S τ Attempt := do
  let config ← asks Setup.config
  count fun m => { m with simulations := m.simulations + 1 }
  let resimulated ← ask (fun t => t.simulate adjusted) (.resimulate adjusted)
  orRecover request attempt loop resimulated fun finalSimulation =>
    if finalSimulation.restoreRequired then restoreAndRefresh request loop
    else if !adjustedResources.contains finalSimulation.requiredResources then do
      retry .resourceLimitExceeded attempt
      return .again { loop with
        resources :=
          finalSimulation.requiredResources.withSafetyMargin config.resourceSafetyMarginBps
        lastError := "re-simulation exceeded adjusted resources" }
    else if adjusted.fee < finalSimulation.minimumFee then do
      retry .insufficientFee attempt
      return .again { loop with
        fee := addMargin finalSimulation.minimumFee config.feeSafetyMarginBps
        lastError := "re-simulation increased minimum fee" }
    else submitBuilt request attempt loop adjusted

/-- Build again with what the first simulation asks for, and margins. -/
def adjust (bounds : TransactionBounds) (simulation : Simulation) : S τ Attempt := do
  let config ← asks Setup.config
  let adjustedResources :=
    simulation.requiredResources.withSafetyMargin config.resourceSafetyMarginBps
  let adjustedFee := addMargin simulation.minimumFee config.feeSafetyMarginBps
  let adjusted ← orFail "resource-adjusted transaction build failed"
    (← build request loop.sequence bounds (max loop.fee adjustedFee) adjustedResources)
  submitAdjusted request attempt loop adjustedResources adjusted

def attemptOnce : S τ Attempt := do
  count fun m => { m with attempts := m.attempts + 1 }
  let bounds ← orFail "transaction bounds failed"
    (← ask (fun t => t.transactionBounds) .transactionBounds)
  let built ← build request loop.sequence bounds loop.fee loop.resources
  orRecover request attempt loop built fun transaction => do
    count fun m => { m with simulations := m.simulations + 1 }
    let simulated ← ask (fun t => t.simulate transaction) (.simulate transaction)
    orRecover request attempt loop simulated fun simulation =>
      if simulation.restoreRequired then restoreAndRefresh request loop
      else adjust request attempt loop bounds simulation

end

/-- The attempts that are left, from this one on. -/
def attempts (request : ScoreSubmission) : Nat → Nat → Loop → S τ Confirmation
  | _, 0, loop =>
    throw ("bounded retry policy exhausted: " ++ loop.lastError.getD "no confirmation")
  | attempt, left + 1, loop => do
      match ← attemptOnce request attempt loop with
      | .confirmed confirmation => return confirmation
      | .again loop => attempts request (attempt + 1) left loop

def submit (request : ScoreSubmission) : S τ Confirmation := do
  require (!request.idempotencyKey.isEmpty) "idempotency_key must be supplied by the caller"
  match ← lookup request "idempotency lookup failed" with
  | some confirmation => return confirmation
  | none => do
      let sequence ← nextSequence "sequence lookup failed"
      let config ← asks Setup.config
      attempts request 0 (config.maxRetries + 1)
        { sequence, fee := 0, resources := .zero, lastError := none }

end Submit

end LedgerLens.Submitter
