import LedgerLens.Recovery.Export

/-!
Recovery plans: the operations that turn one score export into another, ordered
by key and cut into batches. An operation of such a plan sets its key to what the
desired export has there, so operations can be applied again, and in any number
of pieces, without changing where they lead.
-/

namespace LedgerLens.Recovery

abbrev recoveryPlanVersion : Nat := 1

/-! ### Operations -/

inductive RecoveryOperation where
  | upsert (entry : ExportableScoreEntry)
  | delete (wallet assetPair : String)
  deriving DecidableEq

namespace RecoveryOperation

def key : RecoveryOperation → EntryKey
  | upsert entry => entry.key
  | delete wallet assetPair => (wallet, assetPair)

/-- What the operation leaves under its key. -/
def result : RecoveryOperation → Option ExportableScoreEntry
  | upsert entry => some entry
  | delete _ _ => none

end RecoveryOperation

def applyOperation (state : EntryMap) : RecoveryOperation → EntryMap
  | .upsert entry => state.insert entry
  | .delete wallet assetPair => state.remove (wallet, assetPair)

def operationPostconditionHolds (state : EntryMap) : RecoveryOperation → Bool
  | .upsert entry => state.get? entry.key = some entry
  | .delete wallet assetPair => (state.get? (wallet, assetPair)).isNone

def operationEffect : RecoveryOperation → String
  | .upsert entry =>
    s!"set {entry.wallet}/{entry.assetPair} score={entry.score} confidence={entry.confidence}"
  | .delete wallet assetPair => s!"delete {wallet}/{assetPair}"

def applyOperations (state : EntryMap) (operations : List RecoveryOperation) : EntryMap :=
  operations.foldl applyOperation state

theorem get?_applyOperation (state : EntryMap) (operation : RecoveryOperation) (key : EntryKey) :
    (applyOperation state operation).get? key =
      if operation.key = key then operation.result else state.get? key := by
  cases operation with
  | upsert entry => exact state.get?_insert entry key
  | delete wallet assetPair => exact state.get?_remove (wallet, assetPair) key

theorem get?_applyOperations_of_notMem {operations : List RecoveryOperation} {key : EntryKey}
    (state : EntryMap) (untouched : key ∉ operations.map RecoveryOperation.key) :
    (applyOperations state operations).get? key = state.get? key := by
  induction operations generalizing state with
  | nil => rfl
  | cons operation rest ih =>
    rw [List.map_cons, List.mem_cons, not_or] at untouched
    change (applyOperations (applyOperation state operation) rest).get? key = _
    rw [ih _ untouched.2, get?_applyOperation, if_neg (Ne.symm untouched.1)]

/-- What operations leave under their keys does not depend on where they
started. -/
theorem get?_applyOperations_of_mem {operations : List RecoveryOperation} {key : EntryKey}
    (state state' : EntryMap) (touched : key ∈ operations.map RecoveryOperation.key) :
    (applyOperations state operations).get? key = (applyOperations state' operations).get? key := by
  induction operations generalizing state state' with
  | nil => simp at touched
  | cons operation rest ih =>
    change (applyOperations (applyOperation state operation) rest).get? key =
      (applyOperations (applyOperation state' operation) rest).get? key
    by_cases later : key ∈ rest.map RecoveryOperation.key
    · exact ih _ _ later
    · rw [List.map_cons, List.mem_cons, or_iff_left later] at touched
      rw [get?_applyOperations_of_notMem _ later, get?_applyOperations_of_notMem _ later,
        get?_applyOperation, get?_applyOperation, if_pos touched.symm, if_pos touched.symm]

/-! ### Plans -/

structure RecoveryBatch where
  index : Nat
  operations : List RecoveryOperation
  predictedEffects : List String
  estimatedCostUnits : Nat
  deriving DecidableEq

structure PlanApproval where
  operator : String
  publicKey : String
  signature : String
  deriving DecidableEq

/-- The part of a plan that is hashed and signed. -/
structure PlanBody (Digest : Type) where
  version : Nat
  baseStateRoot : Digest
  exportRoot : Digest
  batchSize : Nat
  batches : List RecoveryBatch
  deriving DecidableEq

structure RecoveryPlan (Digest : Type) extends PlanBody Digest where
  planHash : Digest
  approvals : List PlanApproval
  deriving DecidableEq

end LedgerLens.Recovery
