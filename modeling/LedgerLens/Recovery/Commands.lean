import LedgerLens.Host.Files
import LedgerLens.Recovery.Plan

/-!
The commands of the recovery tool that plan and apply changes. They work on
files: the export that stands for the live state, the plan, the trusted
operators and the checkpoint an interrupted run resumes from. Files are replaced
by way of a temporary file and a backup of the old one.
-/

namespace LedgerLens.Recovery

open Host Host.Prog

/-! ### Hexadecimal text -/

def hexValue (c : Char) : Option Nat :=
  if '0' ≤ c ∧ c ≤ '9' then some (c.toNat - '0'.toNat)
  else if 'a' ≤ c ∧ c ≤ 'f' then some (c.toNat - 'a'.toNat + 10)
  else if 'A' ≤ c ∧ c ≤ 'F' then some (c.toNat - 'A'.toNat + 10)
  else none

/-- `hex::decode`; digits of either case are read. -/
def hexDecode : List Char → Option (List UInt8)
  | [] => some []
  | [_] => none
  | high :: low :: rest => do
    let high ← hexValue high
    let low ← hexValue low
    return UInt8.ofNat (16 * high + low) :: (← hexDecode rest)

def hexDigit (n : Nat) : Char := if n < 10 then Char.ofNat (48 + n) else Char.ofNat (87 + n)

/-- `hex::encode`, in lower case. -/
def hexEncode (bytes : List UInt8) : List Char :=
  bytes.flatMap fun byte => [hexDigit (byte.toNat / 16), hexDigit (byte.toNat % 16)]

/-! ### Data -/

structure ApplyCheckpoint (Digest : Type) where
  planHash : Digest
  nextBatch : Nat
  appliedOperations : Nat
  stateRoot : Digest
  deriving DecidableEq

/-- The documents the files hold. -/
inductive Document (Digest : Type) where
  | scores (entries : List ExportableScoreEntry)
  | plan (plan : RecoveryPlan Digest)
  | checkpoint (checkpoint : ApplyCheckpoint Digest)
  | operators (trusted : Std.ExtTreeMap String String)

/-- The hash and signature functions: the digests of an ordered export and of
the signed part of a plan, whether bytes are a public key, and whether a key
accepts a signature of a plan's hash. -/
structure Primitives (Digest : Type) where
  exportDigest : List ExportableScoreEntry → Digest
  planDigest : PlanBody Digest → Digest
  validKey : List UInt8 → Bool
  verify : List UInt8 → Digest → List UInt8 → Bool

abbrev M (Digest : Type) := FileProg (Document Digest) (Failure Digest)

variable {Digest : Type}

/-! ### Files -/

section

variable {α : Type} (select : Document Digest → Option α) (unread undecoded : Failure Digest)
  (path : Path)

def backupPath : Path := path ++ ".bak"

def temporaryPath : Path := path ++ ".tmp"

/-- Read a document of the kind `select` picks out. -/
def loadDocument : M Digest α := do
  (← content path).elim (bail unread) fun found =>
    (found.document?.bind select).elim (bail undecoded) pure

def Document.scores? : Document Digest → Option (List ExportableScoreEntry)
  | .scores entries => some entries
  | .plan _ | .checkpoint _ | .operators _ => none

def Document.plan? : Document Digest → Option (RecoveryPlan Digest)
  | .plan found => some found
  | .scores _ | .checkpoint _ | .operators _ => none

def Document.checkpoint? : Document Digest → Option (ApplyCheckpoint Digest)
  | .checkpoint found => some found
  | .scores _ | .plan _ | .operators _ => none

def Document.operators? : Document Digest → Option (Std.ExtTreeMap String String)
  | .operators trusted => some trusted
  | .scores _ | .plan _ | .checkpoint _ => none

def loadExport : M Digest (List ExportableScoreEntry) :=
  loadDocument Document.scores? (.reading s!"Failed to read score export {path}")
    (.decoding s!"{path} is not a valid score export") path

/-- The file itself when it is there, otherwise its backup. -/
def sourceOf : M Digest Path := do
  return if ← fileExists path then path else backupPath path

def loadLiveState : M Digest (List ExportableScoreEntry) := do
  loadExport (← sourceOf path)

def loadCheckpoint : M Digest (ApplyCheckpoint Digest) := do
  let source ← sourceOf path
  loadDocument Document.checkpoint? (.reading s!"reading checkpoint {source}")
    (.decoding "decoding recovery checkpoint") source

def dropBackup : M Digest Unit := do
  if ← fileExists (backupPath path) then
    ensure (← removeFile (backupPath path)) (.removing (backupPath path))
  else pure ()

/-- Keep the old file, if there is one, as the backup. -/
def setAside : M Digest Unit := do
  if ← fileExists path then
    dropBackup path
    ensure (← renameFile path (backupPath path)) (.preserving path)
  else pure ()

/-- Replace the file: write a temporary one, keep the old one as the backup, put
the new one in its place and drop the backup. -/
def writeJsonAtomic (document : Document Digest) : M Digest Unit := do
  writeFile (temporaryPath path) document
  syncFile (temporaryPath path)
  setAside path
  if ← renameFile (temporaryPath path) path then dropBackup path
  else
    if ← fileExists (backupPath path) then dropResult (renameFile (backupPath path) path)
    else pure ()
    dropResult (removeFile (temporaryPath path))
    bail (.replacing path)

/-! ### Planning -/

def liftExcept : Except (Failure Digest) α → M Digest α
  | .ok a => pure a
  | .error e => bail e

end

section Commands

variable [DecidableEq Digest] (primitives : Primitives Digest)

def exportRoot (entries : EntryMap) : Digest := primitives.exportDigest entries.values

def calculatePlanHash (plan : PlanBody Digest) : Digest := primitives.planDigest plan

def loadPlan (path : Path) : M Digest (RecoveryPlan Digest) := do
  let plan ← loadDocument Document.plan? (.reading s!"reading plan {path}")
    (.decoding s!"decoding plan {path}") path
  ensure (plan.version = recoveryPlanVersion) (.unsupportedVersion plan.version)
  ensure (calculatePlanHash primitives plan.toPlanBody = plan.planHash) .planHashMismatch
  return plan

/-! ### Approvals -/

/-- Check the approvals one by one; `operators` and `publicKeys` are those met
so far. -/
def checkApprovals (trusted : Std.ExtTreeMap String String) (planHash : Digest)
    (operators : List String) (publicKeys : List (List Char)) :
    List PlanApproval → Except (Failure Digest) (List String)
  | [] => .ok operators
  | approval :: rest =>
    if approval.operator ∈ operators then .error (.duplicateApproval approval.operator)
    else match trusted[approval.operator]? with
    | none => .error (.untrustedOperator approval.operator)
    | some trustedKey => match hexDecode approval.publicKey.toList with
      | none => .error .invalidHex
      | some publicKey =>
        let canonicalPublicKey := hexEncode publicKey
        if canonicalPublicKey ≠ trustedKey.toList.map Char.toLower then
          .error (.untrustedKey approval.operator)
        else if canonicalPublicKey ∈ publicKeys then .error .repeatedKey
        else if publicKey.length ≠ 32 then .error .keyLength
        else if !primitives.validKey publicKey then .error .invalidKey
        else match hexDecode approval.signature.toList with
          | none => .error .invalidHex
          | some signature =>
            if signature.length ≠ 64 then .error .invalidSignature
            else if !primitives.verify publicKey planHash signature then
              .error (.wrongSignature approval.operator)
            else checkApprovals trusted planHash (approval.operator :: operators)
              (canonicalPublicKey :: publicKeys) rest

section

variable (plan : RecoveryPlan Digest) (statePath checkpointPath : Path)

def validateApprovals (trustedPath : Path) : M Digest Unit := do
  let trusted ← loadDocument Document.operators?
    (.reading s!"reading trusted operators {trustedPath}")
    (.decoding "trusted operators must be a JSON ID-to-public-key map") trustedPath
  let operators ← liftExcept (checkApprovals primitives trusted plan.planHash [] [] plan.approvals)
  ensure (2 ≤ operators.length) .tooFewApprovals

/-! ### Applying -/

/-- Where a run stands: the state, and how many operations led to it. -/
structure Progress where
  state : EntryMap
  appliedOperations : Nat

/-- Apply the operations of a batch one by one and check each of them. -/
def applyChecked (state : EntryMap) (operation : RecoveryOperation) : M Digest EntryMap := do
  let applied := applyOperation state operation
  ensure (operationPostconditionHolds applied operation)
    (.postcondition (operationEffect operation))
  return applied

def applyBatch (progress : Progress) (batch : RecoveryBatch) : M Digest Progress := do
  ensure (batch.operations.length ≤ plan.batchSize) (.batchTooLarge batch.index)
  let state ← fold applyChecked progress.state batch.operations
  let appliedOperations := progress.appliedOperations + batch.operations.length
  writeJsonAtomic statePath (.scores state.values)
  writeJsonAtomic checkpointPath (.checkpoint {
    planHash := plan.planHash
    nextBatch := batch.index + 1
    appliedOperations
    stateRoot := exportRoot primitives state })
  return { state, appliedOperations }

/-- Find the batch to go on with: that of the checkpoint, or the one after it
when the pending batch is already in the state. -/
def resume (checkpointPath : Path) (state : EntryMap) : M Digest (Nat × Nat) := do
  let checkpoint ← loadCheckpoint checkpointPath
  ensure (checkpoint.planHash = plan.planHash) .otherPlan
  ensure (checkpoint.nextBatch ≤ plan.batches.length) .batchIndexExceedsPlan
  if checkpoint.stateRoot ≠ exportRoot primitives state then
    plan.batches[checkpoint.nextBatch]?.elim (bail .rootMismatchAtEnd) fun pending => do
      ensure (exportRoot primitives (applyOperations state pending.operations) =
        exportRoot primitives state) .liveStateDiverges
      let appliedOperations := checkpoint.appliedOperations + pending.operations.length
      writeJsonAtomic checkpointPath (.checkpoint {
        planHash := plan.planHash
        nextBatch := checkpoint.nextBatch + 1
        appliedOperations
        stateRoot := exportRoot primitives state })
      return (checkpoint.nextBatch + 1, appliedOperations)
  else return (checkpoint.nextBatch, checkpoint.appliedOperations)

/-- Start at the first batch, from the state the plan was made for. -/
def startPlan (checkpointPath : Path) (state : EntryMap) : M Digest (Nat × Nat) := do
  ensure (exportRoot primitives state = plan.baseStateRoot) .baseRootMismatch
  writeJsonAtomic checkpointPath (.checkpoint {
    planHash := plan.planHash
    nextBatch := 0
    appliedOperations := 0
    stateRoot := exportRoot primitives state })
  return (0, 0)

def findBatch (checkpointPath : Path) (state : EntryMap) : M Digest (Nat × Nat) := do
  if (← fileExists checkpointPath) || (← fileExists (backupPath checkpointPath)) then
    resume primitives plan checkpointPath state
  else startPlan primitives plan checkpointPath state

/-- Apply the batches that are left and compare the root with the approved one. -/
def applyBatches (state : EntryMap) (nextBatch appliedOperations : Nat) : M Digest Unit := do
  let done ← fold (applyBatch primitives plan statePath checkpointPath)
    { state, appliedOperations } (plan.batches.drop nextBatch)
  let finalRoot := exportRoot primitives done.state
  ensure (finalRoot = plan.exportRoot) (.finalRootMismatch finalRoot plan.exportRoot)

def applyPlan : M Digest Unit := do
  let state ← liftExcept (indexExport (← loadLiveState statePath))
  let (nextBatch, appliedOperations) ← findBatch primitives plan checkpointPath state
  applyBatches primitives plan statePath checkpointPath state nextBatch appliedOperations

end

def cmdApply (planPath statePath trustedPath checkpointPath : Path) : M Digest Unit := do
  let plan ← loadPlan primitives planPath
  validateApprovals primitives plan trustedPath
  applyPlan primitives plan statePath checkpointPath

end Commands

end LedgerLens.Recovery
