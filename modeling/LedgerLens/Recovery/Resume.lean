import LedgerLens.Recovery.Replace

/-!
Resuming from a checkpoint. When the live state does not have the recorded root,
`apply` asks whether the pending batch leaves the live state as it is, and takes a
yes to mean that the live state is the recorded one with that batch. It means so
only if the two agree everywhere else: an entry that the batch does not touch is
not compared with anything. The main result is `writes_explained_iff`.
-/

namespace LedgerLens.Recovery

open Host Host.Prog

variable {Digest : Type}

/-! ### A replacement that is stopped -/

section Stopped

variable {path : Path} {files : Files (Document Digest)}

theorem dropBackup_takes (path : Path) (files : Files (Document Digest)) :
    ∃ count, Takes (dropBackup path : M Digest Unit) count () files
      (Function.update files (backupPath path) none) := by
  cases there : files (backupPath path) with
  | none =>
    have same : Function.update files (backupPath path) none = files := by
      rw [← there, Function.update_eq_self]
    refine ⟨0, Takes.bind Takes.fileExists ?_⟩
    rw [there, same]
    exact fun _ => rfl
  | some found =>
    refine ⟨0 + 1 + 0, Takes.bind Takes.fileExists ?_⟩
    rw [there, if_pos Option.isSome_some]
    exact Takes.bind (Takes.removeFile (by rw [there]; rfl)) Takes.ensure

theorem dropBackup_stops (there : (files (backupPath path)).isSome = true) :
    Stops (dropBackup path : M Digest Unit) 0 files files := by
  refine Takes.fileExists.stops ?_
  rw [if_pos there]
  exact (Stops.removeFile there).bind

theorem setAside_takes (path : Path) (files : Files (Document Digest)) :
    ∃ count, Takes (setAside path : M Digest Unit) count () files (asideFiles files path) := by
  unfold asideFiles
  cases there : files path with
  | none =>
    refine ⟨0, Takes.bind Takes.fileExists ?_⟩
    rw [there]
    exact fun _ => rfl
  | some found =>
    have still : Function.update files (backupPath path) none path = some found := by
      rw [Function.update_of_ne (backupPath_ne path).symm, there]
    obtain ⟨count, dropped⟩ := dropBackup_takes path files
    refine ⟨0 + 1 + count + 0, Takes.bind Takes.fileExists ?_⟩
    rw [there, if_pos Option.isSome_some]
    exact Takes.bind dropped (Takes.bind (Takes.renameFile still) Takes.ensure)

/-- Replacing a visible file changes it on the way, and the run can be stopped
there. -/
theorem writeJsonAtomic_stopped (document : Document Digest)
    (seen : (visible files path).isSome = true) :
    ∃ limit disk, writeJsonAtomic path document () ⟨files, limit⟩ = .err .stopped disk ∧
      disk.files path ≠ files path := by
  let written := Function.update files (temporaryPath path) (some (.whole document))
  have same : written path = files path := Function.update_of_ne (temporaryPath_ne path).symm ..
  have ready : asideFiles written path (temporaryPath path) = some (.whole document) := by
    rw [asideFiles_temporary]
    exact Function.update_self ..
  obtain ⟨count, aside⟩ := setAside_takes path written
  cases there : files path with
  | some found =>
    -- stopped before the new file is put in its place
    have stops : Stops (writeJsonAtomic path document) (0 + count + 1 + 2) files
        (asideFiles written path) :=
      Takes.writeFile.stops (Takes.syncFile.stops (aside.stops (Stops.renameFile ready).bind))
    refine ⟨_, _, stops, ?_⟩
    simp [asideFiles, same, there, (backupPath_ne path).symm]
  | none =>
    -- stopped before the backup is dropped
    have unmoved : asideFiles written path = written := by
      rw [asideFiles, same, there, Option.elim_none]
    have backup : (Function.update (Function.update written (temporaryPath path) none) path
        (some (.whole document)) (backupPath path)).isSome = true := by
      rw [visible, there, Option.none_or] at seen
      simpa [written, backupPath_ne, (temporaryPath_ne_backupPath path).symm] using seen
    rw [unmoved] at aside ready
    refine ⟨_, _, Takes.writeFile.stops (Takes.syncFile.stops (aside.stops
      ((Takes.renameFile ready).stops (dropBackup_stops backup)))), ?_⟩
    simp

end Stopped

/-! ### Which live states pass -/

variable [DecidableEq Digest] (primitives : Primitives Digest)
  (planPath statePath trustedPath checkpointPath : Path)

/-- An approved plan, the live state, and a checkpoint of the plan that recorded
some state and the batch to go on with. -/
structure Resuming (plan : RecoveryPlan Digest) (live recorded : EntryMap) (nextBatch : Nat)
    (files : Files (Document Digest)) : Prop where
  isPlan : files planPath = some (.whole (.plan plan))
  version : plan.version = recoveryPlanVersion
  hash : calculatePlanHash primitives plan.toPlanBody = plan.planHash
  approved : ∃ trusted operators, files trustedPath = some (.whole (.operators trusted)) ∧
    checkApprovals primitives trusted plan.planHash [] [] plan.approvals = .ok operators ∧
    2 ≤ operators.length
  isLive : Holds (visible files statePath) live
  isRecorded : ∃ checkpoint : ApplyCheckpoint Digest,
    visible files checkpointPath = some (.whole (.checkpoint checkpoint)) ∧
    checkpoint.planHash = plan.planHash ∧ checkpoint.nextBatch = nextBatch ∧
    checkpoint.stateRoot = exportRoot primitives recorded

/-- A run of `apply`, stopped somewhere or not, changes the state or the
checkpoint. -/
def Writes (files : Files (Document Digest)) : Prop :=
  ∃ limit, ∃ path ∈ [statePath, checkpointPath],
    (cmdApply primitives planPath statePath trustedPath checkpointPath () ⟨files, limit⟩).filesAfter
      ⟨files, limit⟩ path ≠ files path

/-- The live state is the recorded one, or the recorded one with the pending
batch. -/
def Explained (plan : RecoveryPlan Digest) (live recorded : EntryMap) (nextBatch : Nat) : Prop :=
  live = recorded ∨ ∃ pending, plan.batches[nextBatch]? = some pending ∧
    live = applyOperations recorded pending.operations

variable {primitives planPath statePath trustedPath checkpointPath}
  {plan : RecoveryPlan Digest} {live recorded : EntryMap} {nextBatch : Nat}
  {files : Files (Document Digest)}

/-- A live state that the pending batch leaves as it is contains the batch; it is
the recorded state with the batch when the two agree elsewhere. -/
theorem eq_applyOperations_iff {operations : List RecoveryOperation}
    (settled : applyOperations live operations = live) :
    live = applyOperations recorded operations ↔
      ∀ key ∉ operations.map RecoveryOperation.key, live.get? key = recorded.get? key := by
  constructor
  · intro same key untouched
    rw [same, get?_applyOperations_of_notMem _ untouched]
  · intro agrees
    ext1 key
    by_cases touched : key ∈ operations.map RecoveryOperation.key
    · rw [← get?_applyOperations_of_mem live recorded touched, settled]
    · rw [agrees key touched, get?_applyOperations_of_notMem _ touched]

theorem Resuming.run (resuming : Resuming primitives planPath statePath trustedPath checkpointPath
    plan live recorded nextBatch files) (limit : Option Nat) :
    cmdApply primitives planPath statePath trustedPath checkpointPath () ⟨files, limit⟩ =
      (resume primitives plan checkpointPath live >>= fun found =>
        applyBatches primitives plan statePath checkpointPath live found.1 found.2) ()
          ⟨files, limit⟩ := by
  obtain ⟨trusted, operators, isTrusted, passed, enough⟩ := resuming.approved
  obtain ⟨listed, held, indexed⟩ := resuming.isLive
  obtain ⟨checkpoint, seen, _⟩ := resuming.isRecorded
  have there : ((files checkpointPath).isSome || (files (backupPath checkpointPath)).isSome) =
      true := by
    rw [← Option.isSome_or, ← visible, seen]
    rfl
  have lifted : (liftExcept (indexExport listed) : M Digest EntryMap) () ⟨files, limit⟩ =
      .ok live ⟨files, limit⟩ := by
    rw [indexed]
    rfl
  have found : findBatch primitives plan checkpointPath live () ⟨files, limit⟩ =
      resume primitives plan checkpointPath live () ⟨files, limit⟩ := by
    change (if (files checkpointPath).isSome || (files (backupPath checkpointPath)).isSome then
      resume primitives plan checkpointPath live
      else startPlan primitives plan checkpointPath live) () _ = _
    rw [if_pos there]
  unfold cmdApply applyPlan
  rw [run_bind_of_ok (loadPlan_run resuming.isPlan resuming.version resuming.hash),
    run_bind_of_ok (validateApprovals_run isTrusted passed enough),
    run_bind_of_ok (loadLiveState_run held), run_bind_of_ok lifted, run_bind, found]
  rfl

section Verdict

variable {checkpoint : ApplyCheckpoint Digest}
  (seen : visible files checkpointPath = some (.whole (.checkpoint checkpoint)))
  (samePlan : checkpoint.planHash = plan.planHash)
  (differs : checkpoint.stateRoot ≠ exportRoot primitives live)

include seen samePlan differs

/-- The live state is rejected when there is no pending batch, or when it would
change something. -/
theorem resume_rejects
    (unsettled : ∀ pending, plan.batches[checkpoint.nextBatch]? = some pending →
      exportRoot primitives (applyOperations live pending.operations) ≠
        exportRoot primitives live) :
    ∃ e, ∀ limit, resume primitives plan checkpointPath live () ⟨files, limit⟩ =
      .err (.error e) ⟨files, limit⟩ := by
  by_cases within : checkpoint.nextBatch ≤ plan.batches.length
  · cases pending : plan.batches[checkpoint.nextBatch]? with
    | none =>
      refine ⟨.rootMismatchAtEnd, fun limit => ?_⟩
      unfold resume
      rw [run_bind_of_ok (loadCheckpoint_run seen), decide_eq_true samePlan,
        decide_eq_true within, if_pos differs, pending]
      rfl
    | some batch =>
      refine ⟨.liveStateDiverges, fun limit => ?_⟩
      unfold resume
      rw [run_bind_of_ok (loadCheckpoint_run seen), decide_eq_true samePlan,
        decide_eq_true within, if_pos differs, pending, Option.elim_some,
        decide_eq_false (unsettled batch pending)]
      rfl
  · refine ⟨.batchIndexExceedsPlan, fun limit => ?_⟩
    unfold resume
    rw [run_bind_of_ok (loadCheckpoint_run seen), decide_eq_true samePlan, decide_eq_false within]
    rfl

/-- When the pending batch leaves the live state as it is, the checkpoint is
written. -/
theorem resume_writes {pending : RecoveryBatch}
    (isPending : plan.batches[checkpoint.nextBatch]? = some pending)
    (settled : applyOperations live pending.operations = live) :
    ∃ limit disk, resume primitives plan checkpointPath live () ⟨files, limit⟩ =
      .err .stopped disk ∧ disk.files checkpointPath ≠ files checkpointPath := by
  have within : checkpoint.nextBatch ≤ plan.batches.length :=
    (List.getElem?_eq_some_iff.mp isPending).1.le
  obtain ⟨limit, disk, stopped, modified⟩ := writeJsonAtomic_stopped
    (.checkpoint {
      planHash := plan.planHash
      nextBatch := checkpoint.nextBatch + 1
      appliedOperations := checkpoint.appliedOperations + pending.operations.length
      stateRoot := exportRoot primitives live })
    (show (visible files checkpointPath).isSome = true by rw [seen]; rfl)
  refine ⟨limit, disk, ?_, modified⟩
  have passed (e : Failure Digest) : (ensure true e : M Digest Unit) () ⟨files, limit⟩ =
      .ok () ⟨files, limit⟩ := rfl
  unfold resume
  rw [run_bind_of_ok (loadCheckpoint_run seen), decide_eq_true samePlan, run_bind_of_ok (passed _),
    decide_eq_true within, run_bind_of_ok (passed _), if_pos differs, isPending, Option.elim_some,
    settled, decide_eq_true rfl, run_bind_of_ok (passed _)]
  exact run_bind_of_err stopped

end Verdict

/-- Files are written only for a live state that is the recorded one, with or
without the pending batch, just when every live state that passes the test agrees
with the recorded one outside the batch. -/
theorem writes_explained_iff (injective : Function.Injective (exportRoot primitives))
    (resuming : Resuming primitives planPath statePath trustedPath checkpointPath plan live recorded
      nextBatch files) :
    (Writes primitives planPath statePath trustedPath checkpointPath files →
        Explained plan live recorded nextBatch) ↔
      ∀ pending, plan.batches[nextBatch]? = some pending →
        applyOperations live pending.operations = live →
        ∀ key ∉ pending.operations.map RecoveryOperation.key,
          live.get? key = recorded.get? key := by
  obtain ⟨checkpoint, seen, samePlan, rfl, isRoot⟩ := resuming.isRecorded
  constructor
  · intro explained pending isPending settled key untouched
    by_cases same : live = recorded
    · rw [same]
    · have differs : checkpoint.stateRoot ≠ exportRoot primitives live := by
        rw [isRoot]
        exact fun equal => same (injective equal).symm
      obtain ⟨limit, disk, stopped, modified⟩ :=
        resume_writes seen samePlan differs isPending settled
      have writes : Writes primitives planPath statePath trustedPath checkpointPath files := by
        refine ⟨limit, checkpointPath, by simp, ?_⟩
        rw [resuming.run, run_bind_of_err stopped]
        exact modified
      rcases explained writes with equal | ⟨pending', isPending', applied⟩
      · exact absurd equal same
      · cases isPending.symm.trans isPending'
        exact (eq_applyOperations_iff settled).mp applied key untouched
  · rintro agrees ⟨limit, path, _, modified⟩
    by_cases same : live = recorded
    · exact .inl same
    · have differs : checkpoint.stateRoot ≠ exportRoot primitives live := by
        rw [isRoot]
        exact fun equal => same (injective equal).symm
      by_contra unexplained
      -- then the pending batch would change the live state, and the run is refused
      obtain ⟨e, refused⟩ := resume_rejects seen samePlan differs fun pending isPending equal =>
        have settled := injective equal
        unexplained (.inr ⟨pending, isPending,
          (eq_applyOperations_iff settled).mpr (agrees pending isPending settled)⟩)
      rw [resuming.run, run_bind_of_err (refused limit)] at modified
      exact modified rfl

/-! ### The sample plan -/

/-- The sample plan is about to apply its only batch to an empty state; the state
file holds the entries. -/
def interruptedFiles (entries : List ExportableScoreEntry) : Files (Document SampleDigest)
  | "plan.json" => some (.whole (.plan samplePlan))
  | "state.json" => some (.whole (.scores entries))
  | "operators.json" => some (.whole (.operators sampleTrusted))
  | "checkpoint.json" => some (.whole (.checkpoint {
      planHash := sampleHash
      nextBatch := 0
      appliedOperations := 0
      stateRoot := exportRoot samplePrimitives .empty }))
  | _ => none

theorem resuming_sample {entries : List ExportableScoreEntry} {live : EntryMap}
    (indexed : (indexExport entries : Except (Failure SampleDigest) EntryMap) = .ok live) :
    Resuming samplePrimitives "plan.json" "state.json" "operators.json" "checkpoint.json" samplePlan
      live .empty 0 (interruptedFiles entries) where
  isPlan := rfl
  version := rfl
  hash := by decide +kernel
  approved := ⟨sampleTrusted, ["bob", "alice"], rfl, checkApprovals_sample, by decide⟩
  isLive := ⟨entries, rfl, indexed⟩
  isRecorded := ⟨_, rfl, rfl, rfl, rfl⟩

theorem exportRoot_sample_injective : Function.Injective (exportRoot samplePrimitives) := by
  intro entries entries' same
  apply values_injective
  change samplePrimitives.exportDigest entries.values =
    samplePrimitives.exportDigest entries'.values at same
  unfold samplePrimitives at same
  dsimp only at same
  split_ifs at same <;> simp_all

def sampleDesired : EntryMap := EntryMap.empty.insert sampleEntry

/-- A live state with the entry of the batch is taken for the batch applied, and the checkpoint
is written. -/
theorem writes_of_applied (entries : List ExportableScoreEntry) (live : EntryMap)
    (indexed : (indexExport entries : Except (Failure SampleDigest) EntryMap) = .ok live)
    (applied : live.get? sampleEntry.key = some sampleEntry)
    (differs : exportRoot samplePrimitives .empty ≠ exportRoot samplePrimitives live) :
    Writes samplePrimitives "plan.json" "state.json" "operators.json" "checkpoint.json"
      (interruptedFiles entries) := by
  have resuming := resuming_sample indexed
  have settled : applyOperations live [.upsert sampleEntry] = live := by
    ext1 key
    change (live.insert sampleEntry).get? key = live.get? key
    rw [EntryMap.get?_insert]
    split
    · next isKey => rw [← isKey, applied]
    · rfl
  obtain ⟨checkpoint, seen, samePlan, isNext, isRoot⟩ := resuming.isRecorded
  have isPending : samplePlan.batches[checkpoint.nextBatch]? = some {
      index := 0
      operations := [.upsert sampleEntry]
      predictedEffects := ["set GA/XLM score=40 confidence=90"]
      estimatedCostUnits := 25000 } := by
    rw [isNext]
    rfl
  obtain ⟨limit, disk, stopped, modified⟩ :=
    resume_writes seen samePlan (isRoot ▸ differs) isPending settled
  refine ⟨limit, "checkpoint.json", by simp, ?_⟩
  rw [resuming.run, run_bind_of_err stopped]
  exact modified

/-- With the batch applied the checkpoint is written, and the live state is explained. -/
theorem writes_explained_sample :
    Resuming samplePrimitives "plan.json" "state.json" "operators.json" "checkpoint.json" samplePlan
        sampleDesired .empty 0 (interruptedFiles [sampleEntry]) ∧
      Function.Injective (exportRoot samplePrimitives) ∧
      Writes samplePrimitives "plan.json" "state.json" "operators.json" "checkpoint.json"
        (interruptedFiles [sampleEntry]) ∧
      Explained samplePlan sampleDesired .empty 0 := by
  have writes := writes_of_applied [sampleEntry] sampleDesired rfl
    (by decide +kernel) (by decide +kernel)
  refine ⟨resuming_sample rfl, exportRoot_sample_injective, writes,
    (writes_explained_iff exportRoot_sample_injective (resuming_sample rfl)).mpr ?_ writes⟩
  intro pending isPending _ key other
  cases isPending
  rw [sampleDesired, EntryMap.get?_insert, if_neg]
  exact fun same => other (by simp [← same, RecoveryOperation.key])

/-- A stranger's entry in the live state goes unnoticed when the batch is there
too: the checkpoint is written. -/
theorem writes_with_stranger :
    Writes samplePrimitives "plan.json" "state.json" "operators.json" "checkpoint.json"
        (interruptedFiles [sampleEntry, strangerEntry]) ∧
      ¬ Explained samplePlan (sampleDesired.insert strangerEntry) .empty 0 := by
  generalize isLive : sampleDesired.insert strangerEntry = live
  have stranger : live.get? ("GB", "XLM") = some strangerEntry := by
    rw [← isLive]
    decide +kernel
  refine ⟨writes_of_applied _ (sampleDesired.insert strangerEntry) rfl (by decide +kernel)
    (by decide +kernel), ?_⟩
  · rintro (same | ⟨pending, isPending, same⟩)
    · rw [same, EntryMap.get?_empty] at stranger
      cases stranger
    · cases isPending
      rw [same] at stranger
      revert stranger
      decide +kernel

end LedgerLens.Recovery
