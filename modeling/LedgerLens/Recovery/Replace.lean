import LedgerLens.Recovery.Approvals

/-!
Replacing a file. It is done in steps, and at each of them either the old document
or the new one is visible: in the file itself, or in the backup while there is no
file.
-/

namespace LedgerLens.Recovery

open Host Host.Prog

/-! ### Replacing a file -/

section Replace

variable {Digest : Type}

theorem backupPath_ne (path : Path) : backupPath path ≠ path := by
  intro same
  have := congrArg String.length same
  simp [backupPath] at this

theorem temporaryPath_ne (path : Path) : temporaryPath path ≠ path := by
  intro same
  have := congrArg String.length same
  simp [temporaryPath] at this

theorem temporaryPath_ne_backupPath (path : Path) : temporaryPath path ≠ backupPath path := by
  intro same
  simp [temporaryPath, backupPath] at same

/-- The document a reader gets: the file, or its backup when there is none. -/
def visible (files : Files (Document Digest)) (path : Path) : Option (Content (Document Digest)) :=
  (files path).or (files (backupPath path))

variable {path : Path} {document : Document Digest} {files : Files (Document Digest)}
  {Q : Unit → Files (Document Digest) → Prop} {C : Files (Document Digest) → Prop}

/-- The files once the old one is set aside. -/
def asideFiles (files : Files (Document Digest)) (path : Path) : Files (Document Digest) :=
  (files path).elim files fun found =>
    Function.update (Function.update (Function.update files (backupPath path) none) path none)
      (backupPath path) (some found)

theorem asideFiles_temporary :
    asideFiles files path (temporaryPath path) = files (temporaryPath path) := by
  unfold asideFiles
  cases files path with
  | none => rfl
  | some found => simp [temporaryPath_ne, temporaryPath_ne_backupPath]

/-- The content is an export of the entries. -/
def Holds (found : Option (Content (Document Digest))) (entries : EntryMap) : Prop :=
  ∃ listed, found = some (.whole (.scores listed)) ∧
    (indexExport listed : Except (Failure Digest) EntryMap) = .ok entries

/-- The files that are read are those that are visible. -/
theorem sourceOf_run (path : Path) (disk : Disk (Document Digest)) :
    ∃ source, sourceOf path () disk = .ok source disk ∧
      disk.files source = visible disk.files path := by
  cases there : disk.files path with
  | none =>
    refine ⟨backupPath path, ?_, by simp [visible, there]⟩
    change Outcome.ok (if (disk.files path).isSome = true then path else backupPath path) disk = _
    rw [there]
    rfl
  | some found =>
    refine ⟨path, ?_, by simp [visible, there]⟩
    change Outcome.ok (if (disk.files path).isSome = true then path else backupPath path) disk = _
    rw [there]
    rfl

theorem loadLiveState_run {disk : Disk (Document Digest)} {listed : List ExportableScoreEntry}
    (held : visible disk.files path = some (.whole (.scores listed))) :
    loadLiveState path () disk = .ok listed disk := by
  obtain ⟨source, isSource, same⟩ := sourceOf_run path disk
  unfold loadLiveState
  rw [run_bind_of_ok isSource]
  exact loadDocument_run (same.trans held) rfl

theorem loadCheckpoint_run {disk : Disk (Document Digest)} {checkpoint : ApplyCheckpoint Digest}
    (held : visible disk.files path = some (.whole (.checkpoint checkpoint))) :
    loadCheckpoint path () disk = .ok checkpoint disk := by
  obtain ⟨source, isSource, same⟩ := sourceOf_run path disk
  unfold loadCheckpoint
  rw [run_bind_of_ok isSource]
  exact loadDocument_run (same.trans held) rfl

end Replace

end LedgerLens.Recovery
