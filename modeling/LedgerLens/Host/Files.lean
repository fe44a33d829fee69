import LedgerLens.Host.Reasoning
import Mathlib.Logic.Function.Basic

/-!
Files, and programs that may be stopped while they change them.

A file holds a document of some type `D`, or the beginning of one whose writing
was cut short. A program changes the files one step at a time; the process is
given a number of steps, or as many as it likes, and stops where they are used
up. A stop leaves the files as they are and is told apart from an error of the
program.

`Safe m Q C files` is the weakest precondition with a condition for crashes:
from `files`, however many steps there are, `m` returns with `Q` or is stopped
with `C`, and it is not stopped when there is no limit.
-/

namespace Host

abbrev Path := String

/-- What is found in a file. -/
inductive Content (D : Type) where
  | torn
  | whole (document : D)
  deriving DecidableEq

def Content.document? {D : Type} : Content D → Option D
  | torn => none
  | whole document => some document

abbrev Files (D : Type) := Path → Option (Content D)

/-- The files and the number of steps before the process is stopped, if it is. -/
structure Disk (D : Type) where
  files : Files D
  steps : Option Nat

/-- Why a program did not return. -/
inductive Fault (ε : Type) where
  | stopped
  | error (error : ε)
  deriving DecidableEq

abbrev FileProg (D ε : Type) := Prog Unit (Fault ε) (Disk D)

section Primitives

variable {D ε : Type}

/-- Fail with an error of the program. -/
def bail {α : Type} (e : ε) : FileProg D ε α := Prog.throw (.error e)

def ensure (c : Bool) (e : ε) : FileProg D ε Unit := Prog.require c (.error e)

/-- One step. -/
def alter (f : Files D → Files D) : FileProg D ε Unit := fun _ disk =>
  match disk.steps with
  | none => .ok () ⟨f disk.files, none⟩
  | some 0 => .err .stopped disk
  | some (n + 1) => .ok () ⟨f disk.files, some n⟩

def content (path : Path) : FileProg D ε (Option (Content D)) := Prog.reads fun disk =>
    disk.files path

def fileExists (path : Path) : FileProg D ε Bool := do return (← content path).isSome

/-- Writing a file takes two steps, and it is torn between them. -/
def writeFile (path : Path) (document : D) : FileProg D ε Unit := do
  alter fun files => Function.update files path (some .torn)
  alter fun files => Function.update files path (some (.whole document))

def syncFile (_ : Path) : FileProg D ε Unit := alter id

/-- Put the file in the place of the other; false when there is no such file. -/
def renameFile (source target : Path) : FileProg D ε Bool := do
  (← content source).elim (pure false) fun found => do
    alter fun files => Function.update (Function.update files source none) target (some found)
    return true

def removeFile (path : Path) : FileProg D ε Bool := do
  if ← fileExists path then
    alter fun files => Function.update files path none
    return true
  else return false

end Primitives

/-! ### Programs that only read -/

/-- The files are the same. -/
def SameFiles {D : Type} (disk disk' : Disk D) : Prop := disk'.files = disk.files

section SameFiles

variable {D ε α β : Type}

instance : Std.Refl (@SameFiles D) := ⟨fun _ => rfl⟩

instance : IsTrans (Disk D) SameFiles := ⟨fun _ _ _ first second => second.trans first⟩

instance keeps_bail (e : ε) : Prog.Keeps SameFiles (bail e : FileProg D ε α) :=
  Prog.Keeps.instThrow _

instance keeps_ensure (c : Bool) (e : ε) : Prog.Keeps SameFiles (ensure c e : FileProg D ε Unit) :=
  Prog.Keeps.instRequire c _

instance keeps_content (path : Path) :
    Prog.Keeps SameFiles (content path : FileProg D ε (Option (Content D))) :=
  Prog.Keeps.instReads _

/-- The files after a run, whichever way it ended. -/
def Outcome.filesAfter (disk : Disk D) : Outcome (Fault ε) (Disk D) α → Files D
  | .ok _ disk' | .err _ disk' => disk'.files
  | .trap => disk.files

/-- A run that changes a file is past a first part that only reads. -/
theorem returned_of_modified {m : FileProg D ε α} {f : α → FileProg D ε β} {disk : Disk D}
    {path : Path} (reads : Prog.Keeps SameFiles m)
    (modified : ((m >>= f) () disk).filesAfter disk path ≠ disk.files path) :
    ∃ a disk', m () disk = .ok a disk' ∧ disk'.files = disk.files ∧
      (f a () disk').filesAfter disk' path ≠ disk'.files path := by
  rw [Prog.run_bind] at modified
  cases outcome : m () disk with
  | ok a disk' =>
    have same : disk'.files = disk.files := reads.ok outcome
    refine ⟨a, disk', rfl, same, ?_⟩
    rw [same]
    rw [outcome] at modified
    intro unmodified
    apply modified
    rw [← unmodified]
    change (f a () disk').filesAfter disk path = (f a () disk').filesAfter disk' path
    cases f a () disk' with
    | ok b disk'' | err e disk'' => rfl
    | trap => exact congrFun same.symm path
  | err e disk' =>
    rw [outcome] at modified
    exact absurd (congrFun (reads.err outcome) path) modified
  | trap =>
    rw [outcome] at modified
    exact absurd rfl modified

end SameFiles

/-! ### Where a program can be stopped -/

section Stopped

variable {D ε α β : Type} {m : FileProg D ε α} {f : α → FileProg D ε β} {a : α}
  {files files' files'' : Files D} {count : Nat}

/-- The program returns after just so many steps. -/
def Takes (m : FileProg D ε α) (count : Nat) (a : α) (files files' : Files D) : Prop :=
  ∀ left, m () ⟨files, some (left + count)⟩ = .ok a ⟨files', some left⟩

/-- With just so many steps the program is stopped, and the files are these. -/
def Stops (m : FileProg D ε α) (count : Nat) (files files' : Files D) : Prop :=
  m () ⟨files, some count⟩ = .err .stopped ⟨files', some 0⟩

theorem Takes.bind {later : Nat} {b : β} (first : Takes m count a files files')
    (rest : Takes (f a) later b files' files'') : Takes (m >>= f) (later + count) b files
      files'' := by
  intro left
  rw [← Nat.add_assoc, Prog.run_bind_of_ok (first _)]
  exact rest left

theorem Takes.stops {later : Nat} (first : Takes m count a files files')
    (rest : Stops (f a) later files' files'') : Stops (m >>= f) (later + count) files files'' :=
  (Prog.run_bind_of_ok (first later)).trans rest

theorem Stops.bind (stops : Stops m count files files') : Stops (m >>= f) count files files' :=
  Prog.run_bind_of_err stops

variable {path source target : Path} {found : Content D} {document : D}

theorem Takes.fileExists :
    Takes (fileExists path : FileProg D ε Bool) 0 (files path).isSome files files :=
  fun _ => rfl

theorem Takes.ensure {e : ε} : Takes (ensure true e : FileProg D ε Unit) 0 () files files :=
  fun _ => rfl

theorem Takes.writeFile : Takes (writeFile path document : FileProg D ε Unit) 2 () files
    (Function.update files path (some (.whole document))) := by
  intro left
  change Outcome.ok () (Disk.mk (Function.update (Function.update files path _) path _) _) = _
  rw [Function.update_idem]

theorem Takes.syncFile : Takes (syncFile path : FileProg D ε Unit) 1 () files files :=
  fun _ => rfl

theorem removeFile_run (there : (files path).isSome = true) (limit : Option Nat) :
    (removeFile path : FileProg D ε Bool) () ⟨files, limit⟩ =
      (alter (fun files => Function.update files path none) >>= fun _ => pure true) ()
        ⟨files, limit⟩ := by
  have found : (Host.fileExists path : FileProg D ε Bool) () ⟨files, limit⟩ =
      .ok true ⟨files, limit⟩ := by
    rw [← there]
    rfl
  unfold Host.removeFile
  rw [Prog.run_bind_of_ok found, if_pos rfl]

theorem renameFile_run (there : files source = some found) (limit : Option Nat) :
    (renameFile source target : FileProg D ε Bool) () ⟨files, limit⟩ =
      (alter (fun files => Function.update (Function.update files source none) target
        (some found)) >>= fun _ => pure true) () ⟨files, limit⟩ := by
  have read : (content source : FileProg D ε _) () ⟨files, limit⟩ =
      .ok (some found) ⟨files, limit⟩ := by
    rw [← there]
    rfl
  unfold Host.renameFile
  rw [Prog.run_bind_of_ok read, Option.elim_some]

theorem Takes.removeFile (there : (files path).isSome = true) :
    Takes (removeFile path : FileProg D ε Bool) 1 true files (Function.update files path none) :=
  fun left => removeFile_run there (some (left + 1))

theorem Takes.renameFile (there : files source = some found) :
    Takes (renameFile source target : FileProg D ε Bool) 1 true files
      (Function.update (Function.update files source none) target (some found)) :=
  fun left => renameFile_run there (some (left + 1))

theorem Stops.removeFile (there : (files path).isSome = true) :
    Stops (removeFile path : FileProg D ε Bool) 0 files files :=
  removeFile_run there (some 0)

theorem Stops.renameFile (there : files source = some found) :
    Stops (renameFile source target : FileProg D ε Bool) 0 files files :=
  renameFile_run there (some 0)

end Stopped

end Host
