import DetachedTasks.Proofs.CleanupReach
import DetachedTasks.Proofs.MemoryTrees
import DetachedTasks.Proofs.SavedHandles

/-!
# Complete cleanups

A cleanup takes away all that was kept for one task, however deep it lay, and nothing else.
Whoever asks for the task afterwards is told that it is not there, and one more cleanup finds
nothing to take away.
-/

namespace DetachedTasks

/-- What a program ends with, and the files in memory that it leaves. -/
def TaskProgram.onMemory
    (outside : Program.Handler World)
    (world : World)
    (program : TaskProgram α)
    (memory : Memory) : Except TaskFault α × Memory :=
  let ended := program.run.run (Memory.respond outside) (memory, world)
  (ended.1, ended.2.1)

/-- What is secured whatever the world outside does comes about in any world. -/
theorem TaskProgram.onMemory_eq
    {program : TaskProgram α}
    {memory after : Memory}
    {outcome : Except TaskFault α}
    (secures : program.run.Secures
      (fun ended left => ended = outcome ∧ left = after) memory)
    (outside : Program.Handler World)
    (world : World) :
    program.onMemory outside world memory = (outcome, after) := by
  obtain ⟨ended, left⟩ := secures.run outside world
  exact Prod.ext ended left

namespace Workspace

variable {workspace : Workspace} {id : Text} {memory : Memory}

/-! ### What a cleanup leaves -/

/-- The files in memory after a cleanup. -/
def cleared
    (workspace : Workspace)
    (id : Text)
    (memory : Memory) : Memory :=
  (memory.withoutFile (workspace.handleFile id)).withoutTree (workspace.controlDirectory id)

/-- Nothing stands at the saved handle of a task, at its control directory or below. -/
structure HasNothingOf
    (workspace : Workspace)
    (id : Text)
    (memory : Memory) : Prop where
  handleFile : memory.entryAt (workspace.handleFile id) = none
  directory : ∀ path, path.isWithin (workspace.controlDirectory id) = true →
    memory.entryAt path = none

/-- Whatever is neither the saved handle of a task nor lies in its control directory stands
as it stood. -/
def KeepsAllBut
    (workspace : Workspace)
    (id : Text)
    (before after : Memory) : Prop :=
  ∀ path : Path, path.location ≠ (workspace.handleFile id).location →
    path.isWithin (workspace.controlDirectory id) = false →
    after.entryAt path = before.entryAt path

/-- The saved handle of a task does not stand at its control directory. -/
theorem location_handleFile_ne
    (plain : Path.IsName (Utf8.encode id)) :
    (workspace.controlDirectory id).location ≠ (workspace.handleFile id).location := by
  rw [location_controlDirectory_of_isName plain, location_handleFile_of_isName plain, placeOf]
  intro same
  rw [List.append_cancel_left_eq] at same
  injection same with sameName
  injection sameName with sameBytes
  have noSuffix := List.self_eq_append_right.mp (Utf8.encode_injective sameBytes)
  exact absurd noSuffix (by decide)

theorem hasNothingOf_cleared
    (plain : Path.IsName (Utf8.encode id))
    (tree : memory.IsTree)
    (noDirectory : memory.isDirectory (workspace.handleFile id) = false)
    (noFile : memory.isFile (workspace.controlDirectory id) = false) :
    workspace.HasNothingOf id (workspace.cleared id memory) := by
  have apart : (workspace.controlDirectory id).location ≠ (workspace.handleFile id).location :=
    location_handleFile_ne plain
  constructor
  · rw [cleared, Memory.entryAt_withoutTree_eq, Memory.entryAt_withoutFile_eq]
    split
    · rfl
    · cases isFile : memory.isFile (workspace.handleFile id) with
      | true => exact if_pos ⟨rfl, rfl⟩
      | false => rw [if_neg (by simp), Memory.entryAt_eq_none isFile noDirectory]
  · intro path within
    rw [cleared, Memory.entryAt_withoutTree_eq]
    split
    · rfl
    · rename_i spared
      -- No directory was there to be removed, so nothing was below it.
      have missing : memory.entryAt (workspace.controlDirectory id) = none := by
        apply Memory.entryAt_eq_none noFile
        rw [Bool.eq_false_iff]
        intro isDirectory
        apply spared
        refine ⟨?_, within⟩
        rw [Memory.isDirectory, Memory.entryAt_withoutFile apart]
        exact isDirectory
      have somewhere : (workspace.controlDirectory id).location ≠ [] := by
        rw [location_controlDirectory_of_isName plain]
        exact List.concat_ne_nil _ _
      rw [Memory.entryAt_withoutFile_eq, tree.vacant_within somewhere missing within, ite_self]

theorem keepsAllBut_cleared :
    workspace.KeepsAllBut id memory (workspace.cleared id memory) := by
  intro path notHandle notWithin
  rw [cleared, Memory.entryAt_withoutTree_eq, notWithin, if_neg (by simp),
    Memory.entryAt_withoutFile notHandle]

/-! ### What whoever asks is told -/

theorem HasNothingOf.noDirectory
    (nothing : workspace.HasNothingOf id memory) :
    memory.isDirectory (workspace.controlDirectory id) = false := by
  have within : (workspace.controlDirectory id).isWithin (workspace.controlDirectory id) = true :=
    Path.isWithin_iff.mpr ⟨[], (List.append_nil _).symm⟩
  rw [Memory.isDirectory, nothing.directory _ within]
  rfl

theorem HasNothingOf.noSavedHandle
    (nothing : workspace.HasNothingOf id memory) :
    memory.isFile (workspace.handleFile id) = false := by
  rw [Memory.isFile, nothing.handleFile]

/-- Where nothing is left a cleanup takes nothing away. -/
theorem HasNothingOf.cleared_eq
    (nothing : workspace.HasNothingOf id memory) :
    workspace.cleared id memory = memory := by
  have same : memory.withoutFile (workspace.handleFile id) = memory := by
    rw [Memory.withoutFile, nothing.noSavedHandle]
    rfl
  rw [cleared, same, Memory.withoutTree, nothing.noDirectory]
  rfl

end Workspace

section Promises

variable {workspace : Workspace} {handle : Handle} {memory : Memory}

/-- Whoever looks for a file of a task that is not there is told so. -/
theorem secures_lookFor_gone
    {file : Path}
    {found missing : TaskProgram α}
    (gone : memory.isDirectory (handle.directory workspace) = false) :
    (handle.lookFor workspace file found missing).run.Secures
      (fun outcome left =>
        outcome = .error (.controlDirectoryMissing (handle.directory workspace)) ∧
          left = memory)
      memory := by
  intro _
  show Program.Secures _
    ((if memory.isDirectory (handle.directory workspace) then pure ()
      else throw (.controlDirectoryMissing (handle.directory workspace)) : TaskProgram Unit) >>=
        fun _ => TaskProgram.exists? file >>= fun stands =>
          if stands then found else missing).run memory
  rw [gone]
  exact ⟨rfl, rfl⟩

/-- Without a saved handle a task is taken not to capture its output. -/
theorem secures_load_unsaved
    {id : Text}
    (unsaved : memory.isFile (workspace.handleFile id) = false) :
    (Handle.load workspace id).run.Secures
      (fun outcome left => outcome = .ok (Handle.attach id false) ∧ left = memory)
      memory := by
  intro _
  show Program.Secures _
    (if memory.isFile (workspace.handleFile id) then _
      else TaskProgram.note .debug >>= fun _ => pure (Handle.attach id false) :
        TaskProgram Handle).run memory
  rw [unsaved]
  exact fun _ => ⟨rfl, rfl⟩

/-! ### The whole promise -/

theorem Handle.onMemory_cleanup
    (handle : Handle)
    (memory : Memory)
    (outside : Program.Handler World)
    (world : World) :
    (handle.cleanup workspace).onMemory outside world memory =
      (.ok (), workspace.cleared handle.id memory) :=
  TaskProgram.onMemory_eq (secures_cleanup handle memory) outside world

/-- A cleanup of a task whose control directory and saved handle are no obstacle succeeds,
leaves nothing of the task and everything else as it was, and changes nothing when it is done
again.  Whoever asks for the task then is told that its control directory is missing, and
whoever loads its handle gets a fresh one. -/
theorem Handle.cleanup_isComplete
    (plain : Path.IsName (Utf8.encode handle.id))
    (tree : memory.IsTree)
    (noDirectory : memory.isDirectory (workspace.handleFile handle.id) = false)
    (noFile : memory.isFile (workspace.controlDirectory handle.id) = false) :
    ∃ cleaned,
      workspace.HasNothingOf handle.id cleaned ∧
        workspace.KeepsAllBut handle.id memory cleaned ∧
        ∀ {World : Type} (outside : Program.Handler World) (world : World),
          (handle.cleanup workspace).onMemory outside world memory = (.ok (), cleaned) ∧
            (load workspace handle.id).onMemory outside world cleaned =
              (.ok (attach handle.id false), cleaned) ∧
            ∀ later : Handle, later.id = handle.id →
              let missing := TaskFault.controlDirectoryMissing
                (workspace.controlDirectory handle.id)
              (later.cleanup workspace).onMemory outside world cleaned = (.ok (), cleaned) ∧
                (later.status workspace).onMemory outside world cleaned =
                  (.error missing, cleaned) ∧
                (later.copyLog workspace).onMemory outside world cleaned =
                  (.error missing, cleaned) ∧
                (later.log workspace).onMemory outside world cleaned =
                  (.error missing, cleaned) := by
  have nothing := Workspace.hasNothingOf_cleared plain tree noDirectory noFile
  refine ⟨workspace.cleared handle.id memory, nothing, Workspace.keepsAllBut_cleared, ?_⟩
  intro World outside world
  refine ⟨?_, ?_, ?_⟩
  · exact handle.onMemory_cleanup memory outside world
  · exact TaskProgram.onMemory_eq (secures_load_unsaved nothing.noSavedHandle) outside world
  · intro later same
    rw [← same] at nothing ⊢
    have gone := nothing.noDirectory
    refine ⟨?_, ?_, ?_, ?_⟩
    · rw [onMemory_cleanup, nothing.cleared_eq]
    · rw [status_eq]
      exact TaskProgram.onMemory_eq (secures_lookFor_gone gone) outside world
    · rw [copyLog_eq]
      exact TaskProgram.onMemory_eq (secures_lookFor_gone gone) outside world
    · rw [log_eq]
      exact TaskProgram.onMemory_eq (secures_lookFor_gone gone) outside world

end Promises

namespace CompleteCleanupSample

def workspace : Workspace :=
  ⟨.ofText "/w".toList⟩

def handle : Handle :=
  Handle.attach (TaskId.ofWord 1) false

/-- Another task of the workspace. -/
def other : Handle :=
  Handle.attach (TaskId.ofWord 2) false

/-- A file that lies deep in the control directory. -/
def deepFile : Path :=
  ((handle.directory workspace).joinText "deep".toList).joinText "file".toList

/-- Two tasks with their saved handles. -/
def memory : Memory :=
  Memory.new.answerAll
    [.createDirectories ((handle.directory workspace).joinText "deep".toList),
      .write deepFile [],
      .write (workspace.handleFile handle.id) (Utf8.encode handle.toToml),
      .createDirectories (other.directory workspace),
      .write (workspace.handleFile other.id) (Utf8.encode other.toToml)]

end CompleteCleanupSample

open CompleteCleanupSample in
/-- Of the first task nothing is left, and the second one is as it was. -/
theorem Handle.cleanup_isComplete_sample :
    memory.isFile deepFile = true ∧
      ∃ cleaned,
        workspace.HasNothingOf handle.id cleaned ∧
          cleaned.entryAt (other.directory workspace) = some .directory ∧
          cleaned.isFile (workspace.handleFile other.id) = true := by
  have plain : Path.IsName (Utf8.encode handle.id) :=
    (TaskId.isFileName (by decide)).toIsName
  have tree : memory.IsTree :=
    Memory.isTree_of_entries (EntryMap.isTree_of_all (by decide +kernel))
  obtain ⟨cleaned, nothing, kept, _⟩ :=
    Handle.cleanup_isComplete plain tree
      (show memory.isDirectory (workspace.handleFile handle.id) = false by decide +kernel)
      (show memory.isFile (workspace.controlDirectory handle.id) = false by decide +kernel)
  refine ⟨by decide +kernel, cleaned, nothing, ?_, ?_⟩
  · rw [kept _ (by decide +kernel) (by decide +kernel)]
    decide +kernel
  · rw [Memory.isFile, kept _ (by decide +kernel) (by decide +kernel)]
    decide +kernel

end DetachedTasks
