import DetachedTasks.Proofs.MemoryPrograms
import DetachedTasks.Proofs.TaskQueries

/-!
# Operations that are not disturbed

What a look at the status and a cleanup come to when nothing else happens to the files in
memory meanwhile.
-/

namespace DetachedTasks

variable {handle : Handle} {workspace : Workspace} {memory : Memory} {reply : Reply}

/-! ### Taking something away -/

/-- Memory without a file, if there is one. -/
def Memory.withoutFile
    (path : Path)
    (memory : Memory) : Memory :=
  if memory.isFile path then ⟨memory.entries.eraseWhere (· = path.location)⟩ else memory

/-- Memory without a directory and what is below it, if there is one. -/
def Memory.withoutTree
    (path : Path)
    (memory : Memory) : Memory :=
  if memory.isDirectory path then
    ⟨memory.entries.eraseWhere path.location.isPrefixOf⟩
  else
    memory

/-- What is neither a file nor a directory is not there. -/
theorem Memory.entryAt_eq_none
    {path : Path}
    (noFile : memory.isFile path = false)
    (noDirectory : memory.isDirectory path = false) :
    memory.entryAt path = none := by
  rw [Memory.isFile] at noFile
  rw [Memory.isDirectory] at noDirectory
  cases found : memory.entryAt path with
  | none => rfl
  | some entry =>
      rw [found] at noFile noDirectory
      cases entry with
      | file held => cases noFile
      | directory => cases noDirectory

/-- The removal of a file hides the paths that spell its place, and no others. -/
theorem Memory.entryAt_withoutFile_eq
    (memory : Memory)
    (file path : Path) :
    (memory.withoutFile file).entryAt path =
      if memory.isFile file = true ∧ path.location = file.location then none
      else memory.entryAt path := by
  rw [withoutFile]
  cases memory.isFile file with
  | true => simp [entryAt]
  | false => simp

/-- The removal of a directory hides the paths in it, and no others. -/
theorem Memory.entryAt_withoutTree_eq
    (memory : Memory)
    (directory path : Path) :
    (memory.withoutTree directory).entryAt path =
      if memory.isDirectory directory = true ∧ path.isWithin directory = true then none
      else memory.entryAt path := by
  rw [withoutTree]
  cases memory.isDirectory directory with
  | true => simp [entryAt, Path.isWithin]
  | false => simp

theorem Memory.entryAt_withoutFile
    {path file : Path}
    (different : path.location ≠ file.location) :
    (memory.withoutFile file).entryAt path = memory.entryAt path := by
  rw [entryAt_withoutFile_eq, if_neg fun both => different both.2]

/-- Where a directory or nothing stood there is nothing afterwards. -/
theorem Memory.entryAt_withoutTree
    {path : Path}
    (stood : memory.entryAt path = some .directory ∨ memory.entryAt path = none) :
    (memory.withoutTree path).entryAt path = none := by
  have within : path.isWithin path = true := Path.isWithin_iff.mpr ⟨[], by simp⟩
  rw [entryAt_withoutTree_eq]
  split
  · rfl
  · rename_i spared
    refine stood.resolve_left fun isDirectory => spared ⟨?_, within⟩
    exact beq_iff_eq.mpr isDirectory

/-- A file that is there is removed. -/
theorem Memory.answer_removeFile
    {path : Path}
    (isFile : memory.isFile path = true) :
    memory.answer (.removeFile path) = (.ok (), memory.withoutFile path) := by
  rw [withoutFile, if_pos isFile, answer, removeFile]
  rw [Memory.isFile] at isFile
  split at isFile
  · rename_i held found
    rw [found]
    rfl
  · cases isFile

/-- A directory that is there is removed with all that it holds. -/
theorem Memory.answer_removeTree
    {path : Path}
    (isDirectory : memory.isDirectory path = true) :
    memory.answer (.removeTree path) = (.ok (), memory.withoutTree path) := by
  have found : memory.entryAt path = some .directory := beq_iff_eq.mp isDirectory
  rw [withoutTree, if_pos isDirectory, answer, removeTree, found]
  rfl

/-! ### Single requests -/

section Requests

variable {path : Path}

/-- An undisturbed program goes on with what memory says about a directory. -/
theorem run_isDirectory
    (next : Bool → TaskProgram α) :
    (TaskProgram.isDirectory path >>= next).run.run reply.respond memory =
      (next (memory.isDirectory path)).run.run reply.respond memory := rfl

/-- An undisturbed program goes on with what memory says about a file. -/
theorem run_isFile
    (next : Bool → TaskProgram α) :
    (TaskProgram.isFile path >>= next).run.run reply.respond memory =
      (next (memory.isFile path)).run.run reply.respond memory := rfl

/-- An undisturbed program goes on with whether memory has anything at a path. -/
theorem run_exists
    (next : Bool → TaskProgram α) :
    (TaskProgram.exists? path >>= next).run.run reply.respond memory =
      (next (memory.entryAt path).isSome).run.run reply.respond memory := rfl

/-- A call on the file system that succeeds is followed by the rest. -/
theorem run_call
    {call : FileCall}
    {answer : call.Answer → Except FileFault α}
    {value : α}
    {after : Memory}
    (succeeds : answer (memory.answer call).1 = .ok value)
    (leaves : (memory.answer call).2 = after)
    (next : α → TaskProgram β) :
    ((do TaskProgram.fileAnswer (answer (← TaskProgram.ask (.file call)))) >>= next).run.run
        reply.respond memory =
      (next value).run.run reply.respond after := by
  show (TaskProgram.fileAnswer (answer (memory.answer call).1) >>= next).run.run
      reply.respond (memory.answer call).2 = _
  rw [succeeds, leaves]
  rfl

/-- A file that is there is read as it stands, and the memory stays as it was. -/
theorem run_read
    {held : Bytes}
    (isFile : memory.entryAt path = some (.file held))
    (next : Bytes → TaskProgram α) :
    (TaskProgram.read path >>= next).run.run reply.respond memory =
      (next held).run.run reply.respond memory := by
  refine run_call ?_ rfl next
  show memory.read path = .ok held
  rw [Memory.read, isFile]

/-- Behind the removal of a file that is there the program goes on without the file. -/
theorem run_removeFile
    (isFile : memory.isFile path = true)
    (next : Unit → TaskProgram α) :
    (TaskProgram.removeFile path >>= next).run.run reply.respond memory =
      (next ()).run.run reply.respond (memory.withoutFile path) := by
  have removed := Memory.answer_removeFile isFile
  refine run_call ?_ (congrArg Prod.snd removed) next
  exact congrArg Prod.fst removed

/-- Behind the removal of a directory that is there the program goes on without the directory. -/
theorem run_removeTree
    (isDirectory : memory.isDirectory path = true)
    (next : Unit → TaskProgram α) :
    (TaskProgram.removeTree path >>= next).run.run reply.respond memory =
      (next ()).run.run reply.respond (memory.withoutTree path) := by
  have removed := Memory.answer_removeTree isDirectory
  refine run_call ?_ (congrArg Prod.snd removed) next
  exact congrArg Prod.fst removed

end Requests

/-! ### The status -/

/-- A task without its control directory is refused before anything else happens. -/
theorem run_requireDirectory
    (next : Unit → TaskProgram α) :
    (handle.requireDirectory workspace >>= next).run.run reply.respond memory =
      if memory.isDirectory (handle.directory workspace) then
        (next ()).run.run reply.respond memory
      else
        (.error (.controlDirectoryMissing (handle.directory workspace)), memory) := by
  rw [Handle.requireDirectory, bind_assoc, run_isDirectory]
  cases memory.isDirectory (handle.directory workspace) with
  | true => rfl
  | false => rfl

section Queries

variable {file : Path} {found missing : TaskProgram α}

/-- No question gets further than a missing control directory. -/
theorem run_lookFor_gone
    (gone : memory.isDirectory (handle.directory workspace) = false) :
    (handle.lookFor workspace file found missing).run.run reply.respond memory =
      (.error (.controlDirectoryMissing (handle.directory workspace)), memory) := by
  rw [Handle.lookFor, run_requireDirectory, if_neg (Bool.eq_false_iff.mp gone)]

/-- With its directory in place, a question is decided by whether its file is there. -/
theorem run_lookFor
    (stands : memory.isDirectory (handle.directory workspace) = true) :
    (handle.lookFor workspace file found missing).run.run reply.respond memory =
      (if (memory.entryAt file).isSome then found else missing).run.run reply.respond
        memory := by
  rw [Handle.lookFor, run_requireDirectory, if_pos stands, run_exists]

end Queries

/-- Without the control directory there is no status. -/
theorem run_status_missing
    (gone : memory.isDirectory (handle.directory workspace) = false) :
    (handle.status workspace).run.run reply.respond memory =
      (.error (.controlDirectoryMissing (handle.directory workspace)), memory) := by
  rw [Handle.status_eq, run_lookFor_gone gone]

/-- A task without a result file is running. -/
theorem run_status_noResult
    (stands : memory.isDirectory (handle.directory workspace) = true)
    (absent : memory.entryAt (handle.resultFile workspace) = none) :
    (handle.status workspace).run.run reply.respond memory = (.ok .running, memory) := by
  rw [Handle.status_eq, run_lookFor stands, absent]
  rfl

/-- A task whose result file holds a code is complete with this code. -/
theorem run_status_result
    (stands : memory.isDirectory (handle.directory workspace) = true)
    {held : Bytes}
    (isFile : memory.entryAt (handle.resultFile workspace) = some (.file held))
    {code : Int32}
    (parsed : ResultText.parse held = .ok (some code)) :
    (handle.status workspace).run.run reply.respond memory =
      (.ok (.complete code), memory) := by
  rw [Handle.status_eq, run_lookFor stands, isFile, Option.isSome_some, if_pos rfl,
    run_read isFile, ResultText.readStatus, parsed]
  rfl

/-! ### The cleanup -/

/-- The second half of a cleanup. -/
def Handle.removeDirectory
    (handle : Handle)
    (workspace : Workspace) : TaskProgram Unit := do
  if ← TaskProgram.isDirectory (handle.directory workspace) then
    TaskProgram.removeTree (handle.directory workspace)
    TaskProgram.note .info
  else
    TaskProgram.note .warn

/-- The last step of a cleanup succeeds whether or not there is still a directory to remove. -/
theorem run_removeDirectory :
    (handle.removeDirectory workspace).run.run reply.respond memory =
      (.ok (), memory.withoutTree (handle.directory workspace)) := by
  rw [Handle.removeDirectory, run_isDirectory]
  cases stands : memory.isDirectory (handle.directory workspace) with
  | true =>
      rw [if_pos rfl, run_removeTree stands]
      rfl
  | false =>
      rw [Memory.withoutTree, stands]
      rfl

/-- A cleanup does not fail, and takes away the saved handle and the control directory. -/
theorem run_cleanup :
    (handle.cleanup workspace).run.run reply.respond memory =
      (.ok (),
        (memory.withoutFile (workspace.handleFile handle.id)).withoutTree
          (handle.directory workspace)) := by
  rw [Handle.cleanup, run_isFile]
  cases saved : memory.isFile (workspace.handleFile handle.id) with
  | true =>
      rw [if_pos rfl, run_removeFile saved]
      exact run_removeDirectory
  | false =>
      have same : memory.withoutFile (workspace.handleFile handle.id) = memory := by
        rw [Memory.withoutFile, saved]
        rfl
      rw [same]
      exact run_removeDirectory

end DetachedTasks
