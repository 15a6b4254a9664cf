import DetachedTasks.Proofs.MemoryPrograms
import DetachedTasks.Proofs.RemovedDirectory
import DetachedTasks.Proofs.SandboxRuns
import DetachedTasks.Proofs.TaskPlaces
import DetachedTasks.Proofs.TaskQueries

/-!
# A control directory that vanishes

Somebody else removes the control directory of a task while a question about the task is
under way.  Every question requires the directory and then looks whether its file is there,
so a removal that comes before one of these calls is reported as what it is, or not noticed.
Only a removal right between the look at a file and the reading of it is reported as the
fault of that file.
-/

namespace DetachedTasks

open Sandbox (Storage)

/-! ## A removal at some moment -/

/-- Files of which one directory is removed at some moment. -/
structure Vanishing where
  storage : Storage
  /-- How many calls are still answered before the removal; nothing after it. -/
  left : Option Nat
  /-- The call that came right after the removal. -/
  struck : Option FileCall

namespace Vanishing

/-- Remove the directory, unless that has happened. -/
def strike
    (directory : Path)
    (call : Option FileCall)
    (vanishing : Vanishing) : Vanishing :=
  match vanishing.left with
  | none => vanishing
  | some _ =>
      { storage := vanishing.storage.without directory, left := none, struck := call }

/-- Let the moment come at which a call is answered. -/
def reach
    (directory : Path)
    (call : FileCall)
    (vanishing : Vanishing) : Vanishing :=
  match vanishing.left with
  | some 0 => vanishing.strike directory (some call)
  | some (left + 1) => { vanishing with left := some left }
  | none => vanishing

/-- Answer a request; a sink takes whatever it is given. -/
def handler (directory : Path) : Program.Handler Vanishing
  | .file call, vanishing =>
      let (answer, storage) := (vanishing.reach directory call).storage.answer call
      (answer, { vanishing.reach directory call with storage })
  | request, vanishing => ((Reply.calm.respond request Memory.new).1, vanishing)

/-- A call that reads a file. -/
def isReading : FileCall → Bool
  | .read _ => true
  | .readFrom _ _ => true
  | _ => false

/-- The directory was removed right before a file was read that had been seen. -/
def tears (vanishing : Vanishing) : Bool :=
  vanishing.struck.any isReading

end Vanishing

/-- A task whose control directory is there, with files that can be read, and a result that
holds an exit code if there is one. -/
structure Handle.IsReadable
    (handle : Handle)
    (workspace : Workspace)
    (storage : Storage) : Prop where
  stands : storage.look (handle.directory workspace) = some .directory
  files : ∀ name ∈ Deed.fileNames, ∀ entry,
    storage.look (handle.file workspace name) = some entry → ∃ held, entry = .file held
  result : ∀ held, storage.look (handle.resultFile workspace) = some (.file held) →
    ∃ code, ResultText.parse held = .ok (some code)

/-- Handles on the same task read the same files. -/
theorem Handle.IsReadable.follow
    {handle moved : Handle}
    {workspace : Workspace}
    {storage : Storage}
    (readable : handle.IsReadable workspace storage)
    (sameTask : moved.id = handle.id) :
    moved.IsReadable workspace storage := by
  obtain ⟨id, capturing, offset⟩ := handle
  obtain ⟨movedId, movedCapturing, movedOffset⟩ := moved
  cases sameTask
  exact ⟨readable.stands, readable.files, readable.result⟩

/-! ## Questions on the way -/

section Questions

variable {handle : Handle} {workspace : Workspace} {before : Storage}

/-- What stands at the moment: everything, or nothing of the task any more.  The removal did
not come right before a file was read. -/
inductive Vanishing.Quiet
    (directory : Path)
    (before : Storage) : Vanishing → Prop where
  | standing (left : Nat) : Quiet directory before ⟨before, some left, none⟩
  | gone
      (call : FileCall)
      (noReading : isReading call = false) :
      Quiet directory before ⟨before.without directory, none, some call⟩

/-- How a question ends during which the directory may vanish. -/
inductive Vanishing.Settled
    (directory : Path)
    (before : Storage) : Except TaskFault α → Vanishing → Prop where
  | answered
      {value : α}
      {vanishing : Vanishing}
      (quiet : Quiet directory before vanishing) :
      Settled directory before (.ok value) vanishing
  | missing
      {vanishing : Vanishing}
      (quiet : Quiet directory before vanishing) :
      Settled directory before (.error (.controlDirectoryMissing directory)) vanishing
  /-- The file was seen and was gone when it was read. -/
  | torn
      (call : FileCall)
      (reading : isReading call = true)
      (cause : FileFault) :
      Settled directory before (.error (.files cause))
        ⟨before.without directory, none, some call⟩

open Vanishing TaskProgram

/-- A look finds everything, or it finds the directory gone. -/
theorem Vanishing.Quiet.looks
    {vanishing : Vanishing}
    (quiet : vanishing.Quiet (handle.directory workspace) before)
    {call : FileCall}
    {path : Path}
    (looks : call.LooksAt path)
    (noReading : isReading call = false) :
    (∃ left, handler (handle.directory workspace) (.file call) vanishing =
        ((before.answer call).1, ⟨before, some left, none⟩)) ∨
      ∃ struck, isReading struck = false ∧
        handler (handle.directory workspace) (.file call) vanishing =
          (((before.without (handle.directory workspace)).answer call).1,
            ⟨before.without (handle.directory workspace), none, some struck⟩) := by
  have same : (before.answer call).2 = before := Storage.answer_of_looksAt looks
  have sameGone : ((before.without (handle.directory workspace)).answer call).2 =
      before.without (handle.directory workspace) := Storage.answer_of_looksAt looks
  cases quiet with
  | standing left =>
      cases left with
      | zero =>
          refine Or.inr ⟨call, noReading, ?_⟩
          simp only [handler, reach, strike, sameGone]
      | succ left =>
          refine Or.inl ⟨left, ?_⟩
          simp only [handler, reach, same]
  | gone struck wasNoReading =>
      refine Or.inr ⟨struck, wasNoReading, ?_⟩
      simp only [handler, reach, sameGone]

/-- How a question goes on: with the directory missing, with the file not there, or with a
file that is still there. -/
theorem ensures_lookFor
    (readable : handle.IsReadable workspace before)
    (gone : handle.IsGone workspace (before.without (handle.directory workspace)))
    {name : Text}
    (member : name ∈ Deed.fileNames)
    {found missing : TaskProgram α}
    {goal : Except TaskFault α → Vanishing → Prop}
    {vanishing : Vanishing}
    (quiet : vanishing.Quiet (handle.directory workspace) before)
    (isMissing : ∀ later, Quiet (handle.directory workspace) before later →
      goal (.error (.controlDirectoryMissing (handle.directory workspace))) later)
    (isAbsent : ∀ later, Quiet (handle.directory workspace) before later →
      missing.Ensures (handler (handle.directory workspace)) goal later)
    (isFound : ∀ held left,
      before.look (handle.file workspace name) = some (.file held) →
      found.Ensures (handler (handle.directory workspace)) goal ⟨before, some left, none⟩) :
    (handle.lookFor workspace (handle.file workspace name) found missing).Ensures
      (handler (handle.directory workspace)) goal vanishing := by
  rw [Handle.lookFor, Handle.requireDirectory, bind_assoc]
  apply Ensures.ask
  have sees : (before.answer (.isDirectory (handle.directory workspace))).1 = true := by
    rw [Storage.answer_isDirectory, readable.stands]
    rfl
  have misses : ((before.without (handle.directory workspace)).answer
      (.isDirectory (handle.directory workspace))).1 = false := by
    rw [Storage.answer_isDirectory, gone.directory]
    rfl
  have misses' : ((before.without (handle.directory workspace)).answer
      (.exists (handle.file workspace name))).1 = false := by
    rw [Storage.answer_exists, gone.files name member]
    rfl
  have isDirectory : FileCall.LooksAt (handle.directory workspace)
      (.isDirectory (handle.directory workspace)) := rfl
  have «exists» : FileCall.LooksAt (handle.file workspace name)
      (.exists (handle.file workspace name)) := rfl
  rcases quiet.looks isDirectory rfl with ⟨left, answered⟩ | ⟨struck, noReading, answered⟩
  · rw [answered, sees]
    apply Ensures.ask
    rcases (Quiet.standing left).looks «exists» rfl with
      ⟨left, answered⟩ | ⟨struck, noReading, answered⟩
    · rw [answered, Storage.answer_exists]
      cases seen : before.look (handle.file workspace name) with
      | none => exact isAbsent _ (.standing left)
      | some entry =>
          obtain ⟨held, rfl⟩ := readable.files name member entry seen
          exact isFound held left seen
    · rw [answered, misses']
      exact isAbsent _ (.gone struck noReading)
  · rw [answered, misses]
    exact Ensures.throw (isMissing _ (.gone struck noReading))

/-- A file that was seen is read, or it is gone by then. -/
theorem ensures_reading
    {call : FileCall}
    {path : Path}
    (looks : call.LooksAt path)
    {answer : call.Answer → Except FileFault α}
    {value : α}
    (holds : answer (before.answer call).1 = .ok value)
    (fails : ∃ cause,
      answer ((before.without (handle.directory workspace)).answer call).1 = .error cause)
    {next : α → TaskProgram β}
    {goal : Except TaskFault β → Vanishing → Prop}
    (torn : ∀ cause, goal (.error (.files cause))
      ⟨before.without (handle.directory workspace), none, some call⟩)
    (goesOn : ∀ left,
      (next value).Ensures (handler (handle.directory workspace)) goal
        ⟨before, some left, none⟩)
    (left : Nat) :
    TaskProgram.Ensures (handler (handle.directory workspace)) goal
      ((do TaskProgram.fileAnswer (answer (← TaskProgram.ask (.file call)))) >>= next)
      ⟨before, some left, none⟩ := by
  have same : (before.answer call).2 = before := Storage.answer_of_looksAt looks
  have sameGone : ((before.without (handle.directory workspace)).answer call).2 =
      before.without (handle.directory workspace) := Storage.answer_of_looksAt looks
  cases left with
  | zero =>
      obtain ⟨cause, failed⟩ := fails
      have answered : handler (handle.directory workspace) (.file call)
          ⟨before, some 0, none⟩ =
            (((before.without (handle.directory workspace)).answer call).1,
              ⟨before.without (handle.directory workspace), none, some call⟩) := by
        simp only [handler, reach, strike, sameGone]
      show TaskProgram.Ensures (handler (handle.directory workspace)) goal
        (TaskProgram.fileAnswer
          (answer (handler (handle.directory workspace) (.file call) ⟨before, some 0, none⟩).1)
            >>= next)
        (handler (handle.directory workspace) (.file call) ⟨before, some 0, none⟩).2
      rw [answered, failed]
      exact torn cause
  | succ left =>
      have answered : handler (handle.directory workspace) (.file call)
          ⟨before, some (left + 1), none⟩ =
            ((before.answer call).1, ⟨before, some left, none⟩) := by
        simp only [handler, reach, same]
      show TaskProgram.Ensures (handler (handle.directory workspace)) goal
        (TaskProgram.fileAnswer
          (answer (handler (handle.directory workspace) (.file call)
            ⟨before, some (left + 1), none⟩).1) >>= next)
        (handler (handle.directory workspace) (.file call) ⟨before, some (left + 1), none⟩).2
      rw [answered, holds]
      exact goesOn left

variable {vanishing : Vanishing}

/-- A question that looks for a file and reads the whole of it is settled. -/
theorem ensures_wholeFile
    (readable : handle.IsReadable workspace before)
    (gone : handle.IsGone workspace (before.without (handle.directory workspace)))
    {name : Text}
    (member : name ∈ Deed.fileNames)
    (quiet : vanishing.Quiet (handle.directory workspace) before)
    {next : Bytes → TaskProgram α}
    {absent : α}
    (answers : ∀ held left,
      before.look (handle.file workspace name) = some (.file held) →
      (next held).Ensures (handler (handle.directory workspace))
        (Settled (handle.directory workspace) before) ⟨before, some left, none⟩) :
    (handle.lookFor workspace (handle.file workspace name)
      (TaskProgram.read (handle.file workspace name) >>= next) (pure absent)).Ensures
      (handler (handle.directory workspace)) (Settled (handle.directory workspace) before)
      vanishing := by
  apply ensures_lookFor readable gone member quiet
  · exact fun later quiet => .missing quiet
  · exact fun later quiet => Ensures.pure (.answered quiet)
  · intro held left isFile
    have looks : FileCall.LooksAt (handle.file workspace name)
        (.read (handle.file workspace name)) := rfl
    exact ensures_reading looks (Storage.answer_read_file isFile)
      (Storage.answer_read_absent (gone.files _ member))
      (fun cause => .torn _ rfl cause) (fun left => answers held left isFile) left

/-- A look at the status is settled, whenever the directory vanishes. -/
theorem ensures_status
    (readable : handle.IsReadable workspace before)
    (gone : handle.IsGone workspace (before.without (handle.directory workspace)))
    (quiet : vanishing.Quiet (handle.directory workspace) before) :
    (handle.status workspace).Ensures (handler (handle.directory workspace))
      (Settled (handle.directory workspace) before) vanishing := by
  rw [Handle.status_eq]
  refine ensures_wholeFile readable gone Deed.resultName_mem quiet ?_
  intro held left isFile
  obtain ⟨code, parsed⟩ := readable.result held isFile
  rw [ResultText.readStatus, parsed]
  exact Ensures.ask (Ensures.pure (.answered (.standing left)))

/-- A copy of the log answers with a handle on the same task. -/
theorem ensures_copyLog
    (readable : handle.IsReadable workspace before)
    (gone : handle.IsGone workspace (before.without (handle.directory workspace)))
    (quiet : vanishing.Quiet (handle.directory workspace) before) :
    (handle.copyLog workspace).Ensures (handler (handle.directory workspace))
      (fun outcome later => Settled (handle.directory workspace) before outcome later ∧
        ∀ copied, outcome = .ok copied → copied.2.id = handle.id)
      vanishing := by
  have kept : ∀ (moved : Bool) (offset : UInt64) (later : Vanishing),
      later.Quiet (handle.directory workspace) before →
      TaskProgram.Ensures (handler (handle.directory workspace))
        (fun outcome later => Settled (handle.directory workspace) before outcome later ∧
          ∀ copied, outcome = .ok copied → copied.2.id = handle.id)
        (pure (moved, { handle with logOffset := offset })) later := by
    intro moved offset later quiet
    refine Ensures.pure ⟨.answered quiet, ?_⟩
    intro copied same
    cases same
    rfl
  rw [Handle.copyLog_eq]
  apply ensures_lookFor readable gone Deed.logName_mem quiet
  · exact fun later quiet => ⟨.missing quiet, nofun⟩
  · exact fun later quiet => kept false handle.logOffset later quiet
  · intro held left isFile
    have looks : FileCall.LooksAt (handle.logFile workspace)
        (.readFrom (handle.logFile workspace) handle.logOffset) := rfl
    refine ensures_reading looks (Storage.answer_readFrom_file isFile handle.logOffset)
      (Storage.answer_readFrom_absent (gone.files _ Deed.logName_mem) handle.logOffset)
      (fun cause => ⟨.torn _ rfl cause, nofun⟩) (fun left => ?_) left
    split
    · exact kept false handle.logOffset _ (.standing left)
    · exact kept true _ _ (.standing left)

/-- A look at the log is settled, whenever the directory vanishes. -/
theorem ensures_log
    (readable : handle.IsReadable workspace before)
    (gone : handle.IsGone workspace (before.without (handle.directory workspace)))
    (quiet : vanishing.Quiet (handle.directory workspace) before) :
    (handle.log workspace).Ensures (handler (handle.directory workspace))
      (Settled (handle.directory workspace) before) vanishing := by
  rw [Handle.log_eq, ← bind_pure (TaskProgram.read (handle.logFile workspace))]
  refine ensures_wholeFile readable gone Deed.logName_mem quiet ?_
  exact fun held left isFile => Ensures.pure (.answered (.standing left))

/-- A look at the output is settled, whenever the directory vanishes. -/
theorem ensures_output
    (readable : handle.IsReadable workspace before)
    (gone : handle.IsGone workspace (before.without (handle.directory workspace)))
    (quiet : vanishing.Quiet (handle.directory workspace) before) :
    (handle.output workspace).Ensures (handler (handle.directory workspace))
      (Settled (handle.directory workspace) before) vanishing := by
  rw [Handle.output_eq]
  split
  · refine ensures_wholeFile readable gone Deed.outputName_mem quiet ?_
    exact fun held left isFile => Ensures.pure (.answered (.standing left))
  · exact Ensures.pure (.answered quiet)

/-- The fault of a question is passed on by the question it is a part of. -/
theorem Vanishing.Settled.passOn
    {fault : TaskFault}
    (settled : Settled (handle.directory workspace) before (.error fault : Except TaskFault α)
      vanishing) :
    Settled (handle.directory workspace) before (.error fault : Except TaskFault β)
      vanishing := by
  cases settled with
  | missing quiet => exact .missing quiet
  | torn call reading cause => exact .torn call reading cause

/-- An operation that got its value has not noticed anything. -/
theorem Vanishing.Settled.quiet
    {value : α}
    (settled : Settled (handle.directory workspace) before (.ok value) vanishing) :
    vanishing.Quiet (handle.directory workspace) before := by
  cases settled with
  | answered quiet => exact quiet

/-- The last steps of a poll are settled, whenever the directory vanishes. -/
theorem ensures_finish
    (readable : handle.IsReadable workspace before)
    (gone : handle.IsGone workspace (before.without (handle.directory workspace)))
    (quiet : vanishing.Quiet (handle.directory workspace) before)
    (progressed : Bool)
    (exitCode : Int32) :
    (handle.finish workspace progressed exitCode).Ensures (handler (handle.directory workspace))
      (fun outcome later => Settled (handle.directory workspace) before outcome.verdict later)
      vanishing := by
  refine Program.Ensures.bind (ensures_copyLog readable gone quiet) ?_
  rintro (fault | ⟨more, moved⟩) afterLog ⟨settled, sameTask⟩
  · exact settled.passOn
  · obtain ⟨gone, sameDirectory⟩ := gone.follow (sameTask _ rfl)
    have readable := readable.follow (sameTask _ rfl)
    dsimp only
    rw [← sameDirectory] at gone settled ⊢
    refine Program.Ensures.bind (ensures_output readable gone settled.quiet) ?_
    rintro (fault | output) afterOutput settled
    · exact settled.passOn
    · exact .answered settled.quiet

/-- A poll is settled, whenever the directory vanishes. -/
theorem ensures_poll
    (readable : handle.IsReadable workspace before)
    (gone : handle.IsGone workspace (before.without (handle.directory workspace)))
    (quiet : vanishing.Quiet (handle.directory workspace) before) :
    (handle.poll workspace).Ensures (handler (handle.directory workspace))
      (fun outcome later => Settled (handle.directory workspace) before outcome.verdict later)
      vanishing := by
  refine Program.Ensures.bind (ensures_copyLog readable gone quiet) ?_
  rintro (fault | ⟨progressed, moved⟩) afterLog ⟨settled, sameTask⟩
  · exact settled.passOn
  · obtain ⟨gone, sameDirectory⟩ := gone.follow (sameTask _ rfl)
    have readable := readable.follow (sameTask _ rfl)
    dsimp only
    rw [← sameDirectory] at gone settled ⊢
    refine Program.Ensures.bind (ensures_status readable gone settled.quiet) ?_
    rintro (fault | _ | exitCode) afterStatus settled
    · exact settled.passOn
    · exact .answered settled.quiet
    · exact ensures_finish readable gone settled.quiet progressed exitCode

end Questions

/-! ## Whatever is asked -/

/-- What a task can be asked. -/
inductive Question where
  | status
  | copyLog
  | log
  | output
  | poll
  deriving Repr, DecidableEq

/-- Ask a question, and say what went wrong. -/
def Question.ask
    (question : Question)
    (handle : Handle)
    (workspace : Workspace) : Program (Option TaskFault) :=
  match question with
  | .status => (handle.status workspace).run.bind (.done ∘ TaskFault.of?)
  | .copyLog => (handle.copyLog workspace).run.bind (.done ∘ TaskFault.of?)
  | .log => (handle.log workspace).run.bind (.done ∘ TaskFault.of?)
  | .output => (handle.output workspace).run.bind (.done ∘ TaskFault.of?)
  | .poll => (handle.poll workspace).bind fun outcome => .done (TaskFault.of? outcome.verdict)

namespace Vanishing

/-- Questions about one task that are asked one after the other. -/
def answers
    (workspace : Workspace)
    (directory : Path) : List (Handle × Question) → Vanishing → List (Option TaskFault)
  | [], _ => []
  | (handle, question) :: rest, vanishing =>
      let (fault, later) := (question.ask handle workspace).run (handler directory) vanishing
      fault :: answers workspace directory rest later

section Reports

variable {handle : Handle} {workspace : Workspace} {before : Storage}

/-- What a question comes to when the directory vanishes at some moment, and what is then
left. -/
structure Reported
    (directory : Path)
    (before : Storage)
    (fault : Option TaskFault)
    (ended : Vanishing) : Prop where
  /-- The question is answered or the directory is missing, unless a reading was struck. -/
  honest : (fault = none ∨ fault = some (.controlDirectoryMissing directory)) ↔
    ended.tears = false
  torn : ended.tears = true → ∃ cause, fault = some (.files cause)
  left : (ended.strike directory none).storage = before.without directory ∧
    (ended.strike directory none).left = none

/-- As long as nobody has noticed anything there is nothing to report. -/
theorem Quiet.reported
    {directory : Path}
    {vanishing : Vanishing}
    (quiet : vanishing.Quiet directory before) :
    vanishing.tears = false ∧
      (vanishing.strike directory none).storage = before.without directory ∧
      (vanishing.strike directory none).left = none := by
  cases quiet with
  | standing left => exact ⟨rfl, rfl, rfl⟩
  | gone call noReading => exact ⟨noReading, rfl, rfl⟩

/-- Whatever is settled is reported in one of the ways that are told apart. -/
theorem Settled.reported
    {directory : Path}
    {outcome : Except TaskFault α}
    {vanishing : Vanishing}
    (settled : Settled directory before outcome vanishing) :
    Reported directory before (TaskFault.of? outcome) vanishing := by
  cases settled with
  | answered quiet =>
      obtain ⟨whole, left⟩ := quiet.reported
      exact ⟨iff_of_true (Or.inl rfl) whole, by simp [whole], left⟩
  | missing quiet =>
      obtain ⟨whole, left⟩ := quiet.reported
      exact ⟨iff_of_true (Or.inr rfl) whole, by simp [whole], left⟩
  | torn call reading cause =>
      have tears : Vanishing.tears ⟨before.without directory, none, some call⟩ = true := reading
      refine ⟨iff_of_false ?_ ?_, fun _ => ⟨cause, rfl⟩, rfl, rfl⟩
      · simp [TaskFault.of?]
      · simp [tears]

/-- A question is settled, whatever it is and whenever the directory vanishes. -/
theorem reported_ask
    (readable : handle.IsReadable workspace before)
    (gone : handle.IsGone workspace (before.without (handle.directory workspace)))
    (question : Question)
    (left : Nat) :
    (question.ask handle workspace).Ensures (handler (handle.directory workspace))
      (Reported (handle.directory workspace) before) ⟨before, some left, none⟩ := by
  have quiet : Quiet (handle.directory workspace) before ⟨before, some left, none⟩ :=
    .standing left
  cases question with
  | status =>
      exact Program.Ensures.bind (ensures_status readable gone quiet)
        fun _ _ settled => settled.reported
  | copyLog =>
      exact Program.Ensures.bind (ensures_copyLog readable gone quiet)
        fun _ _ settled => settled.1.reported
  | log =>
      exact Program.Ensures.bind (ensures_log readable gone quiet)
        fun _ _ settled => settled.reported
  | output =>
      exact Program.Ensures.bind (ensures_output readable gone quiet)
        fun _ _ settled => settled.reported
  | poll =>
      exact Program.Ensures.bind (ensures_poll readable gone quiet)
        fun _ _ settled => settled.reported

/-! ## Whatever is asked later -/

/-- Without its directory nothing of a task is looked at. -/
theorem ensures_lookFor_gone
    {vanishing : Vanishing}
    (gone : handle.IsGone workspace vanishing.storage)
    (isOver : vanishing.left = none)
    (file : Path)
    (found missing : TaskProgram α) :
    (handle.lookFor workspace file found missing).Ensures (handler (handle.directory workspace))
      (fun outcome later =>
        outcome = .error (.controlDirectoryMissing (handle.directory workspace)) ∧
          later = vanishing) vanishing := by
  obtain ⟨storage, left, struck⟩ := vanishing
  cases isOver
  have misses : (storage.answer (.isDirectory (handle.directory workspace))).1 = false := by
    rw [Storage.answer_isDirectory, gone.directory]
    rfl
  have looks : FileCall.LooksAt (handle.directory workspace)
      (.isDirectory (handle.directory workspace)) := rfl
  have same : (storage.answer (.isDirectory (handle.directory workspace))).2 = storage :=
    Storage.answer_of_looksAt looks
  have answered : handler (handle.directory workspace)
      (.file (.isDirectory (handle.directory workspace))) ⟨storage, none, struck⟩ =
        (false, ⟨storage, none, struck⟩) := by
    simp only [handler, reach, misses, same]
  rw [Handle.lookFor, Handle.requireDirectory, bind_assoc]
  apply TaskProgram.Ensures.ask
  rw [answered]
  exact TaskProgram.Ensures.throw ⟨rfl, rfl⟩

/-- A poll of a task that is gone says just that. -/
theorem ensures_poll_gone
    {vanishing : Vanishing}
    (gone : handle.IsGone workspace vanishing.storage)
    (isOver : vanishing.left = none) :
    (handle.poll workspace).Ensures (handler (handle.directory workspace))
      (fun outcome later =>
        outcome.verdict = .error (.controlDirectoryMissing (handle.directory workspace)) ∧
          later = vanishing) vanishing := by
  refine Program.Ensures.bind (ensures_lookFor_gone gone isOver _ _ _) ?_
  rintro _ _ ⟨rfl, rfl⟩
  exact ⟨rfl, rfl⟩

/-- Without its directory a task is missing, and asking for it changes nothing. -/
theorem ensures_ask_gone
    {vanishing : Vanishing}
    (gone : handle.IsGone workspace vanishing.storage)
    (isOver : vanishing.left = none)
    {question : Question}
    (needs : question ≠ .output) :
    (question.ask handle workspace).Ensures (handler (handle.directory workspace))
      (fun fault later =>
        fault = some (.controlDirectoryMissing (handle.directory workspace)) ∧
          later = vanishing) vanishing := by
  cases question with
  | status =>
      refine Program.Ensures.bind (ensures_lookFor_gone gone isOver _ _ _) ?_
      rintro _ _ ⟨rfl, rfl⟩
      exact ⟨rfl, rfl⟩
  | copyLog =>
      refine Program.Ensures.bind (ensures_lookFor_gone gone isOver _ _ _) ?_
      rintro _ _ ⟨rfl, rfl⟩
      exact ⟨rfl, rfl⟩
  | log =>
      refine Program.Ensures.bind (ensures_lookFor_gone gone isOver _ _ _) ?_
      rintro _ _ ⟨rfl, rfl⟩
      exact ⟨rfl, rfl⟩
  | output => exact absurd rfl needs
  | poll =>
      refine Program.Ensures.bind (ensures_poll_gone gone isOver) ?_
      rintro outcome _ ⟨failed, rfl⟩
      exact ⟨congrArg TaskFault.of? failed, rfl⟩

/-- Whatever is asked of a task later, its directory is missing. -/
theorem answers_gone
    {vanishing : Vanishing}
    (gone : handle.IsGone workspace vanishing.storage)
    (isOver : vanishing.left = none)
    {later : List (Handle × Question)}
    (sameTask : ∀ pair ∈ later, pair.1.id = handle.id)
    (needs : ∀ pair ∈ later, pair.2 ≠ .output) :
    ∀ fault ∈ answers workspace (handle.directory workspace) later vanishing,
      fault = some (.controlDirectoryMissing (handle.directory workspace)) := by
  induction later with
  | nil => exact nofun
  | cons pair rest inductionHypothesis =>
      rcases pair with ⟨next, question⟩
      have sameId : next.id = handle.id := sameTask _ List.mem_cons_self
      have headNeeds : question ≠ .output := needs _ List.mem_cons_self
      obtain ⟨nextGone, sameDirectory⟩ := gone.follow sameId
      have asked := ensures_ask_gone nextGone isOver headNeeds
      rw [sameDirectory] at asked
      have answered :
          (question.ask next workspace).run (handler (handle.directory workspace)) vanishing =
            (some (.controlDirectoryMissing (handle.directory workspace)), vanishing) :=
        Prod.ext asked.1 asked.2
      intro fault member
      rw [answers, answered] at member
      rcases List.mem_cons.mp member with rfl | isLater
      · rfl
      · exact inductionHypothesis (fun pair among => sameTask pair (List.mem_cons_of_mem _ among))
          (fun pair among => needs pair (List.mem_cons_of_mem _ among)) fault isLater

/-! ## What is reported -/

/-- A question is asked while the control directory of the task vanishes, before any of its
calls on the files or after them.  It is answered, or the directory is reported as missing,
unless the directory went right before the reading of a file that had been seen; then the
fault of that reading is reported.  Whatever is asked later, the directory is missing. -/
theorem ask_whileVanishing
    {storage : Storage}
    (plain : Path.IsName (Utf8.encode handle.id))
    (readable : handle.IsReadable workspace storage)
    (question : Question)
    (moment : Nat)
    (later : List (Handle × Question))
    (sameTask : ∀ pair ∈ later, pair.1.id = handle.id)
    (needs : ∀ pair ∈ later, pair.2 ≠ .output) :
    let directory := handle.directory workspace
    let (fault, ended) :=
      (question.ask handle workspace).run (handler directory) ⟨storage, some moment, none⟩
    ((fault = none ∨ fault = some (.controlDirectoryMissing directory)) ↔
        ended.tears = false) ∧
      (ended.tears = true → ∃ cause, fault = some (.files cause)) ∧
      ∀ fault ∈ answers workspace directory later (ended.strike directory none),
        fault = some (.controlDirectoryMissing directory) := by
  intro directory
  have gone : handle.IsGone workspace (storage.without directory) :=
    Handle.isGone_without plain workspace storage
  obtain ⟨honest, torn, left, isOver⟩ := reported_ask readable gone question moment
  refine ⟨honest, torn, ?_⟩
  rw [← left] at gone
  exact answers_gone gone isOver sameTask needs

end Reports

namespace Sample

def workspace : Workspace :=
  ⟨Path.ofText "/w".toList⟩

def handle : Handle :=
  Handle.attach (TaskId.ofWord 1) true

theorem plain : Path.IsName (Utf8.encode handle.id) :=
  (TaskId.isFileName (TaskId.isWellFormed_ofWord 1)).toIsName

/-- A task that has ended, with a log. -/
def laid : Storage :=
  .inMemory
    (((Memory.new.ensureDirectory (handle.directory workspace)).addFile
      (handle.logFile workspace) [0x61]).addFile
        (handle.resultFile workspace) (ResultText.ofExitCode 3))

theorem isReadable : handle.IsReadable workspace laid where
  stands := by rfl
  files := by
    intro name member entry stands
    simp only [Deed.fileNames, List.mem_cons, List.not_mem_nil, or_false] at member
    rcases member with rfl | rfl | rfl
    · exact ⟨_, (Option.some.inj stands).symm⟩
    · cases stands
    · exact ⟨_, (Option.some.inj stands).symm⟩
  result := by
    intro held isFile
    cases isFile
    exact ⟨3, by decide +kernel⟩

end Sample

/-- A poll during which the directory vanishes, and two questions after it. -/
theorem ask_whileVanishing_sample :
    let directory := Sample.handle.directory Sample.workspace
    let (fault, ended) :=
      (Question.poll.ask Sample.handle Sample.workspace).run (handler directory)
        ⟨Sample.laid, some 4, none⟩
    ((fault = none ∨ fault = some (.controlDirectoryMissing directory)) ↔
        ended.tears = false) ∧
      (ended.tears = true → ∃ cause, fault = some (.files cause)) ∧
      ∀ fault ∈ answers Sample.workspace directory
          [(Sample.handle, .status), (Sample.handle, .poll)] (ended.strike directory none),
        fault = some (.controlDirectoryMissing directory) := by
  refine ask_whileVanishing ?_ Sample.isReadable .poll 4 _ ?_ ?_
  · exact Sample.plain
  · decide +kernel
  · decide +kernel

/-- The directory goes right after the result was seen, and the fault is that of a file. -/
theorem not_ask_isAnsweredOrMissing :
    ¬ ∀ (handle : Handle) (workspace : Workspace) (storage : Storage) (question : Question)
        (moment : Nat),
      Path.IsName (Utf8.encode handle.id) →
      handle.IsReadable workspace storage →
      let directory := handle.directory workspace
      let fault := ((question.ask handle workspace).run (handler directory)
        ⟨storage, some moment, none⟩).1
      fault = none ∨ fault = some (.controlDirectoryMissing directory) := by
  intro honest
  have answered := honest Sample.handle Sample.workspace Sample.laid .status 2
    Sample.plain Sample.isReadable
  revert answered
  decide +kernel

end Vanishing

end DetachedTasks
