import DetachedTasks.Proofs.SteadyPrograms

/-!
# Readers that do not fail

To attain a goal says nothing of a program that ends with a fault.  A program succeeds if it
ends without one, whatever the children do between its requests.  Once a log was shown to its
end, whoever asks for it succeeds: what was saved for the task could be loaded, its control
directory is there, and its log is no directory; and no child changes that.
-/

namespace DetachedTasks

open Sandbox (Storage)

section Successes

variable {workspace : Workspace} {id : Text} {terminal : Terminal}

/-- Whatever children do between the requests of a program, it ends without a fault and with
the goal. -/
abbrev TaskProgram.Succeeds
    (workspace : Workspace)
    (id : Text)
    (goal : α → Terminal → Prop)
    (program : TaskProgram α)
    (terminal : Terminal) : Prop :=
  program.Ends workspace id
    (fun outcome after => ∃ value, outcome = .ok value ∧ goal value after) terminal

namespace TaskProgram.Succeeds

theorem pure
    {goal : α → Terminal → Prop}
    {value : α}
    (attained : goal value terminal) :
    TaskProgram.Succeeds workspace id goal (Pure.pure value) terminal :=
  ⟨value, rfl, attained⟩

/-- Behind a program that succeeds, all goals are open. -/
theorem bind
    {first : α → Terminal → Prop}
    {goal : Except TaskFault β → Terminal → Prop}
    {program : TaskProgram α}
    {next : α → TaskProgram β}
    (succeeds : program.Succeeds workspace id first terminal)
    (goesOn : ∀ value after, first value after →
      (next value).Ends workspace id goal after) :
    (program >>= next).Ends workspace id goal terminal := by
  refine Ends.bind succeeds ?_ ?_
  · rintro fault after ⟨value, impossible, _⟩
    cases impossible
  · rintro value after ⟨other, same, attained⟩
    cases same
    exact goesOn value after attained

/-- Who reads what can be read at any time gets it. -/
theorem read
    {goal : α → Terminal → Prop}
    (call : FileCall)
    {path : Path}
    (looks : call.LooksAt path)
    (answer : call.Answer → Except FileFault α)
    (readable : ∀ later, Terminal.Later workspace id terminal later →
      ∃ value, answer (later.storage.answer call).1 = .ok value ∧ goal value later) :
    TaskProgram.Succeeds workspace id goal
      (do TaskProgram.fileAnswer (answer (← TaskProgram.ask (.file call)))) terminal := by
  refine Ends.look call looks fun later isLater => ?_
  obtain ⟨value, answered, attained⟩ := readable later isLater
  rw [answered]
  exact pure attained

end TaskProgram.Succeeds

end Successes

section Readers

variable {workspace : Workspace} {id : Text} {terminal : Terminal} {handle : Handle}

open TaskProgram

/-- What was saved fresh and can be loaded is loaded. -/
theorem Handle.load_succeeds
    (wellFormed : TaskId.isWellFormed id = true)
    (fresh : workspace.SavesFresh terminal.storage)
    (loads : workspace.Loads id terminal.storage) :
    (Handle.load workspace id).Succeeds workspace id
      (fun handle after => handle.id = id ∧ Terminal.Later workspace id terminal after)
      terminal := by
  refine Ends.look (.isFile (workspace.handleFile id)) rfl fun looked isLooked => ?_
  cases isFile : (looked.storage.answer (.isFile (workspace.handleFile id))).1 with
  | false =>
      exact Ends.ask fun later isLater _ _ =>
        Succeeds.pure ⟨rfl, isLooked.trans isLater⟩
  | true =>
      obtain ⟨held, stands⟩ := Storage.file_of_answer_isFile isFile
      obtain ⟨text, handle, rfl, read⟩ := loads.later isLooked.passes held stands
      have readable : ∀ after, Terminal.Later workspace id looked after →
          (after.storage.answer (.readText (workspace.handleFile id))).1 = .ok text :=
        fun after isAfter =>
          Storage.answer_readText_encode (isAfter.passes.saved.trans stands)
      have reads : (TaskProgram.readText (workspace.handleFile id)).Succeeds workspace id
          (fun found after => found = text ∧ Terminal.Later workspace id looked after) looked :=
        Succeeds.read (.readText (workspace.handleFile id)) rfl (fun reply => reply)
          fun after isAfter => ⟨text, readable after isAfter, rfl, isAfter⟩
      refine Succeeds.bind reads fun found after ⟨same, isAfter⟩ => ?_
      subst same
      have isFresh := (isLooked.passes.fresh fresh).attach_of_readText wellFormed
        (readable looked (.refl workspace id looked)) read
      obtain ⟨flag, rfl⟩ := isFresh
      rw [read]
      exact Succeeds.pure ⟨rfl, isLooked.trans isAfter⟩

/-- Where the control directory is there, whoever looks for a file of the task finds it, or
finds it missing. -/
theorem Handle.lookFor_succeeds
    (own : handle.id = id)
    (seen : terminal.storage.look (workspace.controlDirectory id) = some .directory)
    {file : Path}
    {goal : α → Terminal → Prop}
    {found missing : TaskProgram α}
    (whenFound : ∀ later, Terminal.Later workspace id terminal later →
      ∀ entry, later.storage.look file = some entry →
      found.Succeeds workspace id goal later)
    (whenMissing : ∀ later, Terminal.Later workspace id terminal later →
      later.storage.look file = none →
      missing.Succeeds workspace id goal later) :
    (handle.lookFor workspace file found missing).Succeeds workspace id goal terminal := by
  subst own
  have required : (handle.requireDirectory workspace).Succeeds workspace handle.id
      (fun _ after => Terminal.Later workspace handle.id terminal after) terminal := by
    refine Ends.look (.isDirectory (handle.directory workspace)) rfl
      fun later isLater => ?_
    have seenLater : later.storage.look (handle.directory workspace) = some .directory :=
      isLater.passes.directory.trans seen
    rw [Storage.answer_isDirectory, decide_eq_true seenLater]
    exact Succeeds.pure isLater
  refine Succeeds.bind required fun _ after isAfter => ?_
  refine Ends.look (.exists file) rfl fun later isLater => ?_
  rw [Storage.answer_exists]
  cases isThere : later.storage.look file with
  | none => exact whenMissing later (isAfter.trans isLater) isThere
  | some entry => exact whenFound later (isAfter.trans isLater) entry isThere

/-- The log of a task that has ended is read as it was kept. -/
theorem Handle.log_succeeds
    (wellFormed : TaskId.isWellFormed id = true)
    (own : handle.id = id)
    (ended : workspace.HasResult id terminal.storage)
    (legible : workspace.IsLegible id terminal.storage) :
    (handle.log workspace).Succeeds workspace id
      (fun log after => log = workspace.keptLog id terminal.storage ∧
        Terminal.Later workspace id terminal after) terminal := by
  have same : ∀ later, Terminal.Later workspace id terminal later →
      later.storage.look (workspace.taskFile id Handle.logName) =
        terminal.storage.look (workspace.taskFile id Handle.logName) :=
    fun later isLater => legible.look_later wellFormed ended isLater.passes
  rw [← (Workspace.content_logFile wellFormed legible.seen).2, Storage.content, Handle.log_eq,
    Handle.logFile_of_own own]
  apply Handle.lookFor_succeeds own legible.seen
  · intro before isBefore entry isThere
    rw [same before isBefore] at isThere
    rw [isThere]
    cases entry with
    | directory => exact absurd isThere legible.noDirectory
    | file held =>
        refine Succeeds.read (.read (workspace.taskFile id Handle.logName)) rfl
          (fun reply => reply) fun after isAfter => ?_
        have isLater := isBefore.trans isAfter
        exact ⟨held, Storage.answer_read_file ((same after isLater).trans isThere), rfl,
          isLater⟩
  · intro after isAfter isMissing
    rw [same after isAfter] at isMissing
    rw [isMissing]
    exact Succeeds.pure ⟨rfl, isAfter⟩

/-- Whoever asks for a log that was shown to its end prints the same, and succeeds unless
standard output refuses it. -/
theorem Application.log_ends
    (wellFormed : TaskId.isWellFormed id = true)
    (fresh : workspace.SavesFresh terminal.storage)
    (shows : terminal.ShowsAll workspace id)
    (settings : Settings)
    (polls : Nat) :
    (perform workspace settings polls (.log id)).Ends workspace id
      (fun outcome after =>
        outcome = .ok (some 0) ∧ after.printed = terminal.printed ∨
          after.printed <+: terminal.printed ∧
            ∃ cause, outcome = .error (.files (.standardOutput cause)))
      ⟨terminal.storage, []⟩ := by
  refine Succeeds.bind (Handle.load_succeeds wellFormed fresh shows.loads)
    fun handle loaded ⟨own, isLoaded⟩ => ?_
  have ended := isLoaded.passes.result shows.ended
  have legible := shows.legible.later wellFormed shows.ended isLoaded.passes
  refine Succeeds.bind (Handle.log_succeeds wellFormed own ended legible)
    fun log after ⟨whole, isAfter⟩ => ?_
  have same : log = terminal.printed := by
    rw [whole, isLoaded.passes.final shows.ended, shows.whole]
  have silent : ∀ later, Terminal.Later workspace id after later → later.printed = [] := by
    intro later isLater
    rw [isLater.printed, isAfter.printed, isLoaded.printed]
  refine Ends.print (fun later isLater cause part => Or.inr ⟨?_, cause, rfl⟩)
    fun later isLater => Or.inl ⟨rfl, ?_⟩
  · rw [silent later isLater, same]
    exact List.take_prefix part _
  · rw [silent later isLater, same]
    rfl

end Readers

end DetachedTasks
