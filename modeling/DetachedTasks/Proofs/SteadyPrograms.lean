import DetachedTasks.Proofs.InvocationFootprints

/-!
# Programs beside children

A process that reads the files of a task is not alone: between any two of its requests the
children of all tasks may do something.  A program attains a goal if it ends with it whatever
the children do and whatever else is answered.  So whoever copies the log of a task has shown
the beginning of it at any time, and all of it once the result was there before the copy.
-/

namespace DetachedTasks

open Sandbox (Storage)

/-! ## Terminals -/

/-- The files, and what a process has printed on standard output. -/
structure Terminal where
  storage : Storage
  printed : Bytes

namespace Terminal

/-- Answer a request.  If standard output refuses something, a part of it may have been
printed.  What refuses a line ends the process, so there is no answer to that. -/
def respond
    (outside : Outside)
    (part : Nat) : Program.Handler Terminal
  | .file call, terminal =>
      let answered := terminal.storage.answer call
      (answered.1, { terminal with storage := answered.2 })
  | .deliver chunk, terminal =>
      match outside (.deliver chunk) with
      | .ok () => (.ok (), { terminal with printed := terminal.printed ++ chunk })
      | .error cause =>
          (.error cause, { terminal with printed := terminal.printed ++ chunk.take part })
  | .print content, terminal =>
      match outside (.print content) with
      | .ok () => (.ok (), { terminal with printed := terminal.printed ++ content })
      | .error cause =>
          (.error cause, { terminal with printed := terminal.printed ++ content.take part })
  | .printLine line, terminal =>
      ((), { terminal with printed := terminal.printed ++ Utf8.encode (line ++ ['\n']) })
  | request, terminal => (outside request, terminal)

/-- Whoever only looks at files changes nothing. -/
theorem respond_of_looksAt
    (outside : Outside)
    (part : Nat)
    {call : FileCall}
    {path : Path}
    (looks : call.LooksAt path)
    (terminal : Terminal) :
    (respond outside part (.file call) terminal).2 = terminal := by
  simp only [respond, Storage.answer_of_looksAt looks]

/-- A terminal after children were at work. -/
structure Later
    (workspace : Workspace)
    (id : Text)
    (before after : Terminal) : Prop where
  passes : workspace.Passes id before.storage after.storage
  printed : after.printed = before.printed

variable {workspace : Workspace} {id : Text} {before middle after : Terminal}

/-- A terminal is a later state of itself. -/
theorem Later.refl
    (workspace : Workspace)
    (id : Text)
    (terminal : Terminal) : Later workspace id terminal terminal :=
  ⟨.refl workspace id terminal.storage, rfl⟩

/-- What is later than something later is later. -/
theorem Later.trans
    (first : Later workspace id before middle)
    (second : Later workspace id middle after) :
    Later workspace id before after :=
  ⟨first.passes.trans second.passes, second.printed.trans first.printed⟩

end Terminal

/-! ## Goals -/

section Goals

variable {workspace : Workspace} {id : Text} {terminal : Terminal}

/-- Whatever children do between the requests of a program, it ends with the goal. -/
def Program.Attains
    (workspace : Workspace)
    (id : Text)
    (goal : α → Terminal → Prop) : Program α → Terminal → Prop
  | .done value, terminal => goal value terminal
  | .ask request resume, terminal =>
      ∀ later, Terminal.Later workspace id terminal later → ∀ outside part,
        (resume (Terminal.respond outside part request later).1).Attains workspace id goal
          (Terminal.respond outside part request later).2

namespace Program.Attains

/-- A program goes on from where another one has come to, whatever that was. -/
theorem bind
    {first : α → Terminal → Prop}
    {second : β → Terminal → Prop}
    {program : Program α}
    {next : α → Program β}
    (attains : program.Attains workspace id first terminal)
    (goesOn : ∀ value after, first value after →
      (next value).Attains workspace id second after) :
    (program.bind next).Attains workspace id second terminal := by
  induction program generalizing terminal with
  | done value => exact goesOn value terminal attains
  | ask request resume inductionHypothesis =>
      intro later isLater outside part
      exact inductionHypothesis _ (attains later isLater outside part)

/-- What attains a goal attains all that follows from it. -/
theorem weaken
    {first second : α → Terminal → Prop}
    {program : Program α}
    (attains : program.Attains workspace id first terminal)
    (implies : ∀ value after, first value after → second value after) :
    program.Attains workspace id second terminal := by
  induction program generalizing terminal with
  | done value => exact implies value terminal attains
  | ask request resume inductionHypothesis =>
      intro later isLater outside part
      exact inductionHypothesis _ (attains later isLater outside part)

/-- A goal that stays is attained later as well. -/
theorem later
    {goal : α → Terminal → Prop}
    {program : Program α}
    (attains : program.Attains workspace id goal terminal)
    (stays : ∀ value before after, Terminal.Later workspace id before after →
      goal value before → goal value after)
    {after : Terminal}
    (isLater : Terminal.Later workspace id terminal after) :
    program.Attains workspace id goal after := by
  cases program with
  | done value => exact stays value terminal after isLater attains
  | ask request resume =>
      exact fun last isLast outside part =>
        attains last (isLater.trans isLast) outside part

end Program.Attains

/-- A quiet program only lets time go by. -/
theorem Program.Meets.attains
    {promise : α → Prop}
    {program : Program α}
    (meets : program.Meets Terms.quiet promise)
    (terminal : Terminal) :
    program.Attains workspace id
      (fun value after => promise value ∧ Terminal.Later workspace id terminal after)
      terminal := by
  suffices general : ∀ before, Terminal.Later workspace id terminal before →
      program.Attains workspace id
        (fun value after => promise value ∧ Terminal.Later workspace id terminal after) before
    from general terminal (.refl workspace id terminal)
  induction program with
  | done value => exact fun before isBefore => ⟨meets, isBefore⟩
  | ask request resume inductionHypothesis =>
      intro before isBefore later isLater outside part
      have same : (Terminal.respond outside part request later).2 = later := by
        cases request with
        | file call =>
            obtain ⟨path, looks⟩ := meets.1
            exact Terminal.respond_of_looksAt outside part looks later
        | deliver chunk => exact meets.1.elim
        | print content => exact meets.1.elim
        | printLine line => exact meets.1.elim
        | _ => rfl
      rw [same]
      exact inductionHypothesis _ (meets.2 _ trivial) _ (isBefore.trans isLater)

/-- The same for a program that may end with a fault: the goal is one for both ends. -/
def TaskProgram.Ends
    (workspace : Workspace)
    (id : Text)
    (goal : Except TaskFault α → Terminal → Prop)
    (program : TaskProgram α)
    (terminal : Terminal) : Prop :=
  program.run.Attains workspace id goal terminal

namespace TaskProgram.Ends

theorem bind
    {first : Except TaskFault α → Terminal → Prop}
    {second : Except TaskFault β → Terminal → Prop}
    {program : TaskProgram α}
    {next : α → TaskProgram β}
    (ends : program.Ends workspace id first terminal)
    (fails : ∀ fault after, first (.error fault) after → second (.error fault) after)
    (goesOn : ∀ value after, first (.ok value) after →
      (next value).Ends workspace id second after) :
    (program >>= next).Ends workspace id second terminal := by
  refine Program.Attains.bind ends fun outcome after attained => ?_
  cases outcome with
  | ok value => exact goesOn value after attained
  | error fault => exact fails fault after attained

theorem ask
    {goal : Except TaskFault β → Terminal → Prop}
    {request : Request}
    {next : request.Answer → TaskProgram β}
    (goesOn : ∀ later, Terminal.Later workspace id terminal later → ∀ outside part,
      (next (Terminal.respond outside part request later).1).Ends workspace id goal
        (Terminal.respond outside part request later).2) :
    (TaskProgram.ask request >>= next).Ends workspace id goal terminal :=
  goesOn

/-- Who looks is told what is there. -/
theorem look
    {goal : Except TaskFault β → Terminal → Prop}
    (call : FileCall)
    {path : Path}
    (looks : call.LooksAt path)
    {next : call.Answer → TaskProgram β}
    (goesOn : ∀ later, Terminal.Later workspace id terminal later →
      (next (later.storage.answer call).1).Ends workspace id goal later) :
    (TaskProgram.ask (.file call) >>= next).Ends workspace id goal terminal := by
  refine ask fun later isLater outside part => ?_
  rw [Terminal.respond_of_looksAt outside part looks later]
  exact goesOn later isLater

/-- What standard output takes was printed, and what it refuses is a fault. -/
theorem print
    {goal : Except TaskFault β → Terminal → Prop}
    {content : Bytes}
    {next : Unit → TaskProgram β}
    (refused : ∀ later, Terminal.Later workspace id terminal later → ∀ cause part,
      goal (.error (.files (.standardOutput cause)))
        { later with printed := later.printed ++ content.take part })
    (goesOn : ∀ later, Terminal.Later workspace id terminal later →
      (next ()).Ends workspace id goal { later with printed := later.printed ++ content }) :
    (TaskProgram.print content >>= next).Ends workspace id goal terminal := by
  intro later isLater outside part
  rw [Terminal.respond]
  cases outside (.print content) with
  | ok done => exact goesOn later isLater
  | error cause => exact refused later isLater cause part

end TaskProgram.Ends

/-- Whatever children do between the requests of a program, it ends with a fault or with the
goal. -/
abbrev TaskProgram.Attains
    (workspace : Workspace)
    (id : Text)
    (goal : α → Terminal → Prop)
    (program : TaskProgram α)
    (terminal : Terminal) : Prop :=
  program.Ends workspace id
    (fun outcome after => ∀ value, outcome = .ok value → goal value after) terminal

namespace TaskProgram.Attains

theorem pure
    {goal : α → Terminal → Prop}
    {value : α}
    (attained : goal value terminal) :
    TaskProgram.Attains workspace id goal (Pure.pure value) terminal := by
  intro other same
  cases same
  exact attained

/-- A fault ends the program, and there is no value to say anything about. -/
theorem throw
    {goal : α → Terminal → Prop}
    (fault : TaskFault) :
    TaskProgram.Attains workspace id goal (MonadExcept.throw fault) terminal := by
  intro value impossible
  cases impossible

theorem bind
    {first : α → Terminal → Prop}
    {second : β → Terminal → Prop}
    {program : TaskProgram α}
    {next : α → TaskProgram β}
    (attains : program.Attains workspace id first terminal)
    (goesOn : ∀ value after, first value after →
      (next value).Attains workspace id second after) :
    (program >>= next).Attains workspace id second terminal := by
  refine Ends.bind attains ?_ fun value after attained => goesOn value after (attained value rfl)
  intro fault after _ value impossible
  cases impossible

/-- Who reads gets what is there, or ends with a fault. -/
theorem read
    (call : FileCall)
    {path : Path}
    (looks : call.LooksAt path)
    (answer : call.Answer → Except FileFault α) :
    TaskProgram.Attains workspace id
      (fun value after =>
        Terminal.Later workspace id terminal after ∧
          answer (after.storage.answer call).1 = .ok value)
      (do TaskProgram.fileAnswer (answer (← TaskProgram.ask (.file call)))) terminal := by
  refine Ends.look call looks fun later isLater => ?_
  cases answered : answer (later.storage.answer call).1 with
  | ok value => exact pure ⟨isLater, answered⟩
  | error fault => exact throw _

end TaskProgram.Attains

end Goals

/-! ## Looks at a task -/

section Looks

variable {workspace : Workspace} {id : Text} {terminal : Terminal} {handle : Handle}

open TaskProgram

/-- A handle on the task keeps its log where the task has it. -/
theorem Handle.logFile_of_own
    (own : handle.id = id) :
    handle.logFile workspace = workspace.taskFile id Handle.logName := by
  rw [← own]
  rfl

/-- Where the control directory is seen, its log shows what is kept of it. -/
theorem Workspace.content_logFile
    (wellFormed : TaskId.isWellFormed id = true)
    {storage : Storage}
    (seen : storage.look (workspace.controlDirectory id) = some .directory) :
    storage.look (workspace.taskFile id Handle.logName) =
        storage.found (workspace.taskFile id Handle.logName) ∧
      storage.content (workspace.taskFile id Handle.logName) =
        workspace.keptLog id storage := by
  have same : storage.look (workspace.taskFile id Handle.logName) =
      storage.found (workspace.taskFile id Handle.logName) :=
    Storage.look_eq_found (TaskId.isFileName wellFormed).toIsName seen
      (Deed.isFileName_of_mem Deed.logName_mem)
  refine ⟨same, ?_⟩
  rw [Storage.content, same, keptLog, Storage.held?]
  cases storage.found (workspace.taskFile id Handle.logName) with
  | none => rfl
  | some entry => cases entry <;> rfl

/-- Whoever reads the log of a task will not fail. -/
structure Workspace.IsLegible
    (workspace : Workspace)
    (id : Text)
    (storage : Storage) : Prop where
  seen : storage.look (workspace.controlDirectory id) = some .directory
  noDirectory : storage.look (workspace.taskFile id Handle.logName) ≠ some .directory

/-- A log that is complete shows the same at any time. -/
theorem Workspace.IsLegible.look_later
    (wellFormed : TaskId.isWellFormed id = true)
    {before after : Storage}
    (legible : workspace.IsLegible id before)
    (ended : workspace.HasResult id before)
    (passes : workspace.Passes id before after) :
    after.look (workspace.taskFile id Handle.logName) =
      before.look (workspace.taskFile id Handle.logName) := by
  rw [(content_logFile wellFormed (passes.directory.trans legible.seen)).1,
    passes.closed ended, (content_logFile wellFormed legible.seen).1]

/-- After the result nothing is written to the log, so a log that can be read stays so. -/
theorem Workspace.IsLegible.later
    (wellFormed : TaskId.isWellFormed id = true)
    {before after : Storage}
    (legible : workspace.IsLegible id before)
    (ended : workspace.HasResult id before)
    (passes : workspace.Passes id before after) :
    workspace.IsLegible id after where
  seen := passes.directory.trans legible.seen
  noDirectory := by
    rw [legible.look_later wellFormed ended passes]
    exact legible.noDirectory

/-- Whoever looks for a file of a task has seen its control directory. -/
theorem Handle.lookFor_attains
    (own : handle.id = id)
    {file : Path}
    {goal : α → Terminal → Prop}
    {found missing : TaskProgram α}
    (whenFound : ∀ later, Terminal.Later workspace id terminal later →
      later.storage.look (workspace.controlDirectory id) = some .directory →
      found.Attains workspace id goal later)
    (whenMissing : ∀ later, Terminal.Later workspace id terminal later →
      later.storage.look (workspace.controlDirectory id) = some .directory →
      later.storage.look file = none →
      missing.Attains workspace id goal later) :
    (handle.lookFor workspace file found missing).Attains workspace id goal terminal := by
  subst own
  have required : (handle.requireDirectory workspace).Attains workspace handle.id
      (fun _ after => Terminal.Later workspace handle.id terminal after ∧
        after.storage.look (workspace.controlDirectory handle.id) = some .directory)
      terminal := by
    refine Ends.look (.isDirectory (handle.directory workspace)) rfl
      fun later isLater => ?_
    rw [Storage.answer_isDirectory]
    by_cases seen : later.storage.look (handle.directory workspace) = some .directory
    · rw [decide_eq_true seen]
      exact Attains.pure ⟨isLater, seen⟩
    · rw [decide_eq_false seen]
      exact Attains.throw _
  refine Attains.bind required fun _ after ⟨isAfter, seen⟩ => ?_
  refine Ends.look (.exists file) rfl fun later isLater => ?_
  have seenLater := isLater.passes.directory.trans seen
  rw [Storage.answer_exists]
  cases isThere : later.storage.look file with
  | none => exact whenMissing later (isAfter.trans isLater) seenLater isThere
  | some entry => exact whenFound later (isAfter.trans isLater) seenLater

/-- A result that was read is there. -/
theorem Handle.status_attains
    (own : handle.id = id) :
    (handle.status workspace).Attains workspace id
      (fun status after => Terminal.Later workspace id terminal after ∧
        ∀ code, status = .complete code → workspace.HasResult id after.storage)
      terminal := by
  rw [Handle.status_eq]
  apply Handle.lookFor_attains own
  · intro before isBefore _
    refine Attains.bind
      (Attains.read (.read (handle.resultFile workspace)) rfl fun reply => reply)
      fun held after ⟨isAfter, answered⟩ => ?_
    have hasResult : workspace.HasResult id after.storage := by
      subst own
      exact ⟨held, Storage.held?_eq_some_iff.mpr
        (Storage.found_of_look (Storage.look_of_read answered))⟩
    have isAfter := isBefore.trans isAfter
    rw [ResultText.readStatus]
    split
    · exact Attains.throw _
    · refine Ends.ask fun later isLater _ _ => Attains.pure ?_
      exact ⟨isAfter.trans isLater, fun _ _ => isLater.passes.result hasResult⟩
    · exact Ends.ask fun later isLater _ _ => Attains.pure ⟨isAfter.trans isLater, by simp⟩
  · intro after isAfter _ _
    exact Attains.pure ⟨isAfter, by simp⟩

/-- To ask for the output prints nothing. -/
theorem Handle.output_attains
    (own : handle.id = id) :
    (handle.output workspace).Attains workspace id
      (fun _ after => Terminal.Later workspace id terminal after) terminal := by
  rw [Handle.output_eq]
  split
  · apply Handle.lookFor_attains own
    · intro before isBefore _
      refine Attains.bind
        (Attains.read (.read (handle.outputFile workspace)) rfl fun reply => reply)
        fun held after ⟨isAfter, _⟩ => ?_
      exact Attains.pure (isBefore.trans isAfter)
    · exact fun after isAfter _ _ => Attains.pure isAfter
  · exact Attains.pure (.refl workspace id terminal)

end Looks

/-! ## Copies of the log -/

/-- What was printed is the beginning of the log, up to the offset of the handle. -/
structure Handle.Shows
    (workspace : Workspace)
    (id : Text)
    (handle : Handle)
    (terminal : Terminal) : Prop where
  own : handle.id = id
  begins : terminal.printed <+: workspace.keptLog id terminal.storage
  offset : handle.logOffset.toNat = terminal.printed.length
  fits : (workspace.keptLog id terminal.storage).length < UInt64.size
  loads : workspace.Loads id terminal.storage

/-- All of the log was printed, and the log is complete.  It can be asked for again. -/
structure Terminal.ShowsAll
    (workspace : Workspace)
    (id : Text)
    (terminal : Terminal) : Prop where
  ended : workspace.HasResult id terminal.storage
  whole : terminal.printed = workspace.keptLog id terminal.storage
  legible : workspace.IsLegible id terminal.storage
  loads : workspace.Loads id terminal.storage

section Copies

variable {workspace : Workspace} {id : Text} {terminal after : Terminal} {handle : Handle}

open TaskProgram

/-- A log that was shown in full stays so, because neither the log nor what was printed changes
any more. -/
theorem Terminal.ShowsAll.later
    (wellFormed : TaskId.isWellFormed id = true)
    (shows : terminal.ShowsAll workspace id)
    (isLater : Terminal.Later workspace id terminal after) :
    after.ShowsAll workspace id where
  ended := isLater.passes.result shows.ended
  whole := by
    rw [isLater.printed, shows.whole, isLater.passes.final shows.ended]
  legible := shows.legible.later wellFormed shows.ended isLater.passes
  loads := shows.loads.later isLater.passes

/-- What a handle says was shown has been shown later on as well. -/
theorem Handle.Shows.later
    (shows : handle.Shows workspace id terminal)
    (isLater : Terminal.Later workspace id terminal after) :
    handle.Shows workspace id after where
  own := shows.own
  begins := by
    rw [isLater.printed]
    exact shows.begins.trans isLater.passes.grows
  offset := by
    rw [isLater.printed]
    exact shows.offset
  fits := isLater.passes.fits shows.fits
  loads := shows.loads.later isLater.passes

/-- A chunk that was handed on without a fault was printed. -/
theorem Handle.deliver_attains (chunk : Bytes) :
    (Handle.deliver chunk).Attains workspace id
      (fun _ after => workspace.Passes id terminal.storage after.storage ∧
        after.printed = terminal.printed ++ chunk) terminal := by
  refine Ends.ask fun handed isHanded outside part => ?_
  rw [Terminal.respond]
  cases outside (.deliver chunk) with
  | error cause => exact Attains.throw _
  | ok done =>
      have printed : handed.printed ++ chunk = terminal.printed ++ chunk := by
        rw [isHanded.printed]
      refine Ends.ask fun after isAfter flushes part => ?_
      have flushed : Terminal.respond flushes part .flush after = (flushes .flush, after) := rfl
      rw [flushed]
      cases flushes .flush with
      | error cause => exact Attains.throw _
      | ok done =>
          exact Attains.pure
            ⟨isHanded.passes.trans isAfter.passes, isAfter.printed.trans printed⟩

/-- What is read of a log behind the offset goes on with what was printed. -/
theorem Handle.Shows.append_readFrom
    (wellFormed : TaskId.isWellFormed id = true)
    (shows : handle.Shows workspace id terminal)
    (seen : terminal.storage.look (workspace.controlDirectory id) = some .directory)
    {chunk : Bytes}
    (answered : (terminal.storage.answer
      (.readFrom (handle.logFile workspace) handle.logOffset)).1 = .ok chunk) :
    terminal.printed ++ chunk = workspace.keptLog id terminal.storage := by
  obtain ⟨rest, whole⟩ := shows.begins
  rw [Handle.logFile_of_own shows.own] at answered
  rcases terminal.storage.answer_readFrom (workspace.taskFile id Handle.logName)
    handle.logOffset with ⟨fault, failed⟩ | succeeded
  · rw [failed] at answered
    cases answered
  · rw [succeeded, (Workspace.content_logFile wellFormed seen).2, ← whole, shows.offset,
      List.drop_left] at answered
    cases answered
    exact whole

/-- A log that is read on from what was printed is no directory: then it would have been
empty from its beginning. -/
theorem Handle.Shows.isLegible_of_readFrom
    (wellFormed : TaskId.isWellFormed id = true)
    (shows : handle.Shows workspace id terminal)
    (seen : terminal.storage.look (workspace.controlDirectory id) = some .directory)
    {chunk : Bytes}
    (answered : (terminal.storage.answer
      (.readFrom (handle.logFile workspace) handle.logOffset)).1 = .ok chunk) :
    workspace.IsLegible id terminal.storage := by
  refine ⟨seen, fun isDirectory => ?_⟩
  have nothing : workspace.keptLog id terminal.storage = [] := by
    rw [← (Workspace.content_logFile wellFormed seen).2, Storage.content, isDirectory]
  have begins := shows.begins
  rw [nothing, List.prefix_nil] at begins
  have offset : handle.logOffset = 0 := by
    apply UInt64.toNat_inj.mp
    rw [shows.offset, begins]
    rfl
  obtain ⟨fault, failed⟩ :=
    Storage.answer_readFrom_directory (Deed.isFileName_of_mem Deed.logName_mem).toIsName
      isDirectory
  rw [Handle.logFile_of_own shows.own, offset] at answered
  cases failed.symm.trans answered

/-- A copy goes on with what was printed.  If there was a result before, all of the log was
printed. -/
theorem Handle.copyLog_attains
    (wellFormed : TaskId.isWellFormed id = true)
    (shows : handle.Shows workspace id terminal)
    (ended : Prop)
    (result : ended → workspace.HasResult id terminal.storage) :
    (handle.copyLog workspace).Attains workspace id
      (fun copied after => copied.2.Shows workspace id after ∧
        (ended → after.ShowsAll workspace id)) terminal := by
  rw [Handle.copyLog_eq]
  apply Handle.lookFor_attains shows.own
  · intro before isBefore seen
    refine Attains.bind
      (Attains.read (.readFrom (handle.logFile workspace) handle.logOffset) rfl
        fun reply => reply)
      fun chunk read ⟨isRead, answered⟩ => ?_
    have showsRead := (shows.later isBefore).later isRead
    have seenRead := isRead.passes.directory.trans seen
    have whole := showsRead.append_readFrom wellFormed seenRead answered
    have legible := showsRead.isLegible_of_readFrom wellFormed seenRead answered
    have resultRead : ended → workspace.HasResult id read.storage := fun isEnded =>
      isRead.passes.result (isBefore.passes.result (result isEnded))
    cases chunk with
    | nil =>
        rw [List.append_nil] at whole
        exact Attains.pure
          ⟨showsRead, fun isEnded => ⟨resultRead isEnded, whole, legible, showsRead.loads⟩⟩
    | cons first rest =>
        refine Attains.bind (Handle.deliver_attains (first :: rest))
          fun _ after ⟨passes, printed⟩ => ?_
        rw [whole] at printed
        have loads := showsRead.loads.later passes
        refine Attains.pure ⟨⟨shows.own, ?_, ?_, passes.fits showsRead.fits, loads⟩, ?_⟩
        · rw [printed]
          exact passes.grows
        · have size : UInt64.size = 2 ^ 64 := rfl
          have fits := showsRead.fits
          have lengths := congrArg List.length whole
          rw [List.length_append] at lengths
          show (handle.logOffset + (first :: rest).length.toUInt64).toNat = _
          rw [printed, UInt64.toNat_add, UInt64.toNat_ofNat', showsRead.offset]
          omega
        · intro isEnded
          have result := resultRead isEnded
          refine ⟨passes.result result, ?_, legible.later wellFormed result passes, loads⟩
          rw [printed, passes.final result]
  · intro after isAfter seen isMissing
    have showsAfter := shows.later isAfter
    rw [Handle.logFile_of_own shows.own] at isMissing
    have legible : workspace.IsLegible id after.storage := ⟨seen, by simp [isMissing]⟩
    refine Attains.pure ⟨showsAfter, fun isEnded =>
      ⟨isAfter.passes.result (result isEnded), ?_, legible, showsAfter.loads⟩⟩
    have nothing : workspace.keptLog id after.storage = [] := by
      rw [← (Workspace.content_logFile wellFormed seen).2, Storage.content, isMissing]
    have begins := showsAfter.begins
    rw [nothing, List.prefix_nil] at begins
    rw [begins, nothing]

end Copies

/-! ## Following a task -/

/-- A cycle that has found the end of the task has shown all of its log, and one that has
found nothing has a handle to go on with. -/
structure PollOutcome.IsShown
    (workspace : Workspace)
    (id : Text)
    (outcome : PollOutcome)
    (terminal : Terminal) : Prop where
  complete : ∀ result, outcome.verdict = .ok (some result) → terminal.ShowsAll workspace id
  running : outcome.verdict = .ok none → outcome.handle.Shows workspace id terminal

section Following

variable {workspace : Workspace} {id : Text} {terminal : Terminal} {handle : Handle}

open TaskProgram

/-- A poll that fails promises nothing about the log. -/
theorem PollOutcome.isShown_error
    {outcome : PollOutcome}
    {fault : TaskFault}
    (failed : outcome.verdict = .error fault) :
    outcome.IsShown workspace id terminal := by
  constructor
  · intro result impossible
    rw [failed] at impossible
    cases impossible
  · intro impossible
    rw [failed] at impossible
    cases impossible

/-- The last copy of a poll that has found the result shows the rest of the log. -/
theorem Handle.finish_attains
    (wellFormed : TaskId.isWellFormed id = true)
    (shows : handle.Shows workspace id terminal)
    (ended : workspace.HasResult id terminal.storage)
    (progressed : Bool)
    (exitCode : Int32) :
    (handle.finish workspace progressed exitCode).Attains workspace id
      (fun outcome after => outcome.IsShown workspace id after) terminal := by
  refine Program.Attains.bind
    (Handle.copyLog_attains wellFormed shows True fun _ => ended)
    fun copied after attained => ?_
  cases copied with
  | error fault => exact PollOutcome.isShown_error rfl
  | ok pair =>
      rcases pair with ⟨more, last⟩
      obtain ⟨showsAfter, whole⟩ := attained _ rfl
      refine Program.Attains.bind (Handle.output_attains showsAfter.own)
        fun output late isLate => ?_
      cases output with
      | error fault => exact PollOutcome.isShown_error rfl
      | ok output =>
          intro later isLater _ _
          have passed := (isLate _ rfl).trans isLater
          exact ⟨fun _ _ => (whole trivial).later wellFormed passed, by simp⟩

/-- A poll that finds a result has shown the whole log by then. -/
theorem Handle.poll_attains
    (wellFormed : TaskId.isWellFormed id = true)
    (shows : handle.Shows workspace id terminal) :
    (handle.poll workspace).Attains workspace id
      (fun outcome after => outcome.IsShown workspace id after) terminal := by
  refine Program.Attains.bind
    (Handle.copyLog_attains wellFormed shows False False.elim)
    fun copied after attained => ?_
  cases copied with
  | error fault => exact PollOutcome.isShown_error rfl
  | ok pair =>
      rcases pair with ⟨progressed, moved⟩
      obtain ⟨showsAfter, _⟩ := attained _ rfl
      refine Program.Attains.bind (Handle.status_attains showsAfter.own)
        fun status late attained => ?_
      cases status with
      | error fault => exact PollOutcome.isShown_error rfl
      | ok status =>
          obtain ⟨isLate, complete⟩ := attained status rfl
          have showsLate := showsAfter.later isLate
          cases status with
          | running => exact ⟨by simp, fun _ => showsLate⟩
          | complete exitCode =>
              exact Handle.finish_attains wellFormed showsLate (complete exitCode rfl) _ _

/-- The log is shown piece by piece until the result is there, and then the rest of it. -/
theorem Handle.pollUntil_attains
    (wellFormed : TaskId.isWellFormed id = true)
    (shows : handle.Shows workspace id terminal)
    (options : PollOptions)
    (remaining : Nat)
    (lastProgress : Duration) :
    (Handle.pollUntil workspace options remaining lastProgress handle).Attains workspace id
      (fun outcome after => ∀ result, outcome.verdict = .ok (some result) →
        after.ShowsAll workspace id) terminal := by
  induction remaining generalizing lastProgress handle terminal with
  | zero =>
      intro result impossible
      cases impossible
  | succ remaining inductionHypothesis =>
      rw [Handle.pollUntil_succ]
      refine Program.Attains.bind (Handle.poll_attains wellFormed shows)
        fun outcome after isShown => ?_
      rw [Handle.afterPoll]
      split
      · intro result impossible
        cases impossible
      · rename_i result same
        exact fun _ _ => isShown.complete result same
      · rename_i same
        have showsAfter := isShown.running same
        refine Program.Attains.bind ((Handle.renew_isQuiet _ _).attains after)
          fun last renewed isRenewed => ?_
        refine Program.Attains.bind ((Handle.overdueNow?_isQuiet _ _).attains renewed)
          fun overdue judged isJudged => ?_
        have isJudged := isRenewed.2.trans isJudged.2
        cases overdue with
        | some idle =>
            intro later isLater _ _ result impossible
            cases impossible
        | none =>
            exact fun later isLater _ _ =>
              inductionHypothesis (showsAfter.later (isJudged.trans isLater)) last

/-- A task that is followed to its exit code has its whole log shown. -/
theorem Application.follow_attains
    (wellFormed : TaskId.isWellFormed id = true)
    (shows : handle.Shows workspace id terminal)
    (settings : Settings)
    (polls : Nat) :
    (follow workspace settings polls handle).Attains workspace id
      (fun code after => ∀ exitCode, code = some exitCode → after.ShowsAll workspace id)
      terminal := by
  have waits : (handle.wait workspace settings.pollOptions polls).Attains workspace id
      (fun outcome after => ∀ result, outcome.verdict = .ok (some result) →
        after.ShowsAll workspace id) terminal := by
    refine Program.Attains.bind ((handle.watch_isQuiet _).attains terminal)
      fun _ watched isWatched => ?_
    exact fun later isLater outside _ =>
      Handle.pollUntil_attains wellFormed (shows.later (isWatched.2.trans isLater)) _ _ _
  have lifted : TaskProgram.Attains workspace id
      (fun outcome after => ∀ result, outcome.verdict = .ok (some result) →
        after.ShowsAll workspace id)
      (ExceptT.lift (handle.wait workspace settings.pollOptions polls)) terminal := by
    refine Program.Attains.bind waits fun outcome after attained => ?_
    intro value same
    cases same
    exact attained
  refine Attains.bind lifted fun outcome after attained => ?_
  split
  · exact Attains.throw _
  · exact Attains.pure (by simp)
  · rename_i result same
    have whole := attained result same
    cases result.output.isSome with
    | true =>
        exact Ends.ask fun later isLater _ _ =>
          Attains.pure fun _ _ => whole.later wellFormed isLater
    | false => exact Attains.pure fun _ _ => whole

end Following

/-! ## Invocations that show the log -/

/-- A process that has printed nothing, where only fresh handles were saved. -/
structure Terminal.Begins
    (workspace : Workspace)
    (id : Text)
    (ended : Prop)
    (terminal : Terminal) : Prop where
  silent : terminal.printed = []
  fresh : workspace.SavesFresh terminal.storage
  fits : (workspace.keptLog id terminal.storage).length < UInt64.size
  result : ended → workspace.HasResult id terminal.storage

section Invocations

variable {workspace : Workspace} {id : Text} {ended : Prop} {terminal after : Terminal}
  {handle : Handle}

open TaskProgram

/-- What happens to the files takes nothing from a beginning as long as nothing is printed. -/
theorem Terminal.Begins.goesOn
    (begins : terminal.Begins workspace id ended)
    (goesOn : workspace.GoesOn id terminal.storage after.storage)
    (printed : after.printed = terminal.printed) :
    after.Begins workspace id ended where
  silent := printed.trans begins.silent
  fresh := goesOn.fresh begins.fresh
  fits := goesOn.fits begins.fits
  result := fun isEnded => goesOn.result (begins.result isEnded)

/-- A process that has only waited is still at its beginning. -/
theorem Terminal.Begins.later
    (begins : terminal.Begins workspace id ended)
    (isLater : Terminal.Later workspace id terminal after) :
    after.Begins workspace id ended :=
  begins.goesOn isLater.passes.toGoesOn isLater.printed

/-- What is loaded is a fresh handle. -/
theorem Handle.load_attains
    (wellFormed : TaskId.isWellFormed id = true)
    (begins : terminal.Begins workspace id ended) :
    (Handle.load workspace id).Attains workspace id
      (fun handle after => (∃ flag, handle = Handle.attach id flag) ∧
        after.Begins workspace id ended ∧ workspace.Loads id after.storage) terminal := by
  refine Ends.look (.isFile (workspace.handleFile id)) rfl fun looked isLooked => ?_
  have beginsLooked := begins.later isLooked
  cases isFile : (looked.storage.answer (.isFile (workspace.handleFile id))).1 with
  | false =>
      have loads : workspace.Loads id looked.storage := by
        intro content stands
        rw [Storage.answer_isFile_file stands] at isFile
        cases isFile
      exact Ends.ask fun later isLater _ _ =>
        Attains.pure ⟨⟨false, rfl⟩, beginsLooked.later isLater, loads.later isLater.passes⟩
  | true =>
      refine Attains.bind
        (Attains.read (.readText (workspace.handleFile id)) rfl fun reply => reply)
        fun text after ⟨isAfter, answered⟩ => ?_
      have beginsAfter := beginsLooked.later isAfter
      cases read : Handle.ofToml text with
      | error cause => exact Attains.throw _
      | ok loaded =>
          exact Attains.pure
            ⟨beginsAfter.fresh.attach_of_readText wellFormed answered read, beginsAfter,
              beginsAfter.fresh.loads_of_readText wellFormed answered read⟩

/-- A fresh handle shows nothing yet. -/
theorem Handle.shows_attach
    (begins : terminal.Begins workspace id ended)
    (loads : workspace.Loads id terminal.storage)
    (flag : Bool) :
    (Handle.attach id flag).Shows workspace id terminal where
  own := rfl
  begins := by
    rw [begins.silent]
    exact List.nil_prefix
  offset := by
    rw [begins.silent]
    rfl
  fits := begins.fits
  loads := loads

/-- What is read of the log is what is kept of it at that time. -/
theorem Handle.log_attains
    (wellFormed : TaskId.isWellFormed id = true)
    (own : handle.id = id) :
    (handle.log workspace).Attains workspace id
      (fun log after => Terminal.Later workspace id terminal after ∧
        log = workspace.keptLog id after.storage ∧ workspace.IsLegible id after.storage)
      terminal := by
  rw [Handle.log_eq, Handle.logFile_of_own own]
  apply Handle.lookFor_attains own
  · intro before isBefore seen
    refine Program.Attains.weaken
      (Attains.read (.read (workspace.taskFile id Handle.logName)) rfl fun reply => reply)
      fun outcome after attained log same => ?_
    obtain ⟨isAfter, answered⟩ := attained log same
    have seenAfter := isAfter.passes.directory.trans seen
    have isFile := Storage.look_of_read answered
    refine ⟨isBefore.trans isAfter, ?_, seenAfter, by simp [isFile]⟩
    rw [← (Workspace.content_logFile wellFormed seenAfter).2, Storage.content, isFile]
  · intro after isAfter seen isMissing
    refine Attains.pure ⟨isAfter, ?_, seen, by simp [isMissing]⟩
    rw [← (Workspace.content_logFile wellFormed seen).2, Storage.content, isMissing]

/-- The workspace is opened. -/
theorem Workspace.openAt_attains
    {root : Path}
    (wellFormed : TaskId.isWellFormed id = true)
    (opened : workspace.IsOpenedBy terminal.storage root)
    (begins : terminal.Begins workspace id ended) :
    (Workspace.openAt root).Attains workspace id
      (fun other after => other = workspace ∧ after.Begins workspace id ended) terminal := by
  have made : (TaskProgram.createDirectories root).Attains workspace id
      (fun _ after => workspace.IsOpenedBy after.storage root ∧
        after.Begins workspace id ended) terminal := by
    refine Ends.ask fun later isLater outside part => ?_
    have goesOn : workspace.GoesOn id later.storage
        (later.storage.answer (.createDirectories root)).2 :=
      FileCall.Tends.goesOn (.grow root) wellFormed later.storage
    have openedLater : workspace.IsOpenedBy
        (later.storage.answer (.createDirectories root)).2 root := by
      rw [Workspace.IsOpenedBy, goesOn.absolute, isLater.passes.absolute]
      exact opened
    have beginsLater : Terminal.Begins workspace id ended
        ⟨(later.storage.answer (.createDirectories root)).2, later.printed⟩ :=
      (begins.later isLater).goesOn goesOn rfl
    show (TaskProgram.fileAnswer (later.storage.answer (.createDirectories root)).1).Attains
      workspace id _ ⟨(later.storage.answer (.createDirectories root)).2, later.printed⟩
    cases (later.storage.answer (.createDirectories root)).1 with
    | error fault => exact Attains.throw _
    | ok done => exact Attains.pure ⟨openedLater, beginsLater⟩
  have absolute : ∀ before : Terminal, workspace.IsOpenedBy before.storage root →
      before.Begins workspace id ended →
      (TaskProgram.absolute root).Attains workspace id
        (fun full after => full.plain = workspace.root ∧ after.Begins workspace id ended)
        before := by
    intro before openedBefore beginsBefore
    refine Ends.ask fun later isLater outside part => ?_
    have same : (Terminal.respond outside part (.file (.absolute root)) later).2 = later := by
      rcases later with ⟨storage, printed⟩
      cases storage <;> rfl
    rw [same]
    show (TaskProgram.fileAnswer (later.storage.answer (.absolute root)).1).Attains
      workspace id _ later
    cases answered : (later.storage.answer (.absolute root)).1 with
    | error fault => exact Attains.throw _
    | ok full =>
        refine Attains.pure ⟨openedBefore full ?_, beginsBefore.later isLater⟩
        rw [← isLater.passes.absolute]
        exact Storage.absolute?_of_answer answered
  refine Attains.bind made fun _ before ⟨openedBefore, beginsBefore⟩ => ?_
  refine Attains.bind (absolute before openedBefore beginsBefore)
    fun full after ⟨isRoot, beginsAfter⟩ => ?_
  refine Attains.pure ⟨?_, beginsAfter⟩
  rw [isRoot]

/-- A log that is complete is shown completely by whoever follows the task to its end, and by
whoever asks for the log. -/
theorem Application.run_attains
    (wellFormed : TaskId.isWellFormed id = true)
    (polls : Nat)
    {invocation : Invocation}
    (opened : workspace.IsOpenedBy terminal.storage invocation.workspace)
    (begins : terminal.Begins workspace id ended)
    (shows : invocation.command = .wait id ∨ invocation.command = .log id ∧ ended) :
    (run polls invocation).Attains workspace id
      (fun code after => ∀ exitCode, code = some exitCode → after.ShowsAll workspace id)
      terminal := by
  have settled : (Settings.loadOrDefault invocation.settings).Attains workspace id
      (fun _ after => Terminal.Later workspace id terminal after) terminal :=
    ((Settings.loadOrDefault_isQuiet invocation.settings).attains terminal).weaken
      fun _ _ attained _ _ => attained.2
  refine Attains.bind settled fun settings before isBefore => ?_
  have openedBefore : workspace.IsOpenedBy before.storage invocation.workspace := by
    rw [Workspace.IsOpenedBy, isBefore.passes.absolute]
    exact opened
  refine Attains.bind
    (Workspace.openAt_attains wellFormed openedBefore (begins.later isBefore))
    fun other opened ⟨same, beginsOpened⟩ => ?_
  rw [same]
  refine Ends.ask fun noted isNoted _ _ => ?_
  have loads := Handle.load_attains wellFormed (beginsOpened.later isNoted)
  rcases shows with waits | ⟨asks, isEnded⟩
  · rw [waits]
    refine Attains.bind loads fun handle loaded ⟨⟨flag, isFresh⟩, beginsLoaded, saved⟩ => ?_
    subst isFresh
    exact follow_attains wellFormed (Handle.shows_attach beginsLoaded saved flag) settings polls
  · rw [asks]
    refine Attains.bind loads fun handle loaded ⟨⟨flag, isFresh⟩, beginsLoaded, saved⟩ => ?_
    subst isFresh
    refine Attains.bind (Handle.log_attains wellFormed rfl)
      fun log after ⟨isAfter, whole, legible⟩ => ?_
    refine Ends.print (fun _ _ _ _ _ impossible => by cases impossible)
      fun later isLater => Attains.pure fun _ _ => ?_
    have result := isAfter.passes.result (beginsLoaded.result isEnded)
    refine ⟨isLater.passes.result result, ?_,
      legible.later wellFormed result isLater.passes,
      (saved.later isAfter.passes).later isLater.passes⟩
    rw [isLater.printed, isAfter.printed, beginsLoaded.silent, whole,
      isLater.passes.final result]
    rfl

end Invocations

end DetachedTasks
