import DetachedTasks.Proofs.CleanupReach
import DetachedTasks.Proofs.LaunchOutcome
import DetachedTasks.Proofs.PollCycles
import DetachedTasks.Rehearsal

/-!
# Rehearsed runs and the questions about them

A rehearsed run on files in memory does what a child does: the deeds are the same, one after
another.  So after the run the status, the log and the captured output can be told from the
events of the script alone, however many polls came between the log and the result.

The exit signals are overwritten from event to event.  What is left of them in the end is the
last exit code, and whether anything was raised at all.
-/

namespace DetachedTasks

open Sandbox (Storage World)

/-! ## The exit code -/

namespace Rehearsal

/-- The exit code that an event ends with. -/
def exit? : ScriptEvent → Option Int32
  | .exit code => some code
  | _ => none

/-- Whether an event raises an error. -/
def raises : ScriptEvent → Bool
  | .raise _ => true
  | _ => false

/-- The exit code of the last program that ran. -/
def lastExit? (rehearsal : Rehearsal) : Option Int32 :=
  (rehearsal.events.filterMap exit?).getLast?

/-- What is left of the signals in the end. -/
theorem signals_eq (rehearsal : Rehearsal) :
    rehearsal.signals =
      { lastExitCode := rehearsal.lastExit?
        succeeded := rehearsal.lastExit?.all (· = 0)
        errorCaught := rehearsal.events.any raises } := by
  rcases rehearsal with ⟨events⟩
  induction events using List.reverseRecOn with
  | nil => rfl
  | append_singleton events event inductionHypothesis =>
      simp only [signals, lastExit?] at inductionHypothesis ⊢
      rw [List.foldl_append, inductionHypothesis]
      cases event with
      | print line => simp [signal, exit?, raises]
      | complain line => simp [signal, exit?, raises]
      | raise message => simp [signal, exit?, raises]
      | exit code => simp [signal, exit?, raises]

/-- The last exit code counts, and without one whether anything was raised. -/
theorem exitCode_eq (rehearsal : Rehearsal) :
    rehearsal.exitCode =
      match rehearsal.lastExit? with
      | some code => code
      | none => if rehearsal.events.any raises then 1 else 0 := by
  rw [exitCode, signals_eq, ExitSignals.resolve]
  cases rehearsal.lastExit? with
  | none => simp
  | some code => simp

end Rehearsal

/-! ## What events leave behind -/

namespace ScriptEvent

/-- What the log of a script holds in the end: what it printed, complained and raised, each
with a line feed behind it. -/
def logged : List ScriptEvent → Bytes
  | [] => []
  | .print line :: events => Utf8.encode line ++ 0x0A :: logged events
  | .complain line :: events => Utf8.encode line ++ 0x0A :: logged events
  | .raise message :: events => Utf8.encode message ++ 0x0A :: logged events
  | .exit _ :: events => logged events

/-- What the captured output of a script holds in the end: what it printed, each line with a
line feed behind it. -/
def printed : List ScriptEvent → Bytes
  | [] => []
  | .print line :: events => Utf8.encode line ++ 0x0A :: printed events
  | .complain _ :: events => printed events
  | .raise _ :: events => printed events
  | .exit _ :: events => printed events

end ScriptEvent

namespace Rehearsal

/-- A line is written as its bytes and a line feed. -/
theorem lineBytes_eq (line : Text) :
    lineBytes line = Utf8.encode line ++ [0x0A] :=
  Utf8.encode_append line ['\n']

/-- The lines that are written to the log make up what was to be logged. -/
theorem flatMap_logLine? (events : List ScriptEvent) :
    (events.filterMap logLine?).flatMap lineBytes = ScriptEvent.logged events := by
  induction events with
  | nil => rfl
  | cons event events inductionHypothesis =>
      cases event with
      | exit code => exact inductionHypothesis
      | _ =>
          simp only [List.filterMap_cons, logLine?, List.flatMap_cons, lineBytes_eq,
            inductionHypothesis, ScriptEvent.logged, List.append_assoc,
            List.singleton_append]

/-- So do the lines that are written to the output file. -/
theorem flatMap_outputLine? (events : List ScriptEvent) :
    (events.filterMap outputLine?).flatMap lineBytes = ScriptEvent.printed events := by
  induction events with
  | nil => rfl
  | cons event events inductionHypothesis =>
      cases event with
      | print line =>
          simp only [List.filterMap_cons, outputLine?, List.flatMap_cons, lineBytes_eq,
            inductionHypothesis, ScriptEvent.printed, List.append_assoc,
            List.singleton_append]
      | _ => exact inductionHypothesis

/-! ## The deeds -/

/-- The child whose part a rehearsed run plays. -/
def child
    (rehearsal : Rehearsal)
    (capturing : Bool) : Child where
  chunks := [] :: (rehearsal.events.filterMap logLine?).map lineBytes
  output := if capturing then some (ScriptEvent.printed rehearsal.events) else none
  exitCode := rehearsal.exitCode
  lineEnd := ['\r', '\n']

/-- The child of a rehearsal leaves behind just the log that the script was meant to write. -/
theorem log_child
    (rehearsal : Rehearsal)
    (capturing : Bool) :
    (rehearsal.child capturing).log = ScriptEvent.logged rehearsal.events := by
  rw [Child.log, child, List.flatten_cons, List.nil_append, ← List.flatMap_def,
    flatMap_logLine?]

end Rehearsal

/-- A deed, as a rehearsed run does it. -/
def Handle.play
    (handle : Handle)
    (workspace : Workspace)
    (memory : Memory) : Deed → Memory
  | .log chunk => memory.append (handle.logFile workspace) chunk
  | .output content => memory.addFile (handle.outputFile workspace) content
  | .result content => memory.addFile (handle.resultFile workspace) content

/-- What stands in the control directory of a task: the files that a child writes, as far as
they are there. -/
structure Handle.Bears
    (handle : Handle)
    (workspace : Workspace)
    (memory : Memory)
    (held : Text → Option Bytes) : Prop where
  directory : memory.entryAt (handle.directory workspace) = some .directory
  files : ∀ name ∈ Deed.fileNames,
    memory.entryAt (handle.file workspace name) = (held name).map .file

namespace Memory

variable {memory : Memory} {path : Path} {content : Bytes}

theorem entryAt_addFile
    (memory : Memory)
    (path : Path)
    (content : Bytes) :
    (memory.addFile path content).entryAt path = some (.file content) := by
  rw [addFile, entryAt, put, EntryMap.lookup_insert, if_pos rfl]

/-- To put a file keeps whatever stands at another place. -/
theorem entryAt_addFile_of_stands
    {other : Path}
    {entry : Entry}
    (different : path.location ≠ other.location)
    (stands : memory.entryAt other = some entry) :
    (memory.addFile path content).entryAt other = some entry := by
  rw [addFile, entryAt, lookup_put_of_ne different]
  cases path.parent? with
  | none => exact stands
  | some parent =>
      rcases memory.lookup_ensureDirectory_or parent other.location with same | ⟨vacant, _⟩
      · exact same.trans stands
      · rw [← entryAt, stands] at vacant
        cases vacant

/-- To append is to write what was there and then the new bytes. -/
theorem append_eq
    (memory : Memory)
    (path : Path)
    (content : Bytes) :
    memory.append path content =
      memory.addFile path ((Storage.inMemory memory).content path ++ content) := by
  rw [append, Storage.content, Storage.look]
  cases memory.entryAt path with
  | none => rfl
  | some entry => cases entry <;> rfl

end Memory

namespace Handle.Bears

variable {handle : Handle} {workspace : Workspace} {memory : Memory}
  {held : Text → Option Bytes}

/-- A deed puts into its own file what it makes of it, and nothing else changes. -/
theorem play
    (bears : handle.Bears workspace memory held)
    (wellFormed : TaskId.isWellFormed handle.id = true)
    (deed : Deed) :
    handle.Bears workspace (handle.play workspace memory deed)
      fun name => Deed.heldAfter name (held name) [deed] := by
  have location : ∀ name ∈ Deed.fileNames,
      (handle.file workspace name).location = workspace.placeOfFile handle.id name :=
    fun name member => location_file wellFormed (Deed.isFileName_of_mem member).toIsName
  have held_eq : (Storage.inMemory memory).content (handle.file workspace deed.fileName) =
      (held deed.fileName).getD [] := by
    rw [Storage.content, Storage.look, bears.files _ deed.fileName_mem]
    cases held deed.fileName with
    | none => rfl
    | some bytes => rfl
  have played : handle.play workspace memory deed =
      memory.addFile (handle.file workspace deed.fileName)
        (deed.change ((held deed.fileName).getD [])) := by
    cases deed with
    | log chunk =>
        rw [← held_eq]
        exact memory.append_eq _ chunk
    | output content => rfl
    | result content => rfl
  rw [played]
  constructor
  · apply Memory.entryAt_addFile_of_stands _ bears.directory
    rw [location _ deed.fileName_mem, Handle.directory, location_controlDirectory wellFormed]
    intro same
    have lengths := congrArg List.length same
    simp [Workspace.placeOfFile] at lengths
  · intro name member
    by_cases own : name = deed.fileName
    · subst own
      simp only [Deed.heldAfter, List.foldl_cons, List.foldl_nil, if_pos, Option.map_some]
      exact Memory.entryAt_addFile _ _ _
    · simp only [Deed.heldAfter, List.foldl_cons, List.foldl_nil, if_neg own]
      rw [← bears.files name member]
      apply Memory.lookup_addFile
      rw [location name member, location _ deed.fileName_mem]
      intro above
      have same := above.eq_of_length (by simp [Workspace.placeOfFile])
      simp only [Workspace.placeOfFile, List.append_cancel_left_eq, List.cons.injEq,
        Component.name.injEq, and_true] at same
      exact own ((Deed.encode_eq_iff member deed.fileName_mem).mp same)

/-- After any deeds a task holds what the deeds, one by one, have made of each of its files. -/
theorem playAll
    (bears : handle.Bears workspace memory held)
    (wellFormed : TaskId.isWellFormed handle.id = true)
    (deeds : List Deed) :
    handle.Bears workspace (deeds.foldl (handle.play workspace) memory)
      fun name => Deed.heldAfter name (held name) deeds := by
  induction deeds generalizing memory held with
  | nil => exact bears
  | cons deed deeds inductionHypothesis => exact inductionHypothesis (bears.play wellFormed deed)

end Handle.Bears

namespace Rehearsal

variable (rehearsal : Rehearsal) (workspace : Workspace) (handle : Handle) (memory : Memory)

/-- A rehearsal writes its log as its child would, line by line. -/
theorem writeLog_eq (capturing : Bool) :
    rehearsal.writeLog workspace handle memory =
      ((rehearsal.child capturing).chunks.map .log).foldl (handle.play workspace) memory := by
  rw [writeLog, child, List.map_cons, List.foldl_cons, List.map_map, List.foldl_map]
  rfl

/-- A rehearsal finishes as its child would: the output if it is wanted, and then the result. -/
theorem finish_eq :
    rehearsal.finish workspace handle memory =
      ((rehearsal.child handle.capturing).output.toList.map Deed.output ++
        [Deed.result (rehearsal.child handle.capturing).result]).foldl (handle.play workspace)
          memory := by
  rw [finish, List.foldl_append, child, flatMap_outputLine?]
  cases handle.capturing with
  | true => rfl
  | false => rfl

variable {rehearsal workspace handle memory}

/-- What stands in the control directory after a whole run: nobody else wrote there. -/
theorem bears_finish
    (fresh : handle.Bears workspace memory fun _ => none)
    (wellFormed : TaskId.isWellFormed handle.id = true) :
    handle.Bears workspace
      (rehearsal.finish workspace handle (rehearsal.writeLog workspace handle memory))
      fun name => Deed.heldAfter name none (rehearsal.child handle.capturing).deeds := by
  rw [finish_eq, writeLog_eq _ _ _ _ handle.capturing, ← List.foldl_append,
    ← List.append_assoc]
  exact fresh.playAll wellFormed (rehearsal.child handle.capturing).deeds

end Rehearsal

/-! ## Questions with one answer -/

/-- Whatever the world outside answers, a question on files in memory has one answer and
leaves the files as they are. -/
def TaskProgram.Answers
    (memory : Memory)
    (value : α)
    (program : TaskProgram α) : Prop :=
  program.run.Secures (fun outcome after => outcome = .ok value ∧ after = memory) memory

namespace TaskProgram.Answers

variable {memory : Memory}

theorem pure (value : α) :
    TaskProgram.Answers memory value (Pure.pure value) :=
  ⟨rfl, rfl⟩

/-- Programs in a row are answered in a row, from the same files. -/
theorem bind
    {value : α}
    {result : β}
    {program : TaskProgram α}
    {next : α → TaskProgram β}
    (first : program.Answers memory value)
    (second : (next value).Answers memory result) :
    (program >>= next).Answers memory result := by
  apply Program.Secures.bind
  refine Program.Secures.weaken first ?_
  rintro outcome after ⟨rfl, rfl⟩
  exact second

theorem isDirectory (path : Path) :
    (TaskProgram.isDirectory path).Answers memory (memory.isDirectory path) :=
  fun _ => ⟨rfl, rfl⟩

theorem «exists» (path : Path) :
    (TaskProgram.exists? path).Answers memory (memory.entryAt path).isSome :=
  fun _ => ⟨rfl, rfl⟩

theorem note (level : Level) :
    (TaskProgram.note level).Answers memory () :=
  fun _ => ⟨rfl, rfl⟩

theorem read
    {path : Path}
    {held : Bytes}
    (isFile : memory.entryAt path = some (.file held)) :
    (TaskProgram.read path).Answers memory held := by
  have answered : memory.read path = .ok held := by
    rw [Memory.read, isFile]
  intro reply
  show Program.Secures _ (fileAnswer (memory.read path)).run memory
  rw [answered]
  exact ⟨rfl, rfl⟩

end TaskProgram.Answers

namespace Handle.Bears

open TaskProgram

variable {handle : Handle} {workspace : Workspace} {memory : Memory}
  {held : Text → Option Bytes}

/-- A question about a file of the task is answered from what the task holds under its name. -/
theorem lookFor
    (bears : handle.Bears workspace memory held)
    {name : Text}
    (member : name ∈ Deed.fileNames)
    {found missing : TaskProgram α}
    {value : α}
    (answers : (if (held name).isSome then found else missing).Answers memory value) :
    (handle.lookFor workspace (handle.file workspace name) found missing).Answers memory
      value := by
  have stands : memory.isDirectory (handle.directory workspace) = true :=
    beq_iff_eq.mpr bears.directory
  have isThere : (memory.entryAt (handle.file workspace name)).isSome = (held name).isSome := by
    rw [bears.files name member, Option.isSome_map]
  have required : (handle.requireDirectory workspace).Answers memory () := by
    refine Answers.bind (Answers.isDirectory _) ?_
    rw [stands]
    exact Answers.pure ()
  refine Answers.bind required (Answers.bind (Answers.exists _) ?_)
  rw [isThere]
  exact answers

/-- A result that holds a code is answered with the code. -/
theorem status
    (bears : handle.Bears workspace memory held)
    {code : Int32}
    {content : Bytes}
    (written : held Handle.resultName = some content)
    (parsed : ResultText.parse content = .ok (some code)) :
    (handle.status workspace).Answers memory (.complete code) := by
  rw [Handle.status_eq]
  apply bears.lookFor Deed.resultName_mem
  rw [written]
  have isFile := bears.files _ Deed.resultName_mem
  rw [written] at isFile
  refine Answers.bind (Answers.read isFile) ?_
  rw [ResultText.readStatus, parsed]
  exact Answers.bind (Answers.note _) (Answers.pure _)

/-- The log is answered as it is held, and as empty if there is none. -/
theorem log
    (bears : handle.Bears workspace memory held) :
    (handle.log workspace).Answers memory ((held Handle.logName).getD []) := by
  rw [Handle.log_eq]
  apply bears.lookFor Deed.logName_mem
  have isFile := bears.files _ Deed.logName_mem
  cases content : held Handle.logName with
  | none => exact Answers.pure _
  | some bytes =>
      rw [content] at isFile
      exact Answers.read isFile

/-- The output is answered as it is held; without capture there must not be any. -/
theorem output
    (bears : handle.Bears workspace memory held)
    (uncaptured : handle.capturing = false → held Handle.outputName = none) :
    (handle.output workspace).Answers memory (held Handle.outputName) := by
  rw [Handle.output_eq]
  split
  · apply bears.lookFor Deed.outputName_mem
    have isFile := bears.files _ Deed.outputName_mem
    cases content : held Handle.outputName with
    | none => exact Answers.pure _
    | some bytes =>
        rw [content] at isFile
        exact Answers.bind (Answers.read isFile) (Answers.pure _)
  · rename_i notCapturing
    rw [uncaptured (Bool.eq_false_iff.mpr notCapturing)]
    exact Answers.pure _

end Handle.Bears

/-! ## Polls in between -/

section Polls

variable {State : Type} {outside : Program.Handler State} {workspace : Workspace}

/-- Poll a number of times, whatever each poll comes to. -/
def Handle.pollTimes
    (workspace : Workspace) : Nat → Handle → Program Handle
  | 0, handle => pure handle
  | count + 1, handle => do
      let outcome ← handle.poll workspace
      pollTimes workspace count outcome.handle

/-- Who only looks leaves files in memory as they are. -/
theorem Program.Meets.run_looking
    {promise : α → Prop}
    {memory : Memory}
    {program : Program α}
    (meets : program.Meets (Terms.looking (.inMemory memory)) promise)
    (outside : Program.Handler State)
    (state : State) :
    (program.run (Memory.respond outside) (memory, state)).2.1 = memory := by
  induction program generalizing state with
  | done value => rfl
  | ask request resume inductionHypothesis =>
      cases request with
      | file call =>
          obtain ⟨path, looks⟩ := meets.1
          have kept : ((Storage.inMemory memory).answer call).2 = .inMemory memory :=
            Storage.answer_of_looksAt looks
          have same : (memory.answer call).2 = memory := Storage.inMemory.inj kept
          rw [Program.run, Memory.respond, same]
          exact inductionHypothesis _ (meets.2 _ rfl) state
      | _ => exact inductionHypothesis _ (meets.2 _ trivial) _

/-- Polls move the offset of a handle and change nothing else. -/
theorem Handle.run_pollTimes
    (outside : Program.Handler State)
    (count : Nat)
    (handle : Handle)
    (memory : Memory)
    (state : State) :
    ∃ bytes after,
      (Handle.pollTimes workspace count handle).run (Memory.respond outside) (memory, state) =
        (handle.moved bytes, memory, after) := by
  induction count generalizing handle state with
  | zero => exact ⟨[], state, by rw [Handle.moved_nil]; rfl⟩
  | succ count inductionHypothesis =>
      have serves : (Terms.looking (.inMemory memory)).Serves (handle.watched workspace) :=
        Terms.looking_serves _ _
      have kept := serves.poll.run_looking outside state
      have cycles := (handle.poll_cycles workspace).of_run (Memory.respond outside)
        (memory, state)
      rcases polled : (handle.poll workspace).run (Memory.respond outside) (memory, state) with
        ⟨outcome, same, next⟩
      rw [polled] at kept cycles
      obtain rfl : same = memory := kept
      obtain ⟨bytes, moves⟩ : ∃ bytes, outcome.handle = handle.moved bytes :=
        ⟨_, cycles.moves⟩
      obtain ⟨more, after, rest⟩ := inductionHypothesis outcome.handle next
      refine ⟨bytes ++ more, after, ?_⟩
      show ((handle.poll workspace).bind fun outcome =>
        Handle.pollTimes workspace count outcome.handle).run _ _ = _
      rw [Program.run_bind, polled, ← Handle.moved_moved, ← moves]
      exact rest

end Polls

/-! ## A sandbox with files in memory -/

/-- The files of a storage are in memory. -/
def Sandbox.Storage.IsMemory (storage : Storage) : Prop :=
  ∃ memory, storage = .inMemory memory

namespace Sandbox.Storage.IsMemory

variable {storage : Storage}

/-- No call turns files in memory into a tree. -/
theorem answer
    (isMemory : storage.IsMemory)
    (call : FileCall) :
    (storage.answer call).2.IsMemory := by
  obtain ⟨memory, rfl⟩ := isMemory
  exact ⟨_, rfl⟩

/-- Nothing that is done from outside turns files in memory into a tree. -/
theorem act
    (isMemory : storage.IsMemory)
    (action : FileAction) :
    (storage.act action).IsMemory := by
  obtain ⟨memory, rfl⟩ := isMemory
  cases action with
  | call call => exact ⟨_, rfl⟩
  | addFile path content => exact ⟨_, rfl⟩
  | append path content => exact ⟨_, rfl⟩

/-- No number of outside steps turns files in memory into a tree. -/
theorem actAll
    (isMemory : storage.IsMemory)
    (actions : List FileAction) :
    (actions.foldl Storage.act storage).IsMemory := by
  induction actions generalizing storage with
  | nil => exact isMemory
  | cons action actions inductionHypothesis => exact inductionHypothesis (isMemory.act action)

end Sandbox.Storage.IsMemory

namespace Sandbox.World

variable {supply : Nat → UInt32} {world : World}

/-- What comes in between from outside leaves files in memory files in memory. -/
theorem isMemory_answerFile
    (isMemory : world.storage.IsMemory)
    (call : FileCall) :
    (world.answerFile call).2.storage.IsMemory := by
  cases call with
  | createDirectory path =>
      rw [answerFile]
      simp only
      split
      · exact isMemory
      · split
        · exact isMemory.answer _
        · exact isMemory.answer _
  | write path content =>
      rw [answerFile]
      split
      · exact isMemory
      · exact isMemory.answer _
      · exact isMemory.answer _
  | _ => exact isMemory.answer _

/-- Files in memory stay there, whatever is asked for. -/
theorem isMemory_drawing
    (isMemory : world.storage.IsMemory)
    (request : Request) :
    (drawing supply request world).2.storage.IsMemory := by
  cases request with
  | file call => exact isMemory_answerFile isMemory call
  | flush =>
      show (handler .flush world).2.storage.IsMemory
      rw [handler]
      simp only
      split
      · rw [runHook]
        split
        · exact isMemory
        · exact isMemory.actAll _
      · exact isMemory
  | start order =>
      show (world.takeOrder order).2.storage.IsMemory
      rw [takeOrder]
      split
      · exact isMemory
      · exact isMemory
      · exact isMemory
      · obtain ⟨memory, inMemory⟩ := isMemory
        rw [startProcess, inMemory]
        exact ⟨memory, inMemory⟩
  | _ => exact isMemory

/-- A program that runs on files in memory ends on files in memory. -/
theorem isMemory_run
    (supply : Nat → UInt32)
    (isMemory : world.storage.IsMemory)
    (program : Program α) :
    (program.run (drawing supply) world).2.storage.IsMemory := by
  induction program generalizing world with
  | done value => exact isMemory
  | ask request resume inductionHypothesis =>
      exact inductionHypothesis _ (isMemory_drawing isMemory request)

end Sandbox.World

/-! ## The whole life of a rehearsed task -/

namespace Rehearsal

/-- What the controller answers about a run that has ended, whatever the world outside does:
the exit code, all lines of the log, and all printed lines if they were to be captured. -/
structure Reports
    (rehearsal : Rehearsal)
    (workspace : Workspace)
    (capturing : Bool)
    (handle : Handle)
    (memory : Memory)
    (outside : Program.Handler State)
    (state : State) : Prop where
  status :
    ((handle.status workspace).run.run (Memory.respond outside) (memory, state)).1 =
      .ok (.complete rehearsal.exitCode)
  log :
    ((handle.log workspace).run.run (Memory.respond outside) (memory, state)).1 =
      .ok (ScriptEvent.logged rehearsal.events)
  output :
    ((handle.output workspace).run.run (Memory.respond outside) (memory, state)).1 =
      .ok (if capturing then some (ScriptEvent.printed rehearsal.events) else none)

variable {rehearsal : Rehearsal} {workspace : Workspace} {handle : Handle} {memory : Memory}
  {State : Type} {outside : Program.Handler State} {state : State}

/-- Once the files hold what the child leaves behind, all that a rehearsal has to report
follows. -/
theorem reports_of_bears
    (bears : handle.Bears workspace memory
      fun name => Deed.heldAfter name none (rehearsal.child handle.capturing).deeds) :
    rehearsal.Reports workspace handle.capturing handle memory outside state := by
  have result := (rehearsal.child handle.capturing).heldAfter_resultName
  have log := (rehearsal.child handle.capturing).heldAfter_logName
  have output := (rehearsal.child handle.capturing).heldAfter_outputName
  have uncaptured : handle.capturing = false →
      (rehearsal.child handle.capturing).output = none := by
    intro notCapturing
    rw [child, notCapturing]
    rfl
  constructor
  · exact ((bears.status result (ResultText.parse_ofExitCode _)).run outside state).1
  · rw [← log_child rehearsal handle.capturing, ← log]
    exact (bears.log.run outside state).1
  · have answers := bears.output fun notCapturing => output.trans (uncaptured notCapturing)
    rw [output] at answers
    exact (answers.run outside state).1

/-- A rehearsed run and the controller agree.  The exit code is that of the last program that
ran, and without one it tells whether anything was raised; and in whatever sandbox with files
in memory the task was launched, after a run at a stretch, and also after a run with any
number of polls before its end, the controller answers that exit code, all lines that went
into the log, and all printed lines if the task captures them. -/
theorem run_agrees
    (rehearsal : Rehearsal)
    (script : TaskScript)
    (workspace : Workspace)
    (options : LaunchOptions)
    (answers : LaunchOrder → Except TaskFault Unit)
    (supply : Nat → UInt32)
    (world : World)
    (tree : world.storage.IsTree)
    (keeping : world.starter = .keeping)
    (isMemory : world.storage.IsMemory)
    (launched : Handle)
    (isLaunched :
      ((script.launch workspace (Launcher.answering answers) options).run.run
        (World.drawing supply) world).1 = .ok launched)
    (outside : Program.Handler State)
    (state : State)
    (polls : Nat) :
    rehearsal.exitCode =
        (match rehearsal.lastExit? with
        | some code => code
        | none => if rehearsal.events.any raises then 1 else 0) ∧
      ∃ memory,
        ((script.launch workspace (Launcher.answering answers) options).run.run
          (World.drawing supply) world).2.storage = .inMemory memory ∧
        rehearsal.Reports workspace script.capturing launched
          (rehearsal.complete workspace launched memory) outside state ∧
        let written := rehearsal.writeLog workspace launched memory
        let polled := (Handle.pollTimes workspace polls launched).run
          (Memory.respond outside) (written, state)
        rehearsal.Reports workspace script.capturing polled.1
          (rehearsal.finish workspace polled.1 polled.2.1) outside polled.2.2 := by
  refine ⟨rehearsal.exitCode_eq, ?_⟩
  obtain ⟨memory, inMemory⟩ := World.isMemory_run supply isMemory
    (script.launch workspace (Launcher.answering answers) options).run
  obtain ⟨orders, made, after, shows, ends, _⟩ :=
    script.ensures_launch workspace options answers supply tree keeping
  rw [isLaunched] at ends
  obtain rfl := shows.storage
  cases ends with
  | started claims answered =>
      rw [inMemory] at claims
      have capturing : launched.capturing = script.capturing :=
        congrArg Handle.capturing claims.attached
      have fresh : launched.Bears workspace memory fun _ => none :=
        ⟨claims.holds.directory, fun name member => claims.absent member⟩
      have freshThen : ∀ bytes, (launched.moved bytes).Bears workspace memory fun _ => none :=
        fun _ => ⟨fresh.directory, fresh.files⟩
      obtain ⟨bytes, after, polled⟩ := launched.run_pollTimes outside polls
        (rehearsal.writeLog workspace launched memory) state
      refine ⟨memory, inMemory, ?_, ?_⟩
      · rw [← capturing]
        exact reports_of_bears (bears_finish fresh claims.wellFormed)
      · intro written ended
        have same : ended = (launched.moved bytes, written, after) := polled
        rw [same, ← capturing]
        exact reports_of_bears (bears_finish (freshThen bytes) claims.wellFormed)

end Rehearsal

namespace RehearsalSample

/-- A failure, then an error, then a program that succeeds. -/
def rehearsal : Rehearsal :=
  ⟨[.print "a".toList, .exit 3, .raise "b".toList, .complain "é".toList, .print "c".toList,
    .exit 0]⟩

def workspace : Workspace :=
  ⟨Path.ofText "/w".toList⟩

def script : TaskScript :=
  ⟨"exit 0".toList, true⟩

def world : World :=
  World.new (.inMemory Memory.new) workspace.root

def launched : Handle :=
  Handle.attach (TaskId.ofWord 1) true

end RehearsalSample

open RehearsalSample in
/-- A success in the end makes up for the failure and the error before it. -/
theorem Rehearsal.run_agrees_sample :
    rehearsal.exitCode = 0 ∧
      ∃ memory : Memory,
        let ended := (rehearsal.complete workspace launched memory, Memory.new)
        ((launched.status workspace).run.run (Memory.respond Reply.calm.respond) ended).1 =
            .ok (.complete 0) ∧
          ((launched.log workspace).run.run (Memory.respond Reply.calm.respond) ended).1 =
            .ok [0x61, 0x0A, 0x62, 0x0A, 0xC3, 0xA9, 0x0A, 0x63, 0x0A] ∧
          ((launched.output workspace).run.run (Memory.respond Reply.calm.respond) ended).1 =
            .ok (some [0x61, 0x0A, 0x63, 0x0A]) := by
  have isTree : world.storage.IsTree := LaunchSample.isTree
  have isLaunched : ((script.launch workspace (Launcher.answering fun _ => .ok ())
      LaunchOptions.default).run.run (World.drawing fun _ => 1) world).1 = .ok launched := by
    decide +kernel
  obtain ⟨exits, memory, -, reports, -⟩ := run_agrees rehearsal script workspace
    LaunchOptions.default (fun _ => .ok ()) (fun _ => 1) world isTree rfl ⟨_, rfl⟩ launched
    isLaunched Reply.calm.respond Memory.new 3
  have exitCode : rehearsal.exitCode = 0 := exits
  have logged : ScriptEvent.logged rehearsal.events =
      [0x61, 0x0A, 0x62, 0x0A, 0xC3, 0xA9, 0x0A, 0x63, 0x0A] := by decide
  have printed : ScriptEvent.printed rehearsal.events = [0x61, 0x0A, 0x63, 0x0A] := by decide
  refine ⟨exitCode, memory, ?_, ?_, ?_⟩
  · rw [← exitCode]
    exact reports.status
  · rw [← logged]
    exact reports.log
  · rw [← printed]
    exact reports.output

end DetachedTasks
