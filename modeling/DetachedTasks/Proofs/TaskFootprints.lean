import DetachedTasks.Proofs.Footprints
import DetachedTasks.Proofs.TaskQueries
import DetachedTasks.Task.Launch
import DetachedTasks.Task.Poll

/-!
# What the operations of tasks ask for

Each operation asks for a few paths of its own task and for nothing else among the files.
Which paths these are is said here once, for any terms: whatever terms admit them are met.
-/

namespace DetachedTasks

/-- To stay away from all files. -/
def Terms.outside : Terms where
  allowed := fun
    | .file _ => False
    | _ => True
  fair := fun _ _ => True

/-- A call that only looks at a path. -/
def FileCall.LooksAt (path : Path) : FileCall → Prop
  | .readText other => other = path
  | .read other => other = path
  | .readFrom other _ => other = path
  | .exists other => other = path
  | .isFile other => other = path
  | .isDirectory other => other = path
  | _ => False

/-- Terms that admit whatever is no file call, and every look at some paths. -/
structure Terms.Serves
    (terms : Terms)
    (paths : List Path) : Prop where
  outside : ∀ request, Terms.outside.allowed request → terms.allowed request
  look : ∀ path ∈ paths, ∀ call : FileCall, call.LooksAt path → terms.allowed (.file call)

/-- A launcher does not touch files; it is the process that it starts that will. -/
def Launcher.IsOutside (launcher : Launcher) : Prop :=
  ∀ order, (launcher order).Keeps Terms.outside

/-- The paths that the operations on a task look at. -/
def Handle.watched
    (handle : Handle)
    (workspace : Workspace) : List Path :=
  [handle.directory workspace, handle.resultFile workspace, handle.logFile workspace,
    handle.outputFile workspace, workspace.handleFile handle.id]

open TaskProgram

/-- A launcher that only hands its order over asks for nothing but that. -/
theorem Launcher.handOver_isOutside : Launcher.handOver.IsOutside := by
  intro order
  refine Meets.ask trivial ?_
  intro answer _
  cases answer with
  | error cause => exact Meets.throw _
  | ok done => exact Meets.pure trivial

/-- A launcher on this machine touches no files, if what it announces does not. -/
theorem Launcher.onThisMachine_isOutside
    {announce : Text → TaskProgram Unit}
    (outside : ∀ banner, (announce banner).Keeps Terms.outside) :
    (Launcher.onThisMachine announce).IsOutside := by
  intro order
  refine Meets.bind (outside order.banner) fun _ _ => ?_
  refine Meets.bind (handOver_isOutside order) fun _ _ => ?_
  exact Meets.ask_last trivial

namespace Terms.Serves

variable {terms : Terms} {workspace : Workspace} {handle : Handle}

/-- What never touches files is admitted. -/
theorem of_outside
    {paths : List Path}
    (serves : terms.Serves paths)
    {promise : α → Prop}
    {program : Program α}
    (meets : program.Meets Terms.outside promise) :
    program.Meets terms promise :=
  meets.weaken serves.outside (fun _ _ _ => trivial) (fun _ kept => kept)

/-! ### Reading -/

/-- Requiring the control directory looks at a path that is watched. -/
theorem requireDirectory
    (serves : terms.Serves (handle.watched workspace)) :
    (handle.requireDirectory workspace).Keeps terms := by
  refine Meets.ask (serves.look _ (by simp [Handle.watched]) _ rfl) ?_
  intro stands _
  cases stands with
  | true => exact Meets.pure trivial
  | false => exact Meets.throw _

/-- A question about one file looks at the control directory and at this file. -/
theorem lookFor
    (serves : terms.Serves (handle.watched workspace))
    {file : Path}
    (member : file ∈ handle.watched workspace)
    {promise : α → Prop}
    {found missing : TaskProgram α}
    (keepsFound : found.Meets terms promise)
    (keepsMissing : missing.Meets terms promise) :
    (handle.lookFor workspace file found missing).Meets terms promise := by
  refine Meets.bind serves.requireDirectory fun _ _ => ?_
  refine Meets.ask (serves.look _ member _ rfl) ?_
  intro isThere _
  cases isThere with
  | true => exact keepsFound
  | false => exact keepsMissing

/-- The status is a look at the control directory and at the result. -/
theorem status
    (serves : terms.Serves (handle.watched workspace)) :
    (handle.status workspace).Keeps terms := by
  have member : handle.resultFile workspace ∈ handle.watched workspace := by
    simp [Handle.watched]
  rw [Handle.status_eq]
  apply serves.lookFor member _ (Meets.pure trivial)
  refine Meets.bind (Meets.call (serves.look _ member _ rfl)) fun held _ => ?_
  rw [ResultText.readStatus]
  cases ResultText.parse held with
  | error text => exact Meets.throw _
  | ok code =>
      cases code with
      | none => exact Meets.ask (serves.outside _ trivial) fun _ _ => Meets.pure trivial
      | some code => exact Meets.ask (serves.outside _ trivial) fun _ _ => Meets.pure trivial

/-- What is handed on goes to the sink and to no file. -/
theorem deliver
    {paths : List Path}
    (serves : terms.Serves paths)
    (chunk : Bytes) :
    (Handle.deliver chunk).Keeps terms := by
  refine Meets.ask (serves.outside _ trivial) ?_
  intro delivered _
  cases delivered with
  | error cause => exact Meets.throw _
  | ok done =>
      refine Meets.ask (serves.outside _ trivial) ?_
      intro flushed _
      cases flushed with
      | error cause => exact Meets.throw _
      | ok done => exact Meets.pure trivial

/-- A copy of new log answers with a handle on the same task. -/
theorem copyLog
    (serves : terms.Serves (handle.watched workspace)) :
    (handle.copyLog workspace).Meets terms fun copied => copied.2.id = handle.id := by
  have member : handle.logFile workspace ∈ handle.watched workspace := by
    simp [Handle.watched]
  rw [Handle.copyLog_eq]
  refine serves.lookFor member ?_ ?_
  · refine Meets.bind (Meets.call (serves.look _ member _ rfl)) fun chunk _ => ?_
    split
    · exact Meets.pure rfl
    · exact Meets.bind (serves.deliver chunk) fun _ _ => Meets.pure rfl
  · exact Meets.pure rfl

/-- The log is a look at the control directory and at the log. -/
theorem log
    (serves : terms.Serves (handle.watched workspace)) :
    (handle.log workspace).Keeps terms := by
  have member : handle.logFile workspace ∈ handle.watched workspace := by
    simp [Handle.watched]
  rw [Handle.log_eq]
  exact serves.lookFor member (Meets.call (serves.look _ member _ rfl)) (Meets.pure trivial)

/-- The output is a look at the control directory and at the output file. -/
theorem output
    (serves : terms.Serves (handle.watched workspace)) :
    (handle.output workspace).Keeps terms := by
  have member : handle.outputFile workspace ∈ handle.watched workspace := by
    simp [Handle.watched]
  rw [Handle.output_eq]
  split
  · apply serves.lookFor member _ (Meets.pure trivial)
    exact Meets.bind (Meets.call (serves.look _ member _ rfl)) fun _ _ => Meets.pure trivial
  · exact Meets.pure trivial

/-- A handle with another offset looks at the same paths. -/
theorem moved
    (serves : terms.Serves (handle.watched workspace))
    {other : Handle}
    (same : other.id = handle.id) :
    terms.Serves (other.watched workspace) := by
  rcases other with ⟨id, capturing, logOffset⟩
  simp only at same
  subst same
  exact serves

/-- A poll looks at the files of its task and hands log on. -/
theorem poll
    (serves : terms.Serves (handle.watched workspace)) :
    (handle.poll workspace).Meets terms fun _ => True := by
  refine Program.Meets.bind serves.copyLog fun copied kept => ?_
  cases copied with
  | error fault => trivial
  | ok pair =>
      rcases pair with ⟨progressed, next⟩
      have serves := serves.moved (kept _ rfl)
      refine Program.Meets.bind serves.status fun status _ => ?_
      cases status with
      | error fault => trivial
      | ok status =>
          cases status with
          | running => trivial
          | complete code =>
              refine Program.Meets.bind serves.copyLog fun copied kept => ?_
              cases copied with
              | error fault => trivial
              | ok pair =>
                  rcases pair with ⟨more, last⟩
                  have serves := serves.moved (kept _ rfl)
                  refine Program.Meets.bind serves.output fun output _ => ?_
                  cases output with
                  | error fault => trivial
                  | ok output => exact ⟨serves.outside _ trivial, fun _ _ => trivial⟩

/-- What is loaded keeps a promise that the saved handle keeps, and a fresh one too. -/
theorem load_of_fair
    {id : Text}
    (serves : terms.Serves [workspace.handleFile id])
    {promise : Handle → Prop}
    (saved : ∀ reply, terms.fair (.file (.readText (workspace.handleFile id))) reply →
      ∀ text loaded, reply = .ok text → Handle.ofToml text = .ok loaded → promise loaded)
    (fresh : promise (Handle.attach id false)) :
    (Handle.load workspace id).Meets terms promise := by
  have look := serves.look _ List.mem_cons_self
  refine Meets.ask (look _ rfl) ?_
  intro found _
  cases found with
  | false => exact Meets.ask (serves.outside _ trivial) fun _ _ => Meets.pure fresh
  | true =>
      have kept :
          (TaskProgram.readText (workspace.handleFile id)).Meets terms fun text =>
            ∀ loaded, Handle.ofToml text = .ok loaded → promise loaded :=
        Meets.call_of_fair (look _ rfl) fun reply fair text same loaded read =>
          saved reply fair text loaded same read
      refine Meets.bind kept fun text promised => ?_
      cases read : Handle.ofToml text with
      | error cause => exact Meets.throw _
      | ok loaded => exact Meets.pure (promised loaded read)

/-- To load a handle is a look at where it is saved. -/
theorem load
    {id : Text}
    (serves : terms.Serves [workspace.handleFile id]) :
    (Handle.load workspace id).Keeps terms :=
  serves.load_of_fair (fun _ _ _ _ _ _ => trivial) trivial

/-! ### Writing -/

/-- To save a handle is one write, just where it is saved. -/
theorem save
    {paths : List Path}
    (serves : terms.Serves paths)
    (writes : terms.allowed
      (.file (.write (workspace.handleFile handle.id) (Utf8.encode handle.toToml)))) :
    (handle.save workspace).Keeps terms := by
  refine Meets.bind (Meets.call writes) fun _ _ => ?_
  exact Meets.ask_last (serves.outside _ trivial)

/-- A cleanup looks, removes the saved handle and removes the control directory. -/
theorem cleanup
    (serves : terms.Serves (handle.watched workspace))
    (removesHandle : terms.allowed (.file (.removeFile (workspace.handleFile handle.id))))
    (removesDirectory : terms.allowed (.file (.removeTree (handle.directory workspace)))) :
    (handle.cleanup workspace).Keeps terms := by
  have removed : TaskProgram.Keeps terms (do
      if ← TaskProgram.isDirectory (handle.directory workspace) then
        TaskProgram.removeTree (handle.directory workspace)
        TaskProgram.note .info
      else
        TaskProgram.note .warn) := by
    refine Meets.ask (serves.look _ (by simp [Handle.watched]) _ rfl) ?_
    intro stands _
    cases stands with
    | false => exact Meets.ask_last (serves.outside _ trivial)
    | true =>
        refine Meets.bind (Meets.call removesDirectory) fun _ _ => ?_
        exact Meets.ask_last (serves.outside _ trivial)
  refine Meets.ask (serves.look _ (by simp [Handle.watched]) _ rfl) ?_
  intro saved _
  cases saved with
  | false => exact removed
  | true => exact Meets.bind (Meets.call removesHandle) fun _ _ => removed

/-! ### Launching -/

/-- A claim tries the names of the numbers it is given, and answers with one that it
made. -/
theorem claim
    {paths : List Path}
    (serves : terms.Serves paths)
    {promise : Text → Prop}
    (creates : ∀ word, terms.fair .freshWord word →
      terms.allowed (.file (.createDirectory (workspace.controlDirectory (TaskId.ofWord word)))))
    (kept : ∀ word, terms.fair .freshWord word →
      terms.fair (.file (.createDirectory (workspace.controlDirectory (TaskId.ofWord word))))
        (.ok true) →
      promise (TaskId.ofWord word))
    (count : Nat) :
    (workspace.claim count).Meets terms promise := by
  induction count with
  | zero => exact Meets.throw _
  | succ count inductionHypothesis =>
      refine Meets.ask (serves.outside _ trivial) ?_
      intro word fair
      let path := workspace.controlDirectory (TaskId.ofWord word)
      have made : (TaskProgram.createDirectory path).Meets terms
          fun made => made = true → promise (TaskId.ofWord word) := by
        refine Meets.call_of_fair (creates word fair) ?_
        intro reply fairReply made answered isMade
        subst isMade
        have isTrue : reply = .ok true := answered
        exact kept word fair (isTrue ▸ fairReply)
      refine Meets.bind made fun made kept => ?_
      refine Meets.ask (serves.outside _ trivial) fun _ _ => ?_
      cases made with
      | true => exact Meets.pure (kept rfl)
      | false => exact inductionHypothesis

/-- The names of the scripts of a task. -/
theorem writeFiles
    {paths : List Path}
    (serves : terms.Serves paths)
    (writes : ∀ name ∈ [Handle.helperName, Handle.scriptName, Handle.wrapperName],
      ∀ content, terms.allowed (.file (.write (handle.file workspace name) content)))
    (script : TaskScript)
    (interpreter : Interpreter) :
    (script.writeFiles workspace handle interpreter).Keeps terms := by
  refine Meets.bind (Meets.call (writes _ (by simp) _)) fun _ _ => ?_
  refine Meets.bind (Meets.call (writes _ (by simp) _)) fun _ _ => ?_
  refine Meets.bind (Meets.call (writes _ (by simp) _)) fun _ _ => ?_
  exact Meets.ask (serves.outside _ trivial) fun _ _ => Meets.pure trivial

/-- The start of a process, and the log event for its failure, are outside of the files. -/
theorem start
    {paths : List Path}
    (serves : terms.Serves paths)
    {launcher : Launcher}
    (outside : launcher.IsOutside)
    (order : LaunchOrder) :
    TaskProgram.Keeps terms
      (tryCatch (launcher order) fun cause => do
        TaskProgram.note .error
        throw cause) :=
  Meets.tryCatch (serves.of_outside (outside order)) fun _ =>
    Meets.ask (serves.outside _ trivial) fun _ _ => Meets.throw _

/-- A launch writes its scripts below the name that it has claimed, and answers with a fresh
handle on it. -/
theorem launch_attached
    {paths : List Path}
    (serves : terms.Serves paths)
    {promise : Text → Prop}
    (allocates : workspace.allocate.Meets terms promise)
    (writes : ∀ handle : Handle, promise handle.id →
      ∀ name ∈ [Handle.helperName, Handle.scriptName, Handle.wrapperName],
      ∀ content, terms.allowed (.file (.write (handle.file workspace name) content)))
    (script : TaskScript)
    {launcher : Launcher}
    (outside : launcher.IsOutside)
    (options : LaunchOptions) :
    (script.launch workspace launcher options).Meets terms fun handle =>
      promise handle.id ∧ handle = Handle.attach handle.id script.capturing := by
  refine Meets.bind allocates fun id promised => ?_
  refine Meets.bind (serves.writeFiles (writes (Handle.attach id _) promised) script _)
    fun _ _ => ?_
  refine Meets.bind (serves.start outside _) fun _ _ => ?_
  exact Meets.ask (serves.outside _ trivial) fun _ _ => Meets.pure ⟨promised, rfl⟩

/-- A launch allocates a directory, writes scripts into it, starts the process, and touches no
other file. -/
theorem launch
    {paths : List Path}
    (serves : terms.Serves paths)
    {promise : Text → Prop}
    (allocates : workspace.allocate.Meets terms promise)
    (writes : ∀ handle : Handle, promise handle.id →
      ∀ name ∈ [Handle.helperName, Handle.scriptName, Handle.wrapperName],
      ∀ content, terms.allowed (.file (.write (handle.file workspace name) content)))
    (script : TaskScript)
    {launcher : Launcher}
    (outside : launcher.IsOutside)
    (options : LaunchOptions) :
    (script.launch workspace launcher options).Keeps terms :=
  Program.Meets.weaken (serves.launch_attached allocates writes script outside options)
    (fun _ allowed => allowed) (fun _ _ fair => fair) fun _ _ _ _ => trivial

end Terms.Serves

end DetachedTasks
