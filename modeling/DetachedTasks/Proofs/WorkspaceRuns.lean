import DetachedTasks.Proofs.LaunchedTasks
import DetachedTasks.Rehearsal

/-!
# Runs of a workspace

Controllers of one task, its child, and other tasks work on the same files in memory.  Every
operation goes on one request at a time, in any order with the requests of the others; only
a look at the status and the cleanup of the task are single moments, so that it can be said
what comes before them and what comes after.  A look that is spread over several moments
answers the same as long as the task stays in one phase.
-/

namespace DetachedTasks

/-- A task in a workspace, and the exit code that its child will write. -/
structure Scenario where
  workspace : Workspace
  id : Text
  code : Int32
  deriving Repr

namespace Scenario

/-- The control directory of the task. -/
def directory (scenario : Scenario) : Path :=
  scenario.workspace.controlDirectory scenario.id

/-- What stands at the control directory of the task and at its result. -/
def view
    (scenario : Scenario)
    (memory : Memory) : Option Entry × Option Entry :=
  scenario.workspace.view scenario.id memory

theorem view_eq_look
    (scenario : Scenario)
    (memory : Memory) :
    scenario.view memory =
      ((Sandbox.Storage.inMemory memory).look scenario.directory,
        (Sandbox.Storage.inMemory memory).look
          (scenario.directory.joinText Handle.resultName)) := rfl

/-- A handle on the task. -/
def handle
    (scenario : Scenario)
    (capturing : Bool)
    (logOffset : UInt64) : Handle :=
  { id := scenario.id, capturing, logOffset }

end Scenario

/-- Let the child do something to the files in memory. -/
def Deed.performIn
    (directory : Path)
    (memory : Memory)
    (deed : Deed) : Memory :=
  let path := directory.joinText deed.fileName
  (memory.answer
    (.write path (deed.change ((Sandbox.Storage.inMemory memory).content path)))).2

theorem Deed.perform_inMemory
    (directory : Path)
    (memory : Memory)
    (deed : Deed) :
    deed.perform directory (.inMemory memory) = .inMemory (deed.performIn directory memory) :=
  rfl

/-- An operation of a controller, of the task or of another one. -/
inductive Operation where
  | status (handle : Handle)
  | copyLog (handle : Handle)
  | log (handle : Handle)
  | output (handle : Handle)
  | poll (handle : Handle)
  | save (handle : Handle)
  | load (id : Text)
  | launch (script : TaskScript) (launcher : Launcher) (options : LaunchOptions)
  | cleanup (handle : Handle)

namespace Operation

/-- What is done in an operation; what it answers is left aside. -/
def program
    (workspace : Workspace) : Operation → Program Unit
  | .status handle => (handle.status workspace).run.bind fun _ => .done ()
  | .copyLog handle => (handle.copyLog workspace).run.bind fun _ => .done ()
  | .log handle => (handle.log workspace).run.bind fun _ => .done ()
  | .output handle => (handle.output workspace).run.bind fun _ => .done ()
  | .poll handle => (handle.poll workspace).bind fun _ => .done ()
  | .save handle => (handle.save workspace).run.bind fun _ => .done ()
  | .load id => (Handle.load workspace id).run.bind fun _ => .done ()
  | .launch script launcher options =>
      (script.launch workspace launcher options).run.bind fun _ => .done ()
  | .cleanup handle => (handle.cleanup workspace).run.bind fun _ => .done ()

/-- Whatever reads is admitted on every task; what is saved is a handle on some task; and
another task only is cleaned up. -/
def IsAdmitted (id : Text) : Operation → Prop
  | .save handle => TaskId.isWellFormed handle.id = true
  | .launch _ launcher _ => launcher.IsOutside
  | .cleanup handle => TaskId.isWellFormed handle.id = true ∧ handle.id ≠ id
  | _ => True

end Operation

/-- What happens in a workspace. -/
inductive Event where
  /-- The child of the task adds to the log. -/
  | append (chunk : Bytes)
  /-- The child writes the captured output. -/
  | capture (content : Bytes)
  /-- The child writes the result. -/
  | finish
  /-- A controller of the task looks at its status. -/
  | look (capturing : Bool) (logOffset : UInt64)
  /-- An operation begins. -/
  | start (operation : Operation)
  /-- An operation goes on with its next request. -/
  | resume (index : Nat) (reply : Reply)
  /-- Another task is played, up to the end of its log. -/
  | playLog (rehearsal : Rehearsal) (handle : Handle)
  /-- Another task is played, from there to its end. -/
  | playEnd (rehearsal : Rehearsal) (handle : Handle)
  /-- The task is cleaned up. -/
  | cleanup (capturing : Bool) (logOffset : UInt64)

namespace Event

/-- What is started is admitted, the id of the task is not generated again, and only other
tasks are played. -/
def IsFair (id : Text) : Event → Prop
  | .start operation => operation.IsAdmitted id
  | .resume _ reply => TaskId.ofWord reply.word ≠ id
  | .playLog _ handle => TaskId.isWellFormed handle.id = true ∧ handle.id ≠ id
  | .playEnd _ handle => TaskId.isWellFormed handle.id = true ∧ handle.id ≠ id
  | _ => True

def isLook : Event → Bool
  | .look _ _ => true
  | _ => false

def isCleanup : Event → Bool
  | .cleanup _ _ => true
  | _ => false

/-- The task does not stay as it is: it gets its result, or it is cleaned up. -/
def isTurn : Event → Bool
  | .finish => true
  | .cleanup _ _ => true
  | _ => false

end Event

/-- How many looks there are among some events. -/
def looks (events : List Event) : Nat :=
  events.countP Event.isLook

/-- What there is at one moment. -/
structure Site where
  memory : Memory
  /-- What is left of the operations that were started. -/
  running : List (Program Unit)
  /-- What the looks at the status have answered, in order. -/
  answers : List (Except TaskFault Status)

namespace Site

/-- The moment after a launch. -/
def ofMemory (memory : Memory) : Site :=
  { memory, running := [], answers := [] }

/-- Let one thing happen. -/
def step
    (scenario : Scenario)
    (site : Site) : Event → Site
  | .append chunk =>
      { site with
        memory := (Deed.log chunk).performIn scenario.directory site.memory }
  | .capture content =>
      { site with
        memory := (Deed.output content).performIn scenario.directory site.memory }
  | .finish =>
      { site with
        memory :=
          (Deed.result (ResultText.ofExitCode scenario.code)).performIn scenario.directory
            site.memory }
  | .look capturing logOffset =>
      let (answer, memory) :=
        ((scenario.handle capturing logOffset).status scenario.workspace).run.run
          Reply.calm.respond site.memory
      { site with memory, answers := site.answers ++ [answer] }
  | .start operation =>
      { site with running := site.running ++ [operation.program scenario.workspace] }
  | .resume index reply =>
      match site.running[index]? with
      | none => site
      | some program =>
          let (rest, memory) := program.next reply site.memory
          { site with memory, running := site.running.set index rest }
  | .playLog rehearsal handle =>
      { site with memory := rehearsal.writeLog scenario.workspace handle site.memory }
  | .playEnd rehearsal handle =>
      { site with memory := rehearsal.finish scenario.workspace handle site.memory }
  | .cleanup capturing logOffset =>
      { site with
        memory :=
          (((scenario.handle capturing logOffset).cleanup scenario.workspace).run.run
            Reply.calm.respond site.memory).2 }

/-- Let several things happen, one after another. -/
def run
    (scenario : Scenario)
    (site : Site)
    (events : List Event) : Site :=
  events.foldl (step scenario) site

end Site

end DetachedTasks
