import DetachedTasks.Script.Text
import DetachedTasks.Task.Handle

/-!
# Launching tasks

To launch a task is to claim a control directory, to write three scripts into it, and to hand
a launch order to whoever starts processes.  A fault at any point means that the task never
ran and that no result will appear; what was written until then is left where it is.
-/

namespace DetachedTasks

/-- A script of the user. -/
structure TaskScript where
  body : Text
  /-- The output goes into a file of its own as well. -/
  capturing : Bool
  deriving Repr, DecidableEq

/-- What may differ from launch to launch. -/
structure LaunchOptions where
  platform : Platform
  environment : Environment
  relayOutput : Bool
  deriving Repr, DecidableEq

/-- The options that hold where nothing else is said. -/
def LaunchOptions.default : LaunchOptions :=
  { platform := Platform.host
    environment := Environment.empty
    relayOutput := true }

/-- The three files that are written for a task. -/
structure ScriptFiles where
  helper : Path
  script : Path
  wrapper : Path
  deriving Repr, DecidableEq

/-- Something that takes launch orders. -/
abbrev Launcher := LaunchOrder → TaskProgram Unit

namespace Launcher

/-- Hand an order to the world outside. -/
def handOver : Launcher := fun order => do
  match ← TaskProgram.ask (.start order) with
  | .error cause => throw (.launchFailed order.program cause)
  | .ok () => pure ()

/-- Start the process on this machine.  The live log shows the banner first, also if the
start fails then. -/
def onThisMachine (announce : Text → TaskProgram Unit) : Launcher := fun order => do
  announce order.banner
  handOver order
  TaskProgram.note .info

end Launcher

namespace TaskScript

/-! ### Written form -/

/-- The script as a document in TOML. -/
def toToml (script : TaskScript) : Text :=
  Toml.Writer.line "script".toList (Toml.Writer.string script.body)
    ++ Toml.Writer.line "capturing_output".toList (Toml.Writer.boolean script.capturing)

/-- The fields of a script in its written form. -/
def fields : List Text :=
  ["script".toList, "capturing_output".toList]

/-- Read one field; an unknown one is passed over. -/
def readField
    (draft : Option Text × Bool)
    (name : Text)
    (value : Toml.Value) : Except Toml.Misfit (Option Text × Bool) :=
  if name = "script".toList then do
    let body ← value.readText
    pure (some body, draft.2)
  else if name = "capturing_output".toList then do
    let capturing ← value.readBoolean
    pure (draft.1, capturing)
  else
    value.skip draft

/-- The script in a table. -/
def ofValue (table : Toml.Value) : Except Toml.Misfit TaskScript := do
  match ← table.readRecord "PowershellScript".toList fields (none, false) readField with
  | (none, _) => .error (.missingField "script".toList)
  | (some body, capturing) => pure { body, capturing }

/-- The script in a document. -/
def ofToml (text : Text) : Except Toml.Fault TaskScript :=
  match Toml.read? text with
  | none => .error .malformed
  | some table => (ofValue table).mapError .misfit

/-! ### Launching -/

/-- Write the helper library, the script and the wrapper into the control directory.  The
script keeps its own line ends. -/
def writeFiles
    (script : TaskScript)
    (workspace : Workspace)
    (handle : Handle)
    (interpreter : Interpreter) : TaskProgram ScriptFiles := do
  let helper := Script.helper interpreter
  let wrapper := Script.wrapper interpreter (handle.scriptFile workspace)
  TaskProgram.write (handle.helperFile workspace) (interpreter.encode helper)
  TaskProgram.write (handle.scriptFile workspace) (interpreter.encode script.body)
  TaskProgram.write (handle.wrapperFile workspace) (interpreter.encode wrapper)
  TaskProgram.note .debug
  pure
    { helper := handle.helperFile workspace
      script := handle.scriptFile workspace
      wrapper := handle.wrapperFile workspace }

/-- The paths that the command of a task names. -/
def commandPaths
    (script : TaskScript)
    (workspace : Workspace)
    (handle : Handle) : Script.CommandPaths :=
  { helper := handle.helperFile workspace
    wrapper := handle.wrapperFile workspace
    log := handle.logFile workspace
    result := handle.resultFile workspace
    output := if script.capturing then some (handle.outputFile workspace) else none }

/-- The arguments for the interpreter: its flags, and then the command of the task. -/
def arguments
    (script : TaskScript)
    (workspace : Workspace)
    (handle : Handle)
    (interpreter : Interpreter) : List Text :=
  interpreter.flags
    ++ ["-Command".toList, Script.command (script.commandPaths workspace handle)]

/-- The order that starts a task. -/
def order
    (script : TaskScript)
    (workspace : Workspace)
    (handle : Handle)
    (options : LaunchOptions) : LaunchOrder :=
  { task := handle.id
    program := options.platform.interpreter.program
    arguments := script.arguments workspace handle options.platform.interpreter
    directory := workspace.root
    environment := options.environment
    relayOutput := options.relayOutput
    banner := "[".toList ++ workspace.name ++ "] Running PowerShell script".toList }

/-- Launch the script as a task; the answer is a handle on it. -/
def launch
    (script : TaskScript)
    (workspace : Workspace)
    (launcher : Launcher)
    (options : LaunchOptions) : TaskProgram Handle := do
  let id ← workspace.allocate
  let handle := Handle.attach id script.capturing
  let _ ← script.writeFiles workspace handle options.platform.interpreter
  tryCatch
    (launcher (script.order workspace handle options))
    (fun cause => do
      TaskProgram.note .error
      throw cause)
  TaskProgram.note .info
  pure handle

end TaskScript

end DetachedTasks
