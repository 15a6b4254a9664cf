import DetachedTasks.CommandLine
import DetachedTasks.Task.Launch
import DetachedTasks.Task.Poll

/-!
# The command line program

Each command reads the settings, opens the workspace and does one thing with one task.  The
exit code is that of the task for the commands that follow it, and zero for the others.
-/

namespace DetachedTasks.Application

/-- The script that a launch is asked for. -/
def scriptBody (arguments : LaunchArguments) : TaskProgram Text := do
  match arguments.file, arguments.inline with
  | some file, _ =>
      match ← TaskProgram.ask (.file (.readText file)) with
      | .ok text => pure text
      | .error (.system _ _ cause) => throw (.unreadableScript (some file) [cause.message])
      | .error cause => throw (.unreadableScript (some file) cause.messages)
  | none, some inline => pure inline
  | none, none => throw (.unreadableScript none [])

/-- The live log of a launched task: standard output if the task is followed, otherwise the
log events of this program.  A line that standard output does not take is passed over. -/
def announce
    (followed : Bool)
    (line : Text) : TaskProgram Unit := do
  if followed then
    let _ ← TaskProgram.ask (.print (Utf8.encode (line ++ ['\n'])))
  else
    TaskProgram.note .info

/-- Launch the script of a command.  A launch that is not followed ends right away, so nobody
would read what the child prints. -/
def launchTask
    (workspace : Workspace)
    (settings : Settings)
    (arguments : LaunchArguments)
    (followed : Bool) : TaskProgram Handle := do
  let body ← scriptBody arguments
  let script : TaskScript := { body, capturing := arguments.capture }
  let options : LaunchOptions :=
    { platform := arguments.platform.getD settings.platform
      environment := Environment.ofList arguments.environment
      relayOutput := followed && settings.launch.relayOutput }
  script.launch workspace (Launcher.onThisMachine (announce followed)) options

/-- Show the log of a task on standard output until the task ends, and answer with its exit
code.  The answer is nothing if the polls are used up first. -/
def follow
    (workspace : Workspace)
    (settings : Settings)
    (polls : Nat)
    (handle : Handle) : TaskProgram (Option Int32) := do
  let outcome ← ExceptT.lift (handle.wait workspace settings.pollOptions polls)
  match outcome.verdict with
  | .error fault => throw fault
  | .ok none => pure none
  | .ok (some result) => do
      if result.output.isSome then
        TaskProgram.note .debug
      pure (some result.exitCode)

/-- Do what a command asks for. -/
def perform
    (workspace : Workspace)
    (settings : Settings)
    (polls : Nat)
    (command : Command) : TaskProgram (Option Int32) := do
  match command with
  | .launch arguments => do
      let handle ← launchTask workspace settings arguments false
      handle.save workspace
      TaskProgram.printLine handle.id
      pure (some 0)
  | .run arguments => do
      let handle ← launchTask workspace settings arguments true
      handle.save workspace
      follow workspace settings polls handle
  | .status id => do
      let handle ← Handle.load workspace id
      match ← handle.status workspace with
      | .running => TaskProgram.printLine "running".toList
      | .complete code =>
          TaskProgram.printLine ("complete ".toList ++ Text.integer code.toInt)
      pure (some 0)
  | .log id => do
      let handle ← Handle.load workspace id
      let log ← handle.log workspace
      TaskProgram.print log
      pure (some 0)
  | .output id => do
      let handle ← Handle.load workspace id
      match ← handle.output workspace with
      | none => throw .noOutput
      | some output => TaskProgram.print output
      pure (some 0)
  | .wait id => do
      let handle ← Handle.load workspace id
      follow workspace settings polls handle
  | .cleanup id => do
      let handle ← Handle.load workspace id
      handle.cleanup workspace
      pure (some 0)

/-- Run a command line with at most the given number of polls. -/
def run
    (polls : Nat)
    (invocation : Invocation) : TaskProgram (Option Int32) := do
  let settings ← Settings.loadOrDefault invocation.settings
  let workspace ← Workspace.openAt invocation.workspace
  TaskProgram.note .debug
  perform workspace settings polls invocation.command

/-- The exit status that a parent process sees: only the low eight bits of an exit code
arrive. -/
def exitStatus (code : Int32) : UInt8 :=
  code.toUInt32.toUInt8

/-- The exit status of a run that ended with a fault. -/
def failureStatus : UInt8 := 1

/-- The exit status of a run. -/
def statusOf : Except TaskFault (Option Int32) → UInt8
  | .ok code => exitStatus (code.getD 0)
  | .error _ => failureStatus

/-- The exit status of a command line that was refused. -/
def usageStatus : UInt8 := 2

/-- One cause of a fault, with its number if there are several. -/
def causeLine
    (several : Bool)
    (index : Nat)
    (cause : Text) : Text :=
  if several then
    let number := Text.natural index
    List.replicate (5 - number.length) ' ' ++ number ++ ": ".toList ++ cause ++ ['\n']
  else
    "    ".toList ++ cause ++ ['\n']

/-- What is printed for a fault: the fault itself, and below it its causes. -/
def report (fault : TaskFault) : Text :=
  let outline :=
    match fault.messages with
    | [] => ['\n']
    | [message] => message ++ ['\n']
    | message :: causes =>
        message ++ "\n\nCaused by:\n".toList
          ++ causes.zipIdx.flatMap fun cause =>
              causeLine (1 < causes.length) cause.2 cause.1
  "durabletask error: ".toList ++ outline

end DetachedTasks.Application
