import DetachedTasks.ExitSignals
import DetachedTasks.FileSystem.Memory
import DetachedTasks.Task.Handle

/-!
# Rehearsed runs

A rehearsed run plays the part of the child of a task on a file system in memory: it writes
the log, then the output file if the output is captured, and the result file last.
-/

namespace DetachedTasks

/-- Something that a script does. -/
inductive ScriptEvent where
  /-- Print a line. -/
  | print (line : Text)
  /-- Print a line of diagnostics. -/
  | complain (line : Text)
  /-- Raise an error that nobody in the script catches. -/
  | raise (message : Text)
  /-- Run a program that ends with an exit code. -/
  | exit (code : Int32)
  deriving Repr, DecidableEq

/-- What a script does, in order. -/
structure Rehearsal where
  events : List ScriptEvent
  deriving Repr, DecidableEq

namespace Rehearsal

/-- The line that an event puts into the log. -/
def logLine? : ScriptEvent → Option Text
  | .print line => some line
  | .complain line => some line
  | .raise message => some message
  | .exit _ => none

/-- The line that an event puts into the captured output. -/
def outputLine? : ScriptEvent → Option Text
  | .print line => some line
  | _ => none

/-- How an event changes the exit signals. -/
def signal
    (signals : ExitSignals) : ScriptEvent → ExitSignals
  | .exit code =>
      { signals with
        lastExitCode := some code
        succeeded := code = 0 }
  | .raise _ => { signals with errorCaught := true }
  | _ => signals

/-- The exit signals at the end of the run. -/
def signals (rehearsal : Rehearsal) : ExitSignals :=
  rehearsal.events.foldl signal
    { lastExitCode := none, succeeded := true, errorCaught := false }

/-- The exit code of the run. -/
def exitCode (rehearsal : Rehearsal) : Int32 :=
  rehearsal.signals.resolve

/-- A line of a file. -/
def lineBytes (line : Text) : Bytes :=
  Utf8.encode (line ++ ['\n'])

/-- Write the log, as a run that is still going on would. -/
def writeLog
    (rehearsal : Rehearsal)
    (workspace : Workspace)
    (handle : Handle)
    (memory : Memory) : Memory :=
  let log := handle.logFile workspace
  (rehearsal.events.filterMap logLine?).foldl
    (fun memory line => memory.append log (lineBytes line))
    (memory.append log [])

/-- Write the output file if the output is captured, and then the result file. -/
def finish
    (rehearsal : Rehearsal)
    (workspace : Workspace)
    (handle : Handle)
    (memory : Memory) : Memory :=
  let withOutput :=
    if handle.capturing then
      memory.addFile (handle.outputFile workspace)
        ((rehearsal.events.filterMap outputLine?).flatMap lineBytes)
    else
      memory
  withOutput.addFile (handle.resultFile workspace)
    (ResultText.ofExitCode rehearsal.exitCode)

/-- Run to the end. -/
def complete
    (rehearsal : Rehearsal)
    (workspace : Workspace)
    (handle : Handle)
    (memory : Memory) : Memory :=
  rehearsal.finish workspace handle (rehearsal.writeLog workspace handle memory)

end Rehearsal

end DetachedTasks
