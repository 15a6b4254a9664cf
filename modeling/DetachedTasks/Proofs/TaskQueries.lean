import DetachedTasks.Task.Handle

/-!
# Questions about the files of a task

Every question of a handle requires the control directory and then looks for one file in it.
Where the file is there the question goes on with what it holds, and where it is not there
yet the answer is known.
-/

namespace DetachedTasks

/-- What went wrong, if anything did. -/
def TaskFault.of? : Except TaskFault α → Option TaskFault
  | .ok _ => none
  | .error fault => some fault

namespace ResultText

/-- What a status says that was read from a result file. -/
def statusOf
    (file : Path)
    (held : Bytes) : Except TaskFault Status :=
  match parse held with
  | .error text => .error (.corruptResult file text)
  | .ok (some code) => .ok (.complete code)
  | .ok none => .ok .running

/-- What a look at the result does with what it has read. -/
def readStatus
    (file : Path)
    (held : Bytes) : TaskProgram Status :=
  match parse held with
  | .error text => throw (.corruptResult file text)
  | .ok (some code) => do
      TaskProgram.note .debug
      pure (.complete code)
  | .ok none => do
      TaskProgram.note .debug
      pure .running

end ResultText

namespace Handle

variable (handle : Handle) (workspace : Workspace)

/-- Go on one way if a file of the task is there, and another way if it is not. -/
def lookFor
    (file : Path)
    (found missing : TaskProgram α) : TaskProgram α := do
  handle.requireDirectory workspace
  if ← TaskProgram.exists? file then
    found
  else
    missing

/-- What a copy of new log does once it knows that there is a log. -/
def copyFound : TaskProgram (Bool × Handle) := do
  let chunk ← TaskProgram.readFrom (handle.logFile workspace) handle.logOffset
  if chunk.isEmpty then
    pure (false, handle)
  else
    deliver chunk
    pure (true, { handle with logOffset := handle.logOffset + chunk.length.toUInt64 })

theorem status_eq :
    handle.status workspace =
      handle.lookFor workspace (handle.resultFile workspace)
        (TaskProgram.read (handle.resultFile workspace) >>=
          ResultText.readStatus (handle.resultFile workspace))
        (pure .running) := rfl

theorem copyLog_eq :
    handle.copyLog workspace =
      handle.lookFor workspace (handle.logFile workspace) (handle.copyFound workspace)
        (pure (false, handle)) := rfl

theorem log_eq :
    handle.log workspace =
      handle.lookFor workspace (handle.logFile workspace)
        (TaskProgram.read (handle.logFile workspace)) (pure []) := rfl

theorem output_eq :
    handle.output workspace =
      if handle.capturing then
        handle.lookFor workspace (handle.outputFile workspace)
          (TaskProgram.read (handle.outputFile workspace) >>= fun held => pure (some held))
          (pure none)
      else
        pure none := rfl

end Handle

end DetachedTasks
