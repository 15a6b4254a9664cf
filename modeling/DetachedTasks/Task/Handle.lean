import DetachedTasks.Task.Result
import DetachedTasks.Toml.Reader
import DetachedTasks.Toml.Writer
import DetachedTasks.Workspace

/-!
# Handles

A handle names the control directory of one task and nothing else: no process, no open file.
All paths follow from the workspace it is used with, so it outlives the supervising process.
It can be saved beside the control directory and loaded again later.

Only the result file tells that a task is complete.  As long as it is missing the task may be
running, or it may have died; the two cannot be told apart here.
-/

namespace DetachedTasks

/-- What a look at the control directory says about a task. -/
inductive Status where
  /-- There is no result yet. -/
  | running
  /-- The task ended with this exit code. -/
  | complete (code : Int32)
  deriving Repr, DecidableEq

/-- The exit code of a complete task. -/
def Status.exitCode? : Status → Option Int32
  | .running => none
  | .complete code => some code

/-- A handle on one task. -/
structure Handle where
  /-- The name of the control directory. -/
  id : Text
  /-- The output of the task is captured. -/
  capturing : Bool
  /-- How many bytes of the log were handed on already. -/
  logOffset : UInt64
  deriving Repr, DecidableEq

namespace Handle

/-- A handle on the task with the given id, none of whose log was handed on. -/
def attach
    (id : Text)
    (capturing : Bool) : Handle :=
  { id, capturing, logOffset := 0 }

/-! ### Files of a task -/

/-- The name of the file with the script of the user. -/
def scriptName : Text := "powershellScript.ps1".toList

/-- The name of the file with the helper library. -/
def helperName : Text := "powershellHelper.ps1".toList

/-- The name of the file with the wrapper. -/
def wrapperName : Text := "powershellWrapper.ps1".toList

/-- The name of the log. -/
def logName : Text := "task-log.txt".toList

/-- The name of the file with the captured output. -/
def outputName : Text := "output.txt".toList

/-- The name of the file with the exit code. -/
def resultName : Text := "task-result.txt".toList

/-- The control directory of the task. -/
def directory
    (handle : Handle)
    (workspace : Workspace) : Path :=
  workspace.controlDirectory handle.id

/-- A file in the control directory of the task. -/
def file
    (handle : Handle)
    (workspace : Workspace)
    (name : Text) : Path :=
  (handle.directory workspace).joinText name

/-- The file with the script of the user. -/
def scriptFile
    (handle : Handle)
    (workspace : Workspace) : Path :=
  handle.file workspace scriptName

/-- The file with the helper library. -/
def helperFile
    (handle : Handle)
    (workspace : Workspace) : Path :=
  handle.file workspace helperName

/-- The file with the wrapper. -/
def wrapperFile
    (handle : Handle)
    (workspace : Workspace) : Path :=
  handle.file workspace wrapperName

/-- The log that the child writes. -/
def logFile
    (handle : Handle)
    (workspace : Workspace) : Path :=
  handle.file workspace logName

/-- The file with the captured output. -/
def outputFile
    (handle : Handle)
    (workspace : Workspace) : Path :=
  handle.file workspace outputName

/-- The file with the exit code. -/
def resultFile
    (handle : Handle)
    (workspace : Workspace) : Path :=
  handle.file workspace resultName

/-! ### Written form -/

/-- The handle as a document in TOML. -/
def toToml (handle : Handle) : Text :=
  Toml.Writer.line "id".toList (Toml.Writer.string handle.id)
    ++ Toml.Writer.line "capturing_output".toList (Toml.Writer.boolean handle.capturing)
    ++ Toml.Writer.line "log_offset".toList (Toml.Writer.word handle.logOffset)

/-- The fields of a handle in its written form. -/
def fields : List Text :=
  ["id".toList, "capturing_output".toList, "log_offset".toList]

/-- A handle that is being read; its id may still be missing. -/
structure Draft where
  id : Option Text
  capturing : Bool
  logOffset : UInt64
  deriving Repr, DecidableEq

/-- Read one field; an unknown one is passed over. -/
def readField
    (draft : Draft)
    (name : Text)
    (value : Toml.Value) : Except Toml.Misfit Draft :=
  if name = "id".toList then do
    let id ← value.readText
    pure { draft with id := some id }
  else if name = "capturing_output".toList then do
    let capturing ← value.readBoolean
    pure { draft with capturing }
  else if name = "log_offset".toList then do
    let logOffset ← value.readWord
    pure { draft with logOffset }
  else
    value.skip draft

/-- The handle in a table. -/
def ofValue (table : Toml.Value) : Except Toml.Misfit Handle := do
  let draft ← table.readRecord "Controller".toList fields ⟨none, false, 0⟩ readField
  match draft.id with
  | none => .error (.missingField "id".toList)
  | some id => pure { id, capturing := draft.capturing, logOffset := draft.logOffset }

/-- The handle in a document. -/
def ofToml (text : Text) : Except Toml.Fault Handle :=
  match Toml.read? text with
  | none => .error .malformed
  | some table => (ofValue table).mapError .misfit

/-! ### Looking at a task -/

/-- End with a fault unless the control directory is there. -/
def requireDirectory
    (handle : Handle)
    (workspace : Workspace) : TaskProgram Unit := do
  unless ← TaskProgram.isDirectory (handle.directory workspace) do
    throw (.controlDirectoryMissing (handle.directory workspace))

/-- Look at the result file once. -/
def status
    (handle : Handle)
    (workspace : Workspace) : TaskProgram Status := do
  handle.requireDirectory workspace
  if ← TaskProgram.exists? (handle.resultFile workspace) then
    let content ← TaskProgram.read (handle.resultFile workspace)
    match ResultText.parse content with
    | .error text => throw (.corruptResult (handle.resultFile workspace) text)
    | .ok (some code) =>
        TaskProgram.note .debug
        pure (.complete code)
    | .ok none =>
        TaskProgram.note .debug
        pure .running
  else
    pure .running

/-- Hand a chunk to the sink of the log and see it passed on. -/
def deliver (chunk : Bytes) : TaskProgram Unit := do
  match ← TaskProgram.ask (.deliver chunk) with
  | .error cause => throw (.sink cause)
  | .ok () =>
      match ← TaskProgram.ask .flush with
      | .error cause => throw (.sink cause)
      | .ok () => pure ()

/-- Hand on what was added to the log since the last time.  The answer tells whether there
was anything, and holds the handle with its new offset. -/
def copyLog
    (handle : Handle)
    (workspace : Workspace) : TaskProgram (Bool × Handle) := do
  handle.requireDirectory workspace
  if ← TaskProgram.exists? (handle.logFile workspace) then
    let chunk ← TaskProgram.readFrom (handle.logFile workspace) handle.logOffset
    if chunk.isEmpty then
      pure (false, handle)
    else
      deliver chunk
      pure (true, { handle with logOffset := handle.logOffset + chunk.length.toUInt64 })
  else
    pure (false, handle)

/-- The whole log as far as it was written; empty if there is none yet. -/
def log
    (handle : Handle)
    (workspace : Workspace) : TaskProgram Bytes := do
  handle.requireDirectory workspace
  if ← TaskProgram.exists? (handle.logFile workspace) then
    TaskProgram.read (handle.logFile workspace)
  else
    pure []

/-- The captured output, if the task captures it and it was written. -/
def output
    (handle : Handle)
    (workspace : Workspace) : TaskProgram (Option Bytes) := do
  if handle.capturing then
    handle.requireDirectory workspace
    if ← TaskProgram.exists? (handle.outputFile workspace) then
      let content ← TaskProgram.read (handle.outputFile workspace)
      pure (some content)
    else
      pure none
  else
    pure none

/-! ### Saved handles -/

/-- Save the handle, so that a later process can load it. -/
def save
    (handle : Handle)
    (workspace : Workspace) : TaskProgram Unit := do
  TaskProgram.write (workspace.handleFile handle.id) (Utf8.encode handle.toToml)
  TaskProgram.note .debug

/-- Load the saved handle of a task.  Without one the task is taken not to capture its
output. -/
def load
    (workspace : Workspace)
    (id : Text) : TaskProgram Handle := do
  if ← TaskProgram.isFile (workspace.handleFile id) then
    let text ← TaskProgram.readText (workspace.handleFile id)
    match ofToml text with
    | .error cause => throw (.document cause)
    | .ok handle => pure handle
  else
    TaskProgram.note .debug
    pure (attach id false)

/-- Remove the saved handle and the control directory; what is not there is no fault. -/
def cleanup
    (handle : Handle)
    (workspace : Workspace) : TaskProgram Unit := do
  if ← TaskProgram.isFile (workspace.handleFile handle.id) then
    TaskProgram.removeFile (workspace.handleFile handle.id)
  if ← TaskProgram.isDirectory (handle.directory workspace) then
    TaskProgram.removeTree (handle.directory workspace)
    TaskProgram.note .info
  else
    TaskProgram.note .warn

end Handle

end DetachedTasks
