import DetachedTasks.Program
import DetachedTasks.Toml.Misfit

/-!
# Faults of tasks

Everything that can go wrong with a task is one of the causes here.  The wording is fixed in
one place, as a message with its own causes behind it.
-/

namespace DetachedTasks

/-- Why settings are refused. -/
inductive SettingsFault where
  /-- The interval between two polls is too short. -/
  | intervalTooShort (milliseconds : UInt64)
  /-- A task would count as stale before it is polled a second time. -/
  | staleBeforePoll (seconds milliseconds : UInt64)
  deriving Repr, DecidableEq

/-- The shortest interval between two polls, in milliseconds. -/
def shortestInterval : UInt64 := 10

/-- The wording of a refusal of settings. -/
def SettingsFault.message : SettingsFault → Text
  | .intervalTooShort milliseconds =>
      "[poll].interval_ms must be >= ".toList ++ Text.natural shortestInterval.toNat
        ++ " (got ".toList ++ Text.natural milliseconds.toNat ++ ")".toList
  | .staleBeforePoll seconds milliseconds =>
      "[poll].stale_after_secs (".toList ++ Text.natural seconds.toNat
        ++ "s) is shorter than one poll interval (".toList
        ++ Text.natural milliseconds.toNat ++ "ms)".toList

/-- A task that nothing was heard of. -/
structure IdleTask where
  id : Text
  /-- The time since its log grew last. -/
  idle : Duration
  deriving Repr, DecidableEq

/-- An idle task goes by its id. -/
instance : Coe IdleTask Text := ⟨IdleTask.id⟩

/-- Why something cannot be done with a task. -/
inductive TaskFault where
  | settings (cause : SettingsFault)
  /-- The settings cannot be read. -/
  | unreadableSettings (cause : SystemFault)
  /-- The sink of the log refuses. -/
  | sink (cause : SinkFault)
  /-- A document in TOML cannot be read. -/
  | document (cause : Toml.Fault)
  /-- The interpreter could not be started; there will never be a result. -/
  | launchFailed (program : Text) (cause : SystemFault)
  /-- The control directory is not there any more. -/
  | controlDirectoryMissing (directory : Path)
  /-- There is a result file, but no exit code in it. -/
  | corruptResult (file : Path) (content : Text)
  /-- There was neither a result nor new log for too long. -/
  | stale (task : IdleTask)
  /-- A file system call failed, or a write to standard output. -/
  | files (cause : FileFault)
  /-- No free name was found for a control directory. -/
  | noFreeName (directory : Path)
  /-- The script of the user cannot be read, or the user has named none. -/
  | unreadableScript (file : Option Path) (causes : List Text)
  /-- There is no captured output to show. -/
  | noOutput
  deriving Repr, DecidableEq

/-- The wording of a fault, outermost part first and its causes behind it.  A malformed
document has more to say than is kept here. -/
def TaskFault.messages : TaskFault → List Text
  | .settings cause => ["Configuration error: ".toList ++ cause.message]
  | .unreadableSettings cause => ["IO error: ".toList ++ cause.message, cause.message]
  | .sink cause => ["IO error: ".toList ++ cause.message, cause.message]
  | .document cause =>
      ["TOML parsing error: ".toList ++ cause.message?.getD [], cause.message?.getD []]
  | .launchFailed program cause =>
      ["Failed to launch '".toList ++ program ++ "': ".toList ++ cause.message,
        cause.message]
  | .controlDirectoryMissing directory =>
      ["Control directory not found: ".toList ++ directory.quoted]
  | .corruptResult file content =>
      ["Corrupt result file ".toList ++ file.quoted ++ ": ".toList
        ++ Text.quoted content]
  | .stale task =>
      ["Task ".toList ++ (task : Text) ++ " made no progress for ".toList ++ task.idle.shown
        ++ "; process may have died".toList]
  | .files cause => cause.messages
  | .noFreeName directory =>
      ["could not allocate a unique control directory under ".toList ++ directory.quoted]
  | .unreadableScript none causes => "either --file or --inline is required".toList :: causes
  | .unreadableScript (some file) causes =>
      ("reading script ".toList ++ file.quoted) :: causes
  | .noOutput => ["no output file (task not capturing, or not started yet)".toList]

/-- A program that may end with a fault. -/
abbrev TaskProgram := ExceptT TaskFault Program

namespace TaskProgram

/-- Put a request that cannot fail. -/
def ask (request : Request) : TaskProgram request.Answer :=
  ExceptT.lift (Program.request request)

/-- End with a fault if a file system call failed. -/
def fileAnswer (answer : Except FileFault α) : TaskProgram α :=
  match answer with
  | .ok value => pure value
  | .error cause => throw (.files cause)

/-- The whole content of a file. -/
def read (path : Path) : TaskProgram Bytes := do
  fileAnswer (← ask (.file (.read path)))

/-- The whole content of a file, as text. -/
def readText (path : Path) : TaskProgram Text := do
  fileAnswer (← ask (.file (.readText path)))

/-- The content of a file from an offset on. -/
def readFrom
    (path : Path)
    (offset : UInt64) : TaskProgram Bytes := do
  fileAnswer (← ask (.file (.readFrom path offset)))

/-- Make a file or replace its content. -/
def write
    (path : Path)
    (content : Bytes) : TaskProgram Unit := do
  fileAnswer (← ask (.file (.write path content)))

/-- Make a directory and all that lie above it. -/
def createDirectories (path : Path) : TaskProgram Unit := do
  fileAnswer (← ask (.file (.createDirectories path)))

/-- Make exactly this directory; the answer is false if the name is taken. -/
def createDirectory (path : Path) : TaskProgram Bool := do
  fileAnswer (← ask (.file (.createDirectory path)))

/-- Remove a directory with all that lies below it. -/
def removeTree (path : Path) : TaskProgram Unit := do
  fileAnswer (← ask (.file (.removeTree path)))

/-- Remove a file. -/
def removeFile (path : Path) : TaskProgram Unit := do
  fileAnswer (← ask (.file (.removeFile path)))

/-- An absolute form of a path. -/
def absolute (path : Path) : TaskProgram Path := do
  fileAnswer (← ask (.file (.absolute path)))

/-- Whether anything stands at a path. -/
def exists? (path : Path) : TaskProgram Bool :=
  ask (.file (.exists path))

/-- Whether a file stands at a path. -/
def isFile (path : Path) : TaskProgram Bool :=
  ask (.file (.isFile path))

/-- Whether a directory stands at a path. -/
def isDirectory (path : Path) : TaskProgram Bool :=
  ask (.file (.isDirectory path))

/-- Write bytes to standard output. -/
def print (content : Bytes) : TaskProgram Unit := do
  match ← ask (.print content) with
  | .ok () => pure ()
  | .error cause => throw (.files (.standardOutput cause))

/-- A line on standard output. -/
def printLine (line : Text) : TaskProgram Unit :=
  ask (.printLine line)

/-- A log event. -/
def note (level : Level) : TaskProgram Unit :=
  ask (.note level)

end TaskProgram

end DetachedTasks
