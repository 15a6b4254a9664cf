import DetachedTasks.Application

/-!
# The program

The outermost layer: it answers the requests of a command with the machine it runs on.  It
decides nothing.  Two requests are out of its reach.  It starts no process, so a launch ends
with a fault after the scripts were written, and a host that can start one embeds the library
instead.  It watches no directory, so a task is polled at its fixed interval.  Only paths that
are UTF-8 can be named.
-/

namespace DetachedTasks.Machine

/-- The cause behind an error of the machine. -/
def cause : IO.Error → SystemFault
  | .noFileOrDirectory .. => .noEntry
  | .noSuchThing .. => .noEntry
  | .alreadyExists .. => .alreadyExists
  | .resourceBusy .. => .busy
  | .resourceExhausted .. => .noSpace
  | .resourceVanished .. => .brokenPipe
  | .unsatisfiedConstraints .. => .notEmpty
  | .inappropriateType _ code _ => if code = 21 then .isDirectory else .notDirectory
  | .invalidArgument _ code _ => if code = 36 then .nameTooLong else .invalidArgument
  | _ => .permissionDenied

/-- A path as the machine takes it. -/
def spelling (path : Path) : String :=
  String.ofList path.shown

/-- Bytes as the machine takes them. -/
def packed (content : Bytes) : ByteArray :=
  ⟨content.toArray⟩

/-- Do something with a path, and name the activity if it fails. -/
def attempt
    (activity : Activity)
    (path : Path)
    (action : String → IO α) : IO (Except FileFault α) := do
  if path.bytes.contains 0 then
    return .error (.system activity path .zeroByteInPath)
  try
    return .ok (← action (spelling path))
  catch error =>
    return .error (.system activity path (cause error))

/-- The content of a file. -/
def content (name : String) : IO Bytes := do
  return (← IO.FS.readBinFile name).toList

/-- Whether something stands at a path. -/
def stands (path : Path) : IO Bool := do
  try
    let _ ← IO.FS.realPath (spelling path)
    return true
  catch _ =>
    return false

/-- Whether a file stands at a path: a directory can be opened, but not read. -/
def isFile (path : Path) : IO Bool := do
  try
    let file ← IO.FS.Handle.mk (spelling path) .read
    let _ ← file.read 1
    return true
  catch _ =>
    return false

/-- Answer a file system call. -/
def answerFile : (call : FileCall) → IO call.Answer
  | .readText path => do
      match ← attempt .reading path content with
      | .error fault => return .error fault
      | .ok content =>
          match Utf8.decode? content with
          | some text => return .ok text
          | none => return .error (.system .reading path .notUtf8)
  | .read path => attempt .reading path content
  | .readFrom path offset => do
      return (← attempt .opening path content).map (·.drop offset.toNat)
  | .write path content =>
      attempt .creatingFile path fun name => IO.FS.writeBinFile name (packed content)
  | .createDirectories path =>
      attempt .creatingDirectory path fun name => IO.FS.createDirAll name
  | .createDirectory path => do
      match ← attempt .creatingDirectory path fun name => IO.FS.createDir name with
      | .ok () => return .ok true
      | .error (.system _ _ .alreadyExists) => return .ok false
      | .error fault => return .error fault
  | .removeTree path =>
      attempt .removingDirectory path fun name => IO.FS.removeDirAll name
  | .removeFile path =>
      attempt .removingFile path fun name => IO.FS.removeFile name
  | .exists path => stands path
  | .isFile path => isFile path
  | .isDirectory path => do
      return (← stands path) && !(← isFile path)
  | .absolute path => do
      let current := Path.ofText (toString (← IO.currentDir)).toList
      match Path.absoluteFrom? current path with
      | some full => return .ok full
      | none => return .error (.system .makingAbsolute path .emptyPath)

/-- Print bytes on standard output. -/
def emit (chunk : Bytes) : IO Unit := do
  let output ← IO.getStdout
  output.write (packed chunk)
  output.flush

/-- Print bytes on standard output, and tell why if it refuses them. -/
def tryEmit (chunk : Bytes) : IO (Except SystemFault Unit) := do
  try
    emit chunk
    return .ok ()
  catch error =>
    return .error (cause error)

/-- Answer a request; only events of the chosen level are shown. -/
def answer
    (chosen : Level) : (request : Request) → IO request.Answer
  | .file call => answerFile call
  | .deliver chunk => do
      return (← tryEmit chunk).mapError fun _ => .writeRefused
  | .flush => return .ok ()
  | .note level => do
      if level.shownAt chosen then
        IO.eprintln (String.ofList level.label)
  | .freshWord => do
      return (← IO.rand 0 0xFFFFFFFF).toUInt32
  | .start _ => return .error .permissionDenied
  | .announce line => do
      if Level.info.shownAt chosen then
        IO.eprintln (String.ofList line)
  | .watch _ => return false
  | .now => do
      return ⟨← IO.monoNanosNow⟩
  | .pause time => IO.sleep time.milliseconds.toUInt32
  | .print chunk => tryEmit chunk
  | .printLine line => emit (Utf8.encode (line ++ ['\n']))

/-- Put the requests of a program to the machine. -/
def perform
    (chosen : Level) : Program α → IO α
  | .done value => return value
  | .ask request resume => do
      let reply ← answer chosen request
      perform chosen (resume reply)

/-- More polls than any task is waited for. -/
def patience : Nat := UInt64.size

/-- Run a command line; the answer is the exit status of the process. -/
def execute (arguments : List String) : IO UInt32 := do
  match CommandLine.parse (arguments.map String.toList) with
  | .error fault =>
      match fault.message? with
      | some text => IO.print (String.ofList text)
      | none => IO.eprintln "usage error"
      let asked := fault = .displayHelp || fault = .displayVersion
      return if asked then 0 else Application.usageStatus.toUInt32
  | .ok invocation =>
      let setting ← IO.getEnv (String.ofList Level.variableName)
      let chosen := Level.chosen invocation.level (setting.map String.toList)
      let outcome ← perform chosen (Application.run patience invocation).run
      if let .error fault := outcome then
        IO.eprint (String.ofList (Application.report fault))
      return (Application.statusOf outcome).toUInt32

end DetachedTasks.Machine

/-- The entry point of the program. -/
def main (arguments : List String) : IO UInt32 :=
  DetachedTasks.Machine.execute arguments
