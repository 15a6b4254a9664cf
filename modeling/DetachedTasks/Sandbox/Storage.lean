import DetachedTasks.FileSystem.Memory
import DetachedTasks.FileSystem.Posix

/-!
# Storage of a sandbox

A sandbox keeps its files in memory or in a POSIX tree.  Beside the calls of programs there
are two ways to place a file from outside, and a look at what stands at a path.
-/

namespace DetachedTasks.Sandbox

/-- Where a sandbox keeps its files. -/
inductive Storage where
  | inMemory (memory : Memory)
  | tree (system : Posix)
  deriving Repr

/-- Something done to the files from outside a program. -/
inductive FileAction where
  | call (call : FileCall)
  /-- Give a file new content, with the directories above it. -/
  | addFile (path : Path) (content : Bytes)
  /-- Add to the content of a file, with the directories above it. -/
  | append (path : Path) (content : Bytes)
  deriving Repr, DecidableEq

namespace Storage

/-- Answer one call. -/
def answer (call : FileCall) : Storage → call.Answer × Storage
  | .inMemory memory =>
      let (answer, next) := memory.answer call
      (answer, .inMemory next)
  | .tree system =>
      let (answer, next) := system.answer call
      (answer, .tree next)

/-- Give a file new content, with the directories above it. -/
def addFile
    (path : Path)
    (content : Bytes) : Storage → Except SystemFault Unit × Storage
  | .inMemory memory => (.ok (), .inMemory (memory.addFile path content))
  | .tree system =>
      let (outcome, next) := system.placeFile path fun _ => content
      (outcome, .tree next)

/-- Add to the content of a file, with the directories above it. -/
def append
    (path : Path)
    (content : Bytes) : Storage → Except SystemFault Unit × Storage
  | .inMemory memory => (.ok (), .inMemory (memory.append path content))
  | .tree system =>
      let (outcome, next) := system.placeFile path (· ++ content)
      (outcome, .tree next)

/-- Do something and forget the answer. -/
def act
    (storage : Storage) : FileAction → Storage
  | .call call => (storage.answer call).2
  | .addFile path content => (storage.addFile path content).2
  | .append path content => (storage.append path content).2

/-- What stands at a path. -/
def look
    (storage : Storage)
    (path : Path) : Option Entry :=
  match storage with
  | .inMemory memory => memory.entryAt path
  | .tree system => (system.entryAt path).toOption.map (·.2)

/-- Whether a path can be watched: something stands there.  Memory cannot be watched. -/
def isWatchable
    (storage : Storage)
    (path : Path) : Bool :=
  match storage with
  | .inMemory _ => false
  | .tree system =>
      if path.bytes.isEmpty then !system.stranded else system.hasEntry path

end Storage

end DetachedTasks.Sandbox
