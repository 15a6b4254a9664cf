import DetachedTasks.FileSystem.Call
import DetachedTasks.FileSystem.EntryMap
import DetachedTasks.Number.Checked

/-!
# A file system in memory

Entries are kept by the components of their paths, so two spellings of one place are one
entry.  Nothing is resolved: `..` is a component like any other, and every path is taken as
absolute already.  Each call is one step of the store; a call that fails leaves the store as
it was.
-/

namespace DetachedTasks

/-- The files and directories of a file system that lives in memory. -/
structure Memory where
  entries : EntryMap Location
  deriving Repr

namespace Memory

/-- The file system that holds only the root directory. -/
def new : Memory :=
  ⟨EntryMap.empty.insert [.root] .directory⟩

/-- What stands at a path. -/
def entryAt
    (memory : Memory)
    (path : Path) : Option Entry :=
  memory.entries.lookup path.location

/-- Whether there is a directory at a path. -/
def isDirectory
    (memory : Memory)
    (path : Path) : Bool :=
  memory.entryAt path == some .directory

/-- Whether there is a file at a path. -/
def isFile
    (memory : Memory)
    (path : Path) : Bool :=
  match memory.entryAt path with
  | some (.file _) => true
  | _ => false

/-- Put an entry at a path. -/
def put
    (memory : Memory)
    (path : Path)
    (entry : Entry) : Memory :=
  ⟨memory.entries.insert path.location entry⟩

/-- The parent of a path, if it is needed and is no directory.  A path whose parent is the
empty path needs none. -/
def missingParent?
    (memory : Memory)
    (path : Path) : Option Path :=
  path.parent?.filter fun parent =>
    !parent.bytes.isEmpty && !memory.isDirectory parent

/-- The non-empty starts of a place, shortest first: the places above it and itself. -/
def lineage (location : Location) : List Location :=
  (List.range location.length).map fun index => location.take (index + 1)

/-- Put a directory at a place where nothing stands. -/
def fillVacant
    (entries : EntryMap Location)
    (location : Location) : EntryMap Location :=
  match entries.lookup location with
  | some _ => entries
  | none => entries.insert location .directory

/-- Put a directory at a path and at every place above it where nothing stands. -/
def ensureDirectory
    (memory : Memory)
    (path : Path) : Memory :=
  ⟨(lineage path.location).foldl fillVacant memory.entries⟩

/-- The whole content of a file. -/
def read
    (memory : Memory)
    (path : Path) : Except FileFault Bytes :=
  match memory.entryAt path with
  | some (.file content) => .ok content
  | some .directory => .error (.isDirectory path)
  | none => .error (.fileNotFound path)

/-- The whole content of a file, as text. -/
def readText
    (memory : Memory)
    (path : Path) : Except FileFault Text := do
  let content ← memory.read path
  match Utf8.firstFault? content with
  | some fault => .error (.invalidText fault)
  | none => .ok (Utf8.decodeLossy content)

/-- What a content holds from an offset on.  An offset past the end is brought back to the end
before anything is cut off. -/
def restFrom
    (content : Bytes)
    (offset : UInt64) : Checked Bytes :=
  Checked.slice content (min (Checked.index offset) content.length)

/-- The slice never begins past the end. -/
theorem restFrom_eq
    (content : Bytes)
    (offset : UInt64) :
    restFrom content offset = .ok (content.drop offset.toNat) := by
  rw [restFrom, Checked.slice_of_le (Nat.min_le_right _ _), Checked.index_eq,
    ← List.drop_eq_drop_min]

/-- The content of a file from an offset on. -/
def readFrom
    (memory : Memory)
    (path : Path)
    (offset : UInt64) : Except FileFault Bytes := do
  let content ← memory.read path
  .ok (Checked.value (restFrom content offset) (by rw [restFrom_eq]; rfl))

theorem readFrom_eq
    (memory : Memory)
    (path : Path)
    (offset : UInt64) :
    memory.readFrom path offset = (memory.read path).map (·.drop offset.toNat) := by
  rw [readFrom]
  cases memory.read path with
  | error fault => rfl
  | ok content => exact congrArg Except.ok (Checked.value_of_eq (restFrom_eq content offset) _)

/-- Make a file or replace its content. -/
def write
    (memory : Memory)
    (path : Path)
    (content : Bytes) : Except FileFault Memory :=
  match memory.missingParent? path with
  | some parent => .error (.parentNotFound parent)
  | none =>
      if memory.isDirectory path then
        .error (.isDirectory path)
      else
        .ok (memory.put path (.file content))

/-- Make a directory and all that lie above it. -/
def createDirectories
    (memory : Memory)
    (path : Path) : Except FileFault Memory :=
  if memory.isFile path then
    .error (.fileExists path)
  else
    .ok (memory.ensureDirectory path)

/-- Make exactly this directory, or say that the name is taken. -/
def createDirectory
    (memory : Memory)
    (path : Path) : Except FileFault (Bool × Memory) :=
  match memory.entryAt path with
  | some _ => .ok (false, memory)
  | none =>
      match memory.missingParent? path with
      | some parent => .error (.parentNotFound parent)
      | none => .ok (true, memory.put path .directory)

/-- Remove a directory with all that lies below it. -/
def removeTree
    (memory : Memory)
    (path : Path) : Except FileFault Memory :=
  match memory.entryAt path with
  | some .directory =>
      .ok ⟨memory.entries.eraseWhere path.location.isPrefixOf⟩
  | some (.file _) => .error (.notDirectory path)
  | none => .error (.directoryNotFound path)

/-- Remove a file. -/
def removeFile
    (memory : Memory)
    (path : Path) : Except FileFault Memory :=
  match memory.entryAt path with
  | some (.file _) => .ok ⟨memory.entries.eraseWhere (· = path.location)⟩
  | some .directory => .error (.isDirectory path)
  | none => .error (.fileNotFound path)

/-- The answer of a step that changes the store only if it succeeds. -/
def settle
    (memory : Memory) :
    Except FileFault Memory → Except FileFault Unit × Memory
  | .ok next => (.ok (), next)
  | .error fault => (.error fault, memory)

/-- Answer one call. -/
def answer : (call : FileCall) → Memory → call.Answer × Memory
  | .readText path, memory => (memory.readText path, memory)
  | .read path, memory => (memory.read path, memory)
  | .readFrom path offset, memory => (memory.readFrom path offset, memory)
  | .write path content, memory => memory.settle (memory.write path content)
  | .createDirectories path, memory => memory.settle (memory.createDirectories path)
  | .createDirectory path, memory =>
      match memory.createDirectory path with
      | .ok (made, next) => (.ok made, next)
      | .error fault => (.error fault, memory)
  | .removeTree path, memory => memory.settle (memory.removeTree path)
  | .removeFile path, memory => memory.settle (memory.removeFile path)
  | .exists path, memory => ((memory.entryAt path).isSome, memory)
  | .isFile path, memory => (memory.isFile path, memory)
  | .isDirectory path, memory => (memory.isDirectory path, memory)
  | .absolute path, memory => (.ok path, memory)

/-- Put a file at a path whatever stands there, with every directory above it that is
missing. -/
def addFile
    (memory : Memory)
    (path : Path)
    (content : Bytes) : Memory :=
  let prepared :=
    match path.parent? with
    | some parent => memory.ensureDirectory parent
    | none => memory
  prepared.put path (.file content)

/-- Append to a file, which is made with every directory above it if it is missing. -/
def append
    (memory : Memory)
    (path : Path)
    (content : Bytes) : Memory :=
  match memory.entryAt path with
  | some (.file before) => memory.addFile path (before ++ content)
  | _ => memory.addFile path content

end Memory

end DetachedTasks
