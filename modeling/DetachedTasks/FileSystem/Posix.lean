import DetachedTasks.FileSystem.Call
import DetachedTasks.FileSystem.EntryMap
import DetachedTasks.Number.Checked

/-!
# A POSIX file system

Entries are kept by their absolute names.  A path is resolved one segment after another from
the root or from the current directory: every segment needs a directory to be looked up in,
`.` and an empty segment stay, and `..` goes one directory up.  The calls answer with the
faults that the operating system gives for the same tree.  There are no symbolic links and no
permissions.
-/

namespace DetachedTasks

/-- The files and directories of a POSIX file system, seen by one process. -/
structure Posix where
  entries : EntryMap (List Bytes)
  /-- The current directory, as the process spells it. -/
  currentDirectory : Path
  /-- The current directory was removed. -/
  stranded : Bool
  deriving Repr

namespace Posix

/-- The longest path that the system takes, in bytes. -/
def longestPath : Nat := 4095

/-- The longest name that the system takes, in bytes. -/
def longestName : Nat := 255

/-- The size that a directory reports. -/
def directorySize : Nat := 4096

/-- The furthest place in a file that the system counts. -/
def furthestPlace : Nat := 0x7FFFFFFFFFFFFFFF

/-- The names in an absolute path without dots. -/
def namesOf (path : Path) : List Bytes :=
  (Text.splitOn Path.slash path.bytes).filter (!Path.isVoid ·)

/-- A file system with one directory, the current one, and the directories above it. -/
def new (currentDirectory : Path) : Posix :=
  let names := namesOf currentDirectory
  let above := (List.range (names.length + 1)).map names.take
  { entries := above.foldl (·.insert · .directory) EntryMap.empty
    currentDirectory
    stranded := false }

/-- Where a path leads. -/
inductive Place where
  /-- An absolute name. -/
  | named (names : List Bytes)
  /-- The current directory after it was removed.  It holds nothing, but it is still there for
  the process that is in it. -/
  | removed
  deriving Repr, DecidableEq

/-- The absolute name of a name in a directory, and what stands there. -/
def lookupIn
    (system : Posix)
    (directory : Place)
    (name : Bytes) : Except SystemFault (List Bytes × Option Entry) :=
  match directory with
  | .removed => .error .noEntry
  | .named names =>
      if longestName < name.length then .error .nameTooLong
      else .ok (names ++ [name], system.entries.lookup (names ++ [name]))

/-- Go from a place through one segment. -/
def enter
    (system : Posix)
    (place : Place)
    (segment : Bytes) : Except SystemFault Place :=
  match place with
  | .removed =>
      if Path.isVoid segment then .ok .removed
      else if segment = [Path.dot, Path.dot] then
        .ok (.named (namesOf system.currentDirectory).dropLast)
      else .error .noEntry
  | .named names =>
      match system.entries.lookup names with
      | none => .error .noEntry
      | some (.file _) => .error .notDirectory
      | some .directory =>
          if Path.isVoid segment then .ok place
          else if segment = [Path.dot, Path.dot] then .ok (.named names.dropLast)
          else do
            match ← system.lookupIn place segment with
            | (_, none) => .error .noEntry
            | (next, some _) => .ok (.named next)

/-- Go from a place through segments. -/
def walk
    (system : Posix)
    (place : Place)
    (segments : List Bytes) : Except SystemFault Place :=
  segments.foldlM system.enter place

/-- What can be said of a path before anything is looked up. -/
def refusal? (path : Path) : Option SystemFault :=
  if path.bytes.contains 0 then some .zeroByteInPath
  else if path.bytes.isEmpty then some .noEntry
  else if longestPath < path.bytes.length then some .nameTooLong
  else none

/-- Where the resolution of a path begins. -/
def start
    (system : Posix)
    (path : Path) : Place :=
  if path.isAbsolute then .named []
  else if system.stranded then .removed
  else .named (namesOf system.currentDirectory)

/-- Where a path leads; something must stand there. -/
def resolve
    (system : Posix)
    (path : Path) : Except SystemFault Place :=
  match refusal? path with
  | some fault => .error fault
  | none => system.walk (system.start path) (Text.splitOn Path.slash path.bytes)

/-- What stands where a path leads. -/
def entryAt
    (system : Posix)
    (path : Path) : Except SystemFault (Place × Entry) := do
  match ← system.resolve path with
  | .removed => .ok (.removed, .directory)
  | .named names =>
      match system.entries.lookup names with
      | some entry => .ok (.named names, entry)
      | none => .error .noEntry

/-- The last segment of a path, as the calls that make or remove an entry see it. -/
inductive Target where
  /-- The path ends in the root itself. -/
  | root
  /-- The path ends in a dot. -/
  | here
  /-- The path ends in two dots. -/
  | up
  /-- A name in a directory; `slashed` tells that a slash follows it. -/
  | name (directory : Place) (bytes : Bytes) (slashed : Bool)
  deriving Repr, DecidableEq

/-- Resolve all of a path but its last segment. -/
def target
    (system : Posix)
    (path : Path) : Except SystemFault Target :=
  match refusal? path with
  | some fault => .error fault
  | none => do
      let segments := Text.splitOn Path.slash path.bytes
      let kept := Text.dropEndWhile List.isEmpty segments
      match kept.reverse with
      | [] => .ok .root
      | last :: before =>
          let directory ← system.walk (system.start path) (before.reverse ++ [[]])
          if last = [Path.dot] then .ok .here
          else if last = [Path.dot, Path.dot] then .ok .up
          else .ok (.name directory last (kept.length < segments.length))

/-- The content that a path leads to. -/
def contentAt
    (system : Posix)
    (path : Path) : Except SystemFault Bytes := do
  match (← system.entryAt path).2 with
  | .file content => .ok content
  | .directory => .error .isDirectory

/-- Whether a directory stands where a path leads. -/
def isDirectory
    (system : Posix)
    (path : Path) : Bool :=
  match system.entryAt path with
  | .ok (_, .directory) => true
  | _ => false

/-- Whether a file stands where a path leads. -/
def isFile
    (system : Posix)
    (path : Path) : Bool :=
  match system.entryAt path with
  | .ok (_, .file _) => true
  | _ => false

/-- Whether anything stands where a path leads. -/
def hasEntry
    (system : Posix)
    (path : Path) : Bool :=
  match system.entryAt path with
  | .ok _ => true
  | .error _ => false

/-- Give a file new content, made from what it held. -/
def rewriteFile
    (system : Posix)
    (path : Path)
    (change : Bytes → Bytes) : Except SystemFault Posix := do
  match ← system.target path with
  | .root => .error .isDirectory
  | .here => .error .isDirectory
  | .up => .error .isDirectory
  | .name directory bytes slashed =>
      if slashed then
        .error .isDirectory
      else
        match ← system.lookupIn directory bytes with
        | (_, some .directory) => .error .isDirectory
        | (names, some (.file content)) =>
            .ok { system with
              entries := system.entries.insert names (.file (change content)) }
        | (names, none) =>
            .ok { system with
              entries := system.entries.insert names (.file (change [])) }

/-- Make one directory. -/
def makeDirectory
    (system : Posix)
    (path : Path) : Except SystemFault Posix := do
  match ← system.target path with
  | .name directory bytes _ =>
      match ← system.lookupIn directory bytes with
      | (_, some _) => .error .alreadyExists
      | (names, none) =>
          .ok { system with
            entries := system.entries.insert names .directory }
  | _ => .error .alreadyExists

/-- A path, the path above it, and so on up to the first one without a parent. -/
def ancestors
    (depth : Nat)
    (path : Path) : List Path :=
  match depth with
  | 0 => [path]
  | depth + 1 =>
      match path.parent? with
      | some parent => path :: ancestors depth parent
      | none => [path]

/-- Make the given directories, outermost first; one that is there already is accepted. -/
def makeAll
    (system : Posix) :
    List Path → Except SystemFault Posix × Posix
  | [] => (.ok system, system)
  | path :: rest =>
      match system.makeDirectory path with
      | .ok next => next.makeAll rest
      | .error fault =>
          if fault = .alreadyExists && system.isDirectory path then
            system.makeAll rest
          else
            (.error fault, system)

/-- Make the innermost directory that can be made, and all below it up to the first path;
`pending` holds the paths that still have to follow, outermost first. -/
def makeLineage
    (system : Posix)
    (pending : List Path) :
    List Path → Except SystemFault Posix × Posix
  | [] => system.makeAll pending
  | path :: above =>
      if path.bytes.isEmpty then
        system.makeAll pending
      else
        match system.makeDirectory path with
        | .ok next => next.makeAll pending
        | .error .noEntry => system.makeLineage (path :: pending) above
        | .error fault =>
            if fault = .alreadyExists && system.isDirectory path then
              system.makeAll pending
            else
              (.error fault, system)

/-- Make a directory and all that lie above it; what was made before a fault stays. -/
def makeDirectories
    (system : Posix)
    (path : Path) : Except SystemFault Unit × Posix :=
  let (outcome, next) :=
    system.makeLineage [] (ancestors path.location.length path)
  match outcome with
  | .ok final => (.ok (), final)
  | .error fault => (.error fault, next)

/-- Forget every entry whose name passes a test. -/
def erase
    (system : Posix)
    (test : List Bytes → Bool) : Posix :=
  { system with
    entries := system.entries.eraseWhere test
    stranded := system.stranded || test (namesOf system.currentDirectory) }

/-- Remove a directory that holds nothing any more. -/
def removeEmpty
    (system : Posix)
    (path : Path) : Except SystemFault Posix := do
  match ← system.target path with
  | .root => .error .busy
  | .here => .error .invalidArgument
  | .up => .error .notEmpty
  | .name directory bytes _ =>
      match ← system.lookupIn directory bytes with
      | (_, none) => .error .noEntry
      | (_, some (.file _)) => .error .notDirectory
      | (names, some .directory) => .ok (system.erase (· = names))

/-- Remove a directory with all that lies below it.  First goes what lies below; then the
path is resolved once more, and a directory that is not there any more is no fault. -/
def removeTree
    (system : Posix)
    (path : Path) : Except SystemFault Unit × Posix :=
  match system.entryAt path with
  | .error fault => (.error fault, system)
  | .ok (_, .file _) => (.error .notDirectory, system)
  | .ok (place, .directory) =>
      let emptied :=
        match place with
        | .removed => system
        | .named names => system.erase fun other => names.isPrefixOf other && other != names
      match emptied.removeEmpty path with
      | .ok next => (.ok (), next)
      | .error .noEntry => (.ok (), emptied)
      | .error fault => (.error fault, emptied)

/-- Remove a file. -/
def removeFile
    (system : Posix)
    (path : Path) : Except SystemFault Posix := do
  match ← system.target path with
  | .name directory bytes slashed =>
      match ← system.lookupIn directory bytes with
      | (_, none) => .error .noEntry
      | (_, some .directory) => .error .isDirectory
      | (names, some (.file _)) =>
          if slashed then .error .notDirectory else .ok (system.erase (· = names))
  | _ => .error .isDirectory

/-- Name the activity and the path of a fault. -/
def during
    (activity : Activity)
    (path : Path)
    (outcome : Except SystemFault α) : Except FileFault α :=
  outcome.mapError (.system activity path)

/-- What an open path is read through. -/
inductive Reader where
  | file (content : Bytes)
  | directory (size : Nat)
  deriving Repr, DecidableEq

namespace Reader

/-- What is opened where a path leads.  A directory that was removed has no size. -/
def opened : Place × Entry → Reader
  | (_, .file content) => .file content
  | (.removed, .directory) => .directory 0
  | (.named _, .directory) => .directory directorySize

/-- The size that is reported. -/
def size : Reader → Nat
  | .file content => content.length
  | .directory size => size

/-- Go to a place.  Places are counted in words with a sign, so half of all words are refused.
No file is longer than can be counted: a place inside one is never refused. -/
def seek
    (reader : Reader)
    (place : UInt64) : Except SystemFault Nat :=
  if place.toNat ≤ max reader.size furthestPlace then .ok place.toNat
  else .error .invalidArgument

/-- Read from a place to the end.  Only here it is found out that this is a directory. -/
def readToEnd (place : Nat) : Reader → Except SystemFault Bytes
  | .file content => .ok (content.drop place)
  | .directory _ => .error .isDirectory

/-- What there is to read from an offset on.  Nothing is looked for at or past the end; before
it, room is made for as many bytes as are missing to the size. -/
def restFrom
    (reader : Reader)
    (path : Path)
    (offset : UInt64) : Checked (Except FileFault Bytes) :=
  if reader.size ≤ offset.toNat then
    .ok (.ok [])
  else
    match reader.seek offset with
    | .error cause => .ok (.error (.system (.seeking offset) path cause))
    | .ok place => do
        let _room ← Checked.difference reader.size offset.toNat
        .ok (during .reading path (reader.readToEnd place))

/-- Inside its size a reader can be taken to every place. -/
theorem seek_of_lt
    {reader : Reader}
    {place : UInt64}
    (inside : place.toNat < reader.size) :
    reader.seek place = .ok place.toNat :=
  if_pos (Nat.le_trans (Nat.le_of_lt inside) (Nat.le_max_left _ _))

theorem restFrom_of_le
    {reader : Reader}
    {offset : UInt64}
    (past : reader.size ≤ offset.toNat)
    (path : Path) :
    reader.restFrom path offset = .ok (.ok []) :=
  if_pos past

theorem restFrom_of_lt
    {reader : Reader}
    {offset : UInt64}
    (inside : offset.toNat < reader.size)
    (path : Path) :
    reader.restFrom path offset =
      .ok (during .reading path (reader.readToEnd offset.toNat)) := by
  rw [restFrom, if_neg (Nat.not_le.mpr inside), seek_of_lt inside,
    Checked.difference_of_le (Nat.le_of_lt inside)]
  rfl

/-- Neither the place nor the room ever stops the reading. -/
theorem isOk_restFrom
    (reader : Reader)
    (path : Path)
    (offset : UInt64) :
    (reader.restFrom path offset).isOk = true := by
  rcases Nat.lt_or_ge offset.toNat reader.size with inside | past
  · rw [restFrom_of_lt inside]
    rfl
  · rw [restFrom_of_le past]
    rfl

end Reader

/-- The content of a file from an offset on. -/
def readFrom
    (system : Posix)
    (path : Path)
    (offset : UInt64) : Except FileFault Bytes :=
  match system.entryAt path with
  | .error cause => .error (.system .opening path cause)
  | .ok found =>
      Checked.value ((Reader.opened found).restFrom path offset)
        (Reader.isOk_restFrom _ path offset)

/-- What a read from an offset on comes to, for everything that a path may lead to. -/
theorem readFrom_eq
    (system : Posix)
    (path : Path)
    (offset : UInt64) :
    system.readFrom path offset =
      match system.entryAt path with
      | .error cause => .error (.system .opening path cause)
      | .ok (_, .file content) => .ok (content.drop offset.toNat)
      | .ok (.removed, .directory) => .ok []
      | .ok (.named _, .directory) =>
          if directorySize ≤ offset.toNat then
            .ok []
          else
            .error (.system .reading path .isDirectory) := by
  rw [readFrom]
  cases system.entryAt path with
  | error cause => rfl
  | ok found =>
      rcases Nat.lt_or_ge offset.toNat (Reader.opened found).size with inside | past
      · refine (Checked.value_of_eq (Reader.restFrom_of_lt inside path) _).trans ?_
        match found with
        | (_, .file content) => rfl
        | (.removed, .directory) => exact absurd inside (Nat.not_lt_zero _)
        | (.named names, .directory) => exact (if_neg (Nat.not_le.mpr inside)).symm
      · refine (Checked.value_of_eq (Reader.restFrom_of_le past path) _).trans ?_
        match found with
        | (_, .file content) => exact congrArg Except.ok (List.drop_eq_nil_of_le past).symm
        | (.removed, .directory) => rfl
        | (.named names, .directory) => exact (if_pos past).symm

/-- The content of a file, as text. -/
def textAt
    (system : Posix)
    (path : Path) : Except SystemFault Text := do
  match Utf8.decode? (← system.contentAt path) with
  | some text => .ok text
  | none => .error .notUtf8

/-- An absolute form of a path. -/
def absolute
    (system : Posix)
    (path : Path) : Except SystemFault Path :=
  if !path.bytes.isEmpty && !path.isAbsolute && system.stranded then
    .error .noEntry
  else
    match Path.absoluteFrom? system.currentDirectory path with
    | some full => .ok full
    | none => .error .emptyPath

/-- The answer of a step that changes the tree only if it succeeds. -/
def settle
    (system : Posix)
    (activity : Activity)
    (path : Path) :
    Except SystemFault Posix → Except FileFault Unit × Posix
  | .ok next => (.ok (), next)
  | .error cause => (.error (.system activity path cause), system)

/-- Answer one call. -/
def answer : (call : FileCall) → Posix → call.Answer × Posix
  | .readText path, system => (during .reading path (system.textAt path), system)
  | .read path, system => (during .reading path (system.contentAt path), system)
  | .readFrom path offset, system => (system.readFrom path offset, system)
  | .write path content, system =>
      system.settle .creatingFile path (system.rewriteFile path fun _ => content)
  | .createDirectories path, system =>
      let (outcome, next) := system.makeDirectories path
      (during .creatingDirectory path outcome, next)
  | .createDirectory path, system =>
      match system.makeDirectory path with
      | .ok next => (.ok true, next)
      | .error .alreadyExists => (.ok false, system)
      | .error cause => (.error (.system .creatingDirectory path cause), system)
  | .removeTree path, system =>
      let (outcome, next) := system.removeTree path
      (during .removingDirectory path outcome, next)
  | .removeFile path, system =>
      system.settle .removingFile path (system.removeFile path)
  | .exists path, system => (system.hasEntry path, system)
  | .isFile path, system => (system.isFile path, system)
  | .isDirectory path, system => (system.isDirectory path, system)
  | .absolute path, system => (during .makingAbsolute path (system.absolute path), system)

/-- Make the directories above a path as far as they can be made, then give its file new
content; only the second part has a fault. -/
def placeFile
    (system : Posix)
    (path : Path)
    (change : Bytes → Bytes) : Except SystemFault Unit × Posix :=
  let prepared :=
    match path.parent? with
    | some parent => (system.makeDirectories parent).2
    | none => system
  match prepared.rewriteFile path change with
  | .ok next => (.ok (), next)
  | .error fault => (.error fault, prepared)

end Posix

end DetachedTasks
