import DetachedTasks.Fault

/-!
# Workspaces

A workspace is the directory that scripts run in.  The control directories of its tasks are
kept out of it, in a directory beside it that has the same name with a suffix, so that a
script that walks or cleans its own directory never meets them.
-/

namespace DetachedTasks

/-- A workspace, by its root. -/
structure Workspace where
  root : Path
  deriving Repr, DecidableEq

namespace TaskId

/-- What every generated id begins with. -/
def start : Text := "durable-".toList

/-- A hexadecimal digit in lower case. -/
def digit (value : Nat) : Char :=
  if value < 10 then Char.ofNat (0x30 + value) else Char.ofNat (0x61 + value - 10)

/-- A number in a fixed count of hexadecimal digits; higher digits are dropped. -/
def digits
    (count number : Nat) : Text :=
  match count with
  | 0 => []
  | count + 1 => digits count (number / 16) ++ [digit (number % 16)]

/-- The id that is made from a number. -/
def ofWord (word : UInt32) : Text :=
  start ++ digits 8 word.toNat

/-- A hexadecimal digit as ids have them. -/
def isDigit (character : Char) : Bool :=
  character.isDigit || ('a'.toNat ≤ character.toNat && character.toNat ≤ 'f'.toNat)

/-- Whether a text has the form of a generated id. -/
def isWellFormed (text : Text) : Bool :=
  match Text.afterPrefix? start text with
  | some rest => rest.length = 8 && rest.all isDigit
  | none => false

end TaskId

namespace Workspace

/-- What is added to the name of a workspace to name the directory beside it. -/
def suffix : Text := "@tmp".toList

/-- The directory that holds all control directories of a workspace.  A root without a name
gets it as a child. -/
def tasksDirectory (workspace : Workspace) : Path :=
  match workspace.root.parent?, workspace.root.fileName? with
  | some parent, some name => parent.join ⟨name ++ Utf8.encode suffix⟩
  | _, _ => workspace.root.joinText suffix

/-- The control directory of a task. -/
def controlDirectory
    (workspace : Workspace)
    (id : Text) : Path :=
  workspace.tasksDirectory.joinText id

/-- The file that the handle of a task is saved in.  It stands beside the control directory
and not in it. -/
def handleFile
    (workspace : Workspace)
    (id : Text) : Path :=
  workspace.tasksDirectory.joinText (id ++ ".toml".toList)

/-- The name of a workspace in messages. -/
def name (workspace : Workspace) : Text :=
  match workspace.root.fileName? with
  | some bytes => Utf8.decodeLossy bytes
  | none => workspace.root.shown

/-- Open a workspace: make its root if need be, and make it absolute and plain, because it
ends up between quotes in a command. -/
def openAt (root : Path) : TaskProgram Workspace := do
  TaskProgram.createDirectories root
  let full ← TaskProgram.absolute root
  pure ⟨full.plain⟩

/-- How many names are tried for a control directory. -/
def attempts : Nat := 16

/-- Claim a free name for a control directory.  Making the directory is the one step that
decides who gets a name. -/
def claim
    (workspace : Workspace) : Nat → TaskProgram Text
  | 0 => throw (.noFreeName workspace.tasksDirectory)
  | remaining + 1 => do
      let id := TaskId.ofWord (← TaskProgram.ask .freshWord)
      let made ← TaskProgram.createDirectory (workspace.controlDirectory id)
      TaskProgram.note .debug
      if made then
        pure id
      else
        workspace.claim remaining

/-- Make a control directory that was never used before, and answer with its id. -/
def allocate (workspace : Workspace) : TaskProgram Text := do
  TaskProgram.createDirectories workspace.tasksDirectory
  workspace.claim attempts

end Workspace

end DetachedTasks
