import DetachedTasks.FileSystem.Posix
import DetachedTasks.Sandbox.Shell.Arithmetic

/-!
# Processes of the small shell

A process has its view of the files, its variables, what it may still read, and what it has
printed so far.
-/

namespace DetachedTasks.Sandbox.Shell

/-- A process that runs. -/
structure Process where
  system : Posix
  bindings : List (Text × Text)
  /-- The name of the script and its arguments. -/
  parameters : List Text
  /-- What is left to be read. -/
  input : Bytes
  output : Bytes
  diagnostics : Bytes
  status : Nat
  /-- The process has ended. -/
  ended : Bool

namespace Process

/-- The value of a variable that a name stands for. -/
def lookup
    (process : Process)
    (name : Text) : Text :=
  ((process.bindings.find? (·.1 = name)).map (·.2)).getD []

/-- The value of a variable; a default may stand behind its name. -/
def get
    (process : Process)
    (name : Text) : Text :=
  match name with
  | ['?'] => Text.natural process.status
  | ['#'] => Text.natural (process.parameters.length - 1)
  | ['@'] => Text.joinWith [' '] (process.parameters.drop 1)
  | ['*'] => Text.joinWith [' '] (process.parameters.drop 1)
  | ['$'] => ['1']
  | _ =>
      match Text.readDigits? 10 name with
      | some index => (process.parameters[index]?).getD []
      | none =>
          let value := process.lookup (name.takeWhile isNamePart)
          match name.dropWhile isNamePart with
          | ':' :: '-' :: default => if value.isEmpty then default else value
          | _ => value

/-- Set a variable. -/
def set
    (process : Process)
    (name value : Text) : Process :=
  { process with
    bindings := (name, value) :: process.bindings.filter (·.1 ≠ name) }

/-- The number that a variable holds. -/
def number
    (process : Process)
    (name : Text) : Int :=
  let value := process.get name
  match value with
  | '-' :: digits => -((Text.readDigits? 10 digits).getD 0 : Int)
  | digits => (Text.readDigits? 10 digits).getD 0

/-- The text of a part. -/
def partText
    (process : Process) : Part → Text
  | .literal text => text
  | .variable name _ => process.get name
  | .arithmetic expression =>
      Text.integer (arithmetic process.number expression)
  | .substitution _ _ => []
  | .value text _ => text

/-- Whether the text of a part is cut at blanks. -/
def isOpen : Part → Bool
  | .variable _ quoted => !quoted
  | .value _ quoted => !quoted
  | _ => false

/-- The fields that a word comes to: a value that is not quoted is cut at blanks, and a word
that came to nothing is left out. -/
def fields
    (process : Process)
    (word : Word) : List Text :=
  if word = [.literal [], .variable ['@'] true] then
    process.parameters.drop 1
  else if word.all fun part => isOpen part && (process.partText part).isEmpty then
    []
  else if word.any isOpen then
    (word.foldl
      (fun (fields : List Text) part =>
        let text := process.partText part
        let pieces :=
          if isOpen part then
            Text.splitOn ' ' (text.map fun c => if Text.isBlank c then ' ' else c)
          else
            [text]
        match fields.reverse, pieces with
        | last :: before, piece :: rest => before.reverse ++ (last ++ piece) :: rest
        | _, _ => fields)
      [[]]).filter (!List.isEmpty ·)
  else
    [word.flatMap process.partText]

/-- The text of a word that is a file name. -/
def fileName
    (process : Process)
    (word : Word) : Path :=
  Path.ofText (word.flatMap process.partText)

/-- Print bytes. -/
def print
    (process : Process)
    (content : Bytes) : Process :=
  { process with output := process.output ++ content }

/-- Print diagnostics. -/
def complain
    (process : Process)
    (message : Text) : Process :=
  { process with
    diagnostics := process.diagnostics ++ Utf8.encode (message ++ ['\n'])
    status := 1 }

/-- End a command with a status. -/
def withStatus
    (process : Process)
    (status : Nat) : Process :=
  { process with status }

/-- What a process is after another one that it started has ended: the files and what was
printed are shared, and nothing else. -/
def after (process inner : Process) : Process :=
  { process with
    system :=
      { inner.system with
        currentDirectory := process.system.currentDirectory
        stranded := process.system.stranded }
    output := inner.output
    diagnostics := inner.diagnostics
    status := inner.status }

end Process

end DetachedTasks.Sandbox.Shell
