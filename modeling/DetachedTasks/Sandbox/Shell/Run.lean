import DetachedTasks.Sandbox.Shell.Programs
import DetachedTasks.Sandbox.Shell.Tree

/-!
# Running the small shell

A command changes the process that runs it.  A script that does not end is stopped after a
fixed number of nested steps.
-/

namespace DetachedTasks.Sandbox.Shell

/-- A process that reads what its redirections say and has printed nothing yet. -/
def prepared
    (process : Process)
    (redirects : List Redirect) : Process :=
  let input := redirects.foldl
    (fun input redirect =>
      match redirect with
      | .readFrom file => fileContent process 0 (process.fileName file)
      | _ => input)
    process.input
  { process with input, output := [], diagnostics := [] }

/-- Send what a command printed to where its redirections say; `before` is the process as it
was before the command. -/
def delivered
    (before after : Process)
    (redirects : List Redirect) : Process :=
  let (process, printed, complained) :=
    redirects.foldl
      (fun (state : Process × Bytes × Bytes) redirect =>
        let (process, printed, complained) := state
        let place (file : Word) (change : Bytes → Bytes) : Process :=
          match process.system.rewriteFile (process.fileName file) change with
          | .ok system => { process with system }
          | .error _ => process
        match redirect with
        | .toDiagnostics => (process, [], complained ++ printed)
        | .toOutput => (process, printed ++ complained, [])
        | .diagnosticsTo _ => (process, printed, [])
        | .writeTo file => (place file fun _ => printed, [], complained)
        | .appendTo file => (place file (· ++ printed), [], complained)
        | .readFrom _ => state)
      (after, after.output, after.diagnostics)
  let reads := redirects.any fun redirect =>
    match redirect with
    | .readFrom _ => true
    | _ => false
  { process with
    input := if reads then before.input else process.input
    output := before.output ++ printed
    diagnostics := before.diagnostics ++ complained }

/-- A word of the form `name=value`, as the name and the value. -/
def assignment? (fields : List Text) : Option (Text × Text) :=
  match fields with
  | [text] =>
      match text.takeWhile isNamePart, text.dropWhile isNamePart with
      | first :: name, '=' :: value =>
          if isNameStart first then some (first :: name, value) else none
      | _, _ => none
  | _ => none

/-- Read a line into variables; the last one gets all that is left of it. -/
def readLine
    (process : Process)
    (names : List Text) : Process :=
  let line := process.input.takeWhile (· != 10)
  let rest := process.input.dropWhile (· != 10)
  let taken := (Text.splitOn ' ' (Utf8.decodeLossy line)).filter (!List.isEmpty ·)
  let filled := names.zipIdx.foldl
    (fun (process : Process) (name, index) =>
      let value :=
        if index + 1 = names.length then Text.joinWith [' '] (taken.drop index)
        else (taken[index]?).getD []
      process.set name value)
    process
  { filled with
    input := rest.drop 1
    status := if rest.isEmpty then 1 else 0 }

/-- Commands of the shell itself that come to nothing here. -/
def idleCommands : List Text :=
  [":".toList, "set".toList, "trap".toList, "wait".toList, "umask".toList,
   "ulimit".toList, "shift".toList]

mutual

/-- Run a command. -/
def execute
    (fuel : Nat)
    (tree : Tree)
    (process : Process) : Process :=
  match fuel with
  | 0 => { process with ended := true }
  | fuel + 1 =>
      if process.ended then
        process
      else
        match tree with
        | .nothing => process
        | .sequence first second => execute fuel second (execute fuel first process)
        | .both first second =>
            let middle := execute fuel first process
            if middle.status = 0 then execute fuel second middle else middle
        | .either first second =>
            let middle := execute fuel first process
            if middle.status = 0 then middle else execute fuel second middle
        | .pipe first second =>
            let left := execute fuel first { process with output := [] }
            let right :=
              execute fuel second
                { process.after left with input := left.output, output := process.output }
            process.after right
        | .loop wanted test body =>
            let tested := execute fuel test process
            if (tested.status == 0) == wanted then
              execute fuel (.loop wanted test body) (execute fuel body tested)
            else
              tested.withStatus 0
        | .branch test yes no =>
            let tested := execute fuel test process
            execute fuel (if tested.status = 0 then yes else no) (tested.withStatus 0)
        | .each name words body =>
            let (words, process) := settleAll fuel words process
            executeEach fuel name (words.flatMap process.fields) body process
        | .group inside => process.after (execute fuel inside process)
        | .redirected inside redirects =>
            delivered process (execute fuel inside (prepared process redirects)) redirects
        | .negated inside =>
            let tested := execute fuel inside process
            tested.withStatus (if tested.status = 0 then 1 else 0)
        | .simple words redirects =>
            let (words, process) := settleAll fuel words process
            let assignments := words.map fun word => assignment? (process.fields word)
            let ready := prepared process redirects
            let done :=
              if assignments.all (·.isSome) then
                (assignments.filterMap id).foldl
                  (fun process pair => process.set pair.1 pair.2) (ready.withStatus 0)
              else
                executeFields fuel (words.flatMap process.fields) ready
            delivered process done redirects

/-- Run the scripts whose output is a part of a word. -/
def settle
    (fuel : Nat)
    (word : Word)
    (process : Process) : Word × Process :=
  match fuel with
  | 0 => (word, process)
  | fuel + 1 =>
      match word with
      | [] => ([], process)
      | .substitution script quoted :: rest =>
          let inner := execute fuel (read script) { process with output := [] }
          let text := Text.dropEndWhile (· == '\n') (Utf8.decodeLossy inner.output)
          let (parts, last) :=
            settle fuel rest { process.after inner with output := process.output }
          (.value text quoted :: parts, last)
      | part :: rest =>
          let (parts, last) := settle fuel rest process
          (part :: parts, last)

/-- Run the scripts whose output is a part of some words. -/
def settleAll
    (fuel : Nat)
    (words : List Word)
    (process : Process) : List Word × Process :=
  match fuel with
  | 0 => (words, process)
  | fuel + 1 =>
      match words with
      | [] => ([], process)
      | word :: rest =>
          let (first, middle) := settle fuel word process
          let (others, last) := settleAll fuel rest middle
          (first :: others, last)

/-- Run a command once for each value of a variable. -/
def executeEach
    (fuel : Nat)
    (name : Text)
    (values : List Text)
    (body : Tree)
    (process : Process) : Process :=
  match fuel with
  | 0 => process
  | fuel + 1 =>
      match values with
      | [] => process
      | value :: rest =>
          executeEach fuel name rest body (execute fuel body (process.set name value))

/-- Run a simple command, given by its name and its arguments. -/
def executeFields
    (fuel : Nat)
    (fields : List Text)
    (process : Process) : Process :=
  match fuel with
  | 0 => process
  | fuel + 1 =>
      match fields with
      | [] => process
      | name :: arguments =>
          if name = "exit".toList then
            { process with
              status :=
                match arguments with
                | code :: _ => ((integer code) % 256).toNat
                | [] => process.status
              ended := true }
          else if name = "kill".toList then
            { process with ended := true }
          else if name = "cd".toList then
            let path := Path.ofText (arguments.head?.getD [])
            match process.system.entryAt path, process.system.absolute path with
            | .ok (_, .directory), .ok full =>
                { process with
                  system := { process.system with currentDirectory := full }
                  status := 0 }
            | _, _ => process.withStatus 2
          else if name = "export".toList then
            (arguments.filterMap fun field => assignment? [field]).foldl
              (fun process pair => process.set pair.1 pair.2) (process.withStatus 0)
          else if name = "exec".toList then
            { executeFields fuel arguments process with ended := true }
          else if name = "read".toList then
            readLine process (arguments.filter fun argument => argument.head? != some '-')
          else if idleCommands.contains name then
            process.withStatus 0
          else if name = "echo".toList then
            printWords process true arguments
          else if name = "sh".toList then
            executeScript fuel arguments process
          else
            runProgram process name arguments

/-- Run a shell in a process of its own. -/
def executeScript
    (fuel : Nat)
    (arguments : List Text)
    (process : Process) : Process :=
  match fuel with
  | 0 => process
  | fuel + 1 =>
      match arguments with
      | flag :: script :: parameters =>
          if flag = "-c".toList then
            process.after
              (execute fuel (read script)
                { process with
                  parameters := if parameters.isEmpty then ["sh".toList] else parameters })
          else
            process.withStatus 2
      | _ => process

end

/-- How many steps a process may take. -/
def patience : Nat := 200000

/-- Run a program to its end; nothing can be read from its standard input. -/
def run
    (system : Posix)
    (bindings : List (Text × Text))
    (name : Text)
    (arguments : List Text) : Process :=
  let process : Process :=
    { system
      bindings
      parameters := [name]
      input := []
      output := []
      diagnostics := []
      status := 0
      ended := false }
  if name = "sh".toList then
    executeScript patience arguments process
  else
    runProgram process name arguments

end DetachedTasks.Sandbox.Shell
