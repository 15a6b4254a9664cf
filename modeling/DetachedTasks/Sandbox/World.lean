import DetachedTasks.Sandbox.Shell.Run
import DetachedTasks.Sandbox.Sink
import DetachedTasks.Sandbox.Storage
import DetachedTasks.LiveLog
import DetachedTasks.Workspace

/-!
# The world of a sandbox

A world answers the requests of programs: it keeps their files, their sink, their clock and
their live log, and it starts their processes.  It can be told to let calls fail, and to
change files right after a flush, so that every order of events can be played.

A process runs to its end at the moment it is started.  In place of the script interpreter a
stand-in runs: it notes how it was called, writes a given log and output, and puts a given
result into the result file last.
-/

namespace DetachedTasks.Sandbox

/-- What the stand-in for the script interpreter does. -/
structure StandIn where
  log : Bytes
  output : Bytes
  /-- The content of the result file, if it is to be written at all. -/
  result : Option Bytes
  /-- A variable whose value goes into the log as well. -/
  variableName : Option Text
  deriving Repr, DecidableEq

/-- What becomes of launch orders. -/
inductive Starter where
  /-- Every order is kept and nothing is started. -/
  | keeping
  /-- Every order is kept and refused. -/
  | keepingAndRefusing
  /-- Every order is refused and forgotten. -/
  | refusing
  /-- Processes are started on this machine. -/
  | starting
  deriving Repr, DecidableEq

/-- The world that programs run in. -/
structure World where
  storage : Storage
  /-- The directory that holds everything, for a world with processes. -/
  home : Path
  /-- How many unforeseeable numbers were drawn. -/
  drawn : Nat
  clock : Duration
  sink : Sink
  /-- What is done to the files after each of the next flushes. -/
  hooks : List (List FileAction)
  /-- The lines of the live log. -/
  live : List Text
  /-- What followed processes print is printed as well. -/
  livePrinted : Bool
  printed : Bytes
  /-- The levels of the log events. -/
  levels : List Level
  /-- Whether calls are made to fail at present. -/
  faulty : Bool
  /-- How many of the next directories are refused as taken. -/
  collisions : Nat
  /-- How many writes succeed before one is made to fail. -/
  failingWrite : Option Nat
  /-- How many directories were asked for. -/
  directoryCalls : Nat
  /-- The directories that were made one at a time, last one first. -/
  made : List Path
  starter : Starter
  /-- The orders that were kept, last one first. -/
  orders : List LaunchOrder
  standIn : Option StandIn
  /-- Variables that processes inherit. -/
  inherited : List (Text × Text)

namespace World

/-- A world at its beginning. -/
def new
    (storage : Storage)
    (home : Path) : World :=
  { storage
    home
    drawn := 0
    clock := ⟨0⟩
    sink := Sink.accepting
    hooks := []
    live := []
    livePrinted := false
    printed := []
    levels := []
    faulty := false
    collisions := 0
    failingWrite := none
    directoryCalls := 0
    made := []
    starter := .keeping
    orders := []
    standIn := none
    inherited := [] }

/-! ### Files -/

/-- Answer a call without any interference. -/
def answerPlainly
    (world : World)
    (call : FileCall) : call.Answer × World :=
  let (answer, storage) := world.storage.answer call
  (answer, { world with storage })

/-- Answer a call, or make it fail. -/
def answerFile
    (world : World) : (call : FileCall) → call.Answer × World
  | .createDirectory path =>
      let counted := { world with directoryCalls := world.directoryCalls + 1 }
      if world.faulty && 0 < world.collisions then
        (.ok false, { counted with collisions := world.collisions - 1 })
      else
        let (answer, next) := counted.answerPlainly (.createDirectory path)
        match answer with
        | .ok true => (.ok true, { next with made := path :: next.made })
        | other => (other, next)
  | .write path content =>
      match world.faulty, world.failingWrite with
      | true, some 0 => (.error .refusedWrite, { world with failingWrite := none })
      | true, some (count + 1) =>
          ({ world with failingWrite := some count }).answerPlainly (.write path content)
      | _, _ => world.answerPlainly (.write path content)
  | call => world.answerPlainly call

/-- Do the first of the hooks. -/
def runHook (world : World) : World :=
  match world.hooks with
  | [] => world
  | actions :: rest =>
      { world with
        storage := actions.foldl Storage.act world.storage
        hooks := rest }

/-! ### Processes -/

/-- The content of the file that stands for the script interpreter. -/
def standInContent : Bytes :=
  Utf8.encode "#!/bin/sh\n# stand-in for the script interpreter\n".toList

/-- The directory with the programs of this world. -/
def programDirectory (world : World) : Path :=
  world.home.joinText "bin".toList

/-- Put the stand-in in place of the script interpreters. -/
def install
    (world : World)
    (standIn : StandIn) : World :=
  let place (storage : Storage) (name : Text) : Storage :=
    (storage.addFile (world.programDirectory.joinText name) standInContent).2
  { world with
    storage := place (place world.storage "pwsh".toList) "powershell.exe".toList
    standIn := some standIn }

/-- Whether a text holds a zero byte. -/
def hasZero (text : Text) : Bool :=
  text.contains '\x00'

/-- Whether an order holds a zero byte anywhere. -/
def orderHasZero (order : LaunchOrder) : Bool :=
  hasZero order.program || order.arguments.any hasZero
    || order.directory.bytes.contains 0
    || order.environment.assignments.any fun pair => hasZero pair.1 || hasZero pair.2

/-- A program that was found. -/
inductive Found where
  /-- The stand-in, under the name it was called by. -/
  | interpreter (name : Text)
  /-- A program of the small shell. -/
  | tool (name : Text)
  deriving Repr, DecidableEq

/-- The program at a path. -/
def programAt
    (system : Posix)
    (path : Path) : Except SystemFault Found :=
  let name := Utf8.decodeLossy (path.fileName?.getD [])
  let above := (path.parent?.map (·.shown)).getD []
  if (above = "/usr/bin".toList || above = "/bin".toList)
      && Shell.programs.contains name then
    .ok (.tool name)
  else
    match system.entryAt path with
    | .error fault => .error fault
    | .ok (_, .directory) => .error .permissionDenied
    | .ok (_, .file content) =>
        if content = standInContent then .ok (.interpreter name)
        else .error .permissionDenied

/-- Look a program up in directories, one after another.  A program that may not be run is
passed over, but is reported if there is no other. -/
def searchProgram
    (system : Posix)
    (name : Text)
    (refused : SystemFault) : List Path → Except SystemFault Found
  | [] => .error refused
  | directory :: rest =>
      match programAt system (directory.joinText name) with
      | .ok found => .ok found
      | .error .permissionDenied => searchProgram system name .permissionDenied rest
      | .error _ => searchProgram system name refused rest

/-- The directories that programs are looked up in. -/
def searchPath
    (world : World)
    (order : LaunchOrder) : List Path :=
  match order.environment.get? "PATH".toList with
  | some directories => (Text.splitOn ':' directories).map Path.ofText
  | none =>
      [world.programDirectory, Path.ofText "/usr/bin".toList, Path.ofText "/bin".toList]

/-- Find the program of an order, seen from the directory it starts in. -/
def findProgram
    (world : World)
    (system : Posix)
    (order : LaunchOrder) : Except SystemFault Found :=
  if order.program.isEmpty then .error .noEntry
  else if order.program.contains '/' then programAt system (Path.ofText order.program)
  else if Posix.longestName < (Utf8.encode order.program).length then .error .nameTooLong
  else searchProgram system order.program .noEntry (world.searchPath order)

/-- The variables that a process sees. -/
def environmentOf
    (world : World)
    (order : LaunchOrder) : List (Text × Text) :=
  let directories := Text.joinWith [':']
    [(world.programDirectory).shown, "/usr/bin".toList, "/bin".toList]
  order.environment.assignments.reverse
    ++ (world.inherited ++ [("PATH".toList, directories)]).filter fun pair =>
      (order.environment.get? pair.1).isNone

/-- The path that a command names behind a word. -/
def namedPath?
    (word : Text)
    (command : Text) : Option Path :=
  let mark := word ++ " '".toList
  let found := (List.range command.length).findSome? fun index =>
    Text.afterPrefix? mark (command.drop index)
  found.map fun rest =>
    let quoted := rest.takeWhile (· != '\'')
    let rec undo : Text → Text
      | [] => []
      | '\x60' :: '$' :: rest => '$' :: undo rest
      | character :: rest => character :: undo rest
    Path.ofText (undo quoted)

/-- Give a file new content, if that is possible. -/
def putFile
    (system : Posix)
    (path : Path)
    (content : Bytes) : Posix :=
  (system.rewriteFile path fun _ => content).toOption.getD system

/-- Let the stand-in run. -/
def runStandIn
    (world : World)
    (system : Posix)
    (standIn : StandIn)
    (name : Text)
    (order : LaunchOrder) : Posix :=
  let command := order.arguments.getLast?.getD []
  let lines :=
    (name :: order.arguments).map Utf8.encode ++ [system.currentDirectory.bytes]
  let noted :=
    putFile system (world.programDirectory.joinText "argv".toList)
      (lines.flatMap (· ++ [LiveLog.lineFeed]))
  let shown :=
    match standIn.variableName with
    | none => []
    | some wanted =>
        Utf8.encode
          ((((world.environmentOf order).find? (·.1 = wanted)).map (·.2)).getD [] ++ ['\n'])
  let logged :=
    match namedPath? "-LogFile".toList command with
    | some log => putFile noted log (standIn.log ++ shown)
    | none => noted
  let captured :=
    match namedPath? "-OutputFile".toList command with
    | some output => putFile logged output standIn.output
    | none => logged
  match namedPath? "-ResultFile".toList command, standIn.result with
  | some file, some content => putFile captured file content
  | _, _ => captured

/-- Relay what a process printed. -/
def relay
    (world : World)
    (content : Bytes) : World :=
  let lines := LiveLog.relayed [content] .closed
  if world.livePrinted then
    { world with
      printed := world.printed ++ lines.flatMap fun line => Utf8.encode (line ++ ['\n']) }
  else
    { world with live := world.live ++ lines }

/-- The bytes of an absolute name. -/
def absoluteBytes (names : List Bytes) : Bytes :=
  if names.isEmpty then [Path.slash]
  else names.flatMap (Path.slash :: ·)

/-- Start a process on this machine and run it to its end. -/
def startProcess
    (world : World)
    (order : LaunchOrder) : Except SystemFault Unit × World :=
  match world.storage with
  | .inMemory _ => (.error .noEntry, world)
  | .tree system =>
      if orderHasZero order then
        (.error .zeroByteInArgument, world)
      else
        match system.entryAt order.directory with
        | .error fault => (.error fault, world)
        | .ok (_, .file _) => (.error .notDirectory, world)
        | .ok (place, .directory) =>
            let inside :=
              match place with
              | .removed => system
              | .named names =>
                  { system with
                    currentDirectory := ⟨absoluteBytes names⟩
                    stranded := false }
            let outside (after : Posix) : Storage :=
              .tree
                { after with
                  currentDirectory := system.currentDirectory
                  stranded := system.stranded }
            match world.findProgram inside order with
            | .error fault => (.error fault, world)
            | .ok (.interpreter name) =>
                match world.standIn with
                | none => (.ok (), world)
                | some standIn =>
                    (.ok (),
                      { world with
                        storage := outside (world.runStandIn inside standIn name order) })
            | .ok (.tool name) =>
                let process :=
                  Shell.run inside (world.environmentOf order) name order.arguments
                let next := { world with storage := outside process.system }
                if order.relayOutput then
                  (.ok (), (next.relay process.output).relay process.diagnostics)
                else
                  (.ok (), next)

/-- Take a launch order. -/
def takeOrder
    (world : World)
    (order : LaunchOrder) : Except SystemFault Unit × World :=
  let kept := { world with orders := order :: world.orders }
  match world.starter with
  | .keeping => (.ok (), kept)
  | .keepingAndRefusing => (.error .noSuchProgram, kept)
  | .refusing => (.error .noSuchProgram, world)
  | .starting => world.startProcess order

/-! ### Requests -/

/-- The number that is drawn after a count of others: no two of the first four thousand
million are the same. -/
def drawWord (count : Nat) : UInt32 :=
  (count + 1).toUInt32 * 0x9E3779B1

/-- The time that passes in a pause: at least one millisecond. -/
def elapse
    (clock time : Duration) : Duration :=
  ⟨clock.nanoseconds + max time.nanoseconds (Duration.ofMilliseconds 1).nanoseconds⟩

/-- Answer a request. -/
def handler : Program.Handler World
  | .file call, world => world.answerFile call
  | .deliver chunk, world =>
      let (outcome, sink) := world.sink.deliver chunk
      (outcome, { world with sink })
  | .flush, world =>
      let (outcome, sink) := world.sink.flush
      match outcome with
      | .ok () => (.ok (), runHook { world with sink })
      | .error fault => (.error fault, { world with sink })
  | .note level, world => ((), { world with levels := world.levels ++ [level] })
  | .freshWord, world =>
      (drawWord world.drawn, { world with drawn := world.drawn + 1 })
  | .start order, world => world.takeOrder order
  | .announce line, world => ((), { world with live := world.live ++ [line] })
  | .watch directory, world => (world.storage.isWatchable directory, world)
  | .now, world => (world.clock, world)
  | .pause time, world => ((), { world with clock := elapse world.clock time })
  | .print content, world => (.ok (), { world with printed := world.printed ++ content })
  | .printLine line, world =>
      ((), { world with printed := world.printed ++ Utf8.encode (line ++ ['\n']) })

/-- Run a program that may end with a fault. -/
def run
    (world : World)
    (program : TaskProgram α) : Except TaskFault α × World :=
  Program.run handler (ExceptT.run program) world

end World

end DetachedTasks.Sandbox
