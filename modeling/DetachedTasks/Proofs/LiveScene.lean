import DetachedTasks.Proofs.ChildDeeds
import DetachedTasks.Task.Poll

/-!
# Scenes

A scene is what a program and a child share: the files, the turns in which the child acts
before each of the next requests of the program, and a sink that may refuse what it is given.
Every copy of new log is kept as an attempt, with what the log held when it was read and what
the sink received of it.
-/

namespace DetachedTasks

open Sandbox

/-- What a sink does with what it is given next. -/
inductive SinkMood where
  | accepts
  /-- It receives the first bytes, if it is given any, and then it refuses. -/
  | refuses (received : Nat) (cause : SinkFault)
  deriving Repr, DecidableEq

namespace SinkMood

/-- A sink in these moods takes the next chunk and passes it on: it refuses neither the write
nor the flush after it. -/
def Accepting (moods : List SinkMood) : Prop :=
  ∀ mood ∈ moods.take 2, mood = .accepts

instance (moods : List SinkMood) : Decidable (Accepting moods) :=
  inferInstanceAs (Decidable (∀ mood ∈ moods.take 2, mood = .accepts))

/-- A sink that never refuses accepts. -/
theorem accepting_of_forall
    {moods : List SinkMood}
    (willing : ∀ mood ∈ moods, mood = .accepts) :
    Accepting moods :=
  fun mood member => willing mood (List.mem_of_mem_take member)

/-- Whatever is not said of a sink, it accepts. -/
theorem accepting_iff (moods : List SinkMood) :
    Accepting moods ↔
      moods.headD .accepts = .accepts ∧ moods.tail.headD .accepts = .accepts := by
  rw [Accepting]
  rcases moods with - | ⟨write, - | ⟨flush, rest⟩⟩
  · simp
  · simp
  · simp

end SinkMood

/-- One copy of new log. -/
structure Attempt where
  /-- The offset that the log was read from. -/
  offset : Nat
  /-- What the log held when it was read. -/
  log : Bytes
  /-- What the sink received. -/
  received : Bytes
  /-- The sink passed on all that it was given. -/
  accepted : Bool
  deriving Repr, DecidableEq

/-- An attempt of which the sink knows nothing yet. -/
def Attempt.begun
    (storage : Storage)
    (path : Path)
    (offset : UInt64) : Attempt :=
  { offset := offset.toNat
    log := storage.content path
    received := []
    accepted := false }

/-- An attempt succeeded if there was something to copy and the sink passed it on. -/
def Attempt.succeeded (attempt : Attempt) : Bool :=
  attempt.offset < attempt.log.length && attempt.accepted

/-- A program and a child at work on the same files. -/
structure Scene where
  storage : Storage
  /-- What the child does before each of the next requests. -/
  turns : List (List Deed)
  /-- What the sink does with each of the next chunks and flushes; at the end it accepts. -/
  moods : List SinkMood
  /-- The copies of new log, last one first. -/
  attempts : List Attempt
  deriving Repr

namespace Scene

/-- Let the child have its turn. -/
def advance
    (directory : Path)
    (scene : Scene) : Scene :=
  match scene.turns with
  | [] => scene
  | deeds :: turns =>
      { scene with
        storage := Deed.performAll directory scene.storage deeds
        turns }

/-- What the sink does next. -/
def mood (scene : Scene) : SinkMood :=
  scene.moods.headD .accepts

/-- Keep what the sink did with a chunk. -/
def receive
    (scene : Scene)
    (received : Bytes) : Scene :=
  { scene with
    moods := scene.moods.tail
    attempts := scene.attempts.modifyHead fun attempt =>
      { attempt with received := attempt.received ++ received } }

/-- Keep what the sink did with a flush. -/
def passOn
    (scene : Scene)
    (accepted : Bool) : Scene :=
  { scene with
    moods := scene.moods.tail
    attempts := scene.attempts.modifyHead fun attempt => { attempt with accepted } }

/-- Answer a request at once. -/
def respond : Program.Handler Scene
  | .file (.readFrom path offset), scene =>
      ((scene.storage.answer (.readFrom path offset)).1,
        { scene with
          attempts := .begun scene.storage path offset :: scene.attempts })
  | .file call, scene =>
      let (answer, storage) := scene.storage.answer call
      (answer, { scene with storage })
  | .deliver chunk, scene =>
      match scene.mood with
      | .accepts => (.ok (), scene.receive chunk)
      | .refuses received cause => (.error cause, scene.receive (chunk.take received))
  | .flush, scene =>
      match scene.mood with
      | .accepts => (.ok (), scene.passOn true)
      | .refuses _ cause => (.error cause, scene.passOn false)
  | .note _, scene => ((), scene)
  | .freshWord, scene => (0, scene)
  | .start _, scene => (.ok (), scene)
  | .announce _, scene => ((), scene)
  | .watch _, scene => (false, scene)
  | .now, scene => (⟨0⟩, scene)
  | .pause _, scene => ((), scene)
  | .print _, scene => (.ok (), scene)
  | .printLine _, scene => ((), scene)

/-- Answer a request after the child had its turn. -/
def handler (directory : Path) : Program.Handler Scene :=
  fun request scene => respond request (scene.advance directory)

/-- Run a program to its end. -/
def run
    (directory : Path)
    (program : Program α)
    (scene : Scene) : α × Scene :=
  program.run (handler directory) scene

/-! ### Running -/

section Running

variable {directory : Path} {scene : Scene}

/-- A scene is played program by program. -/
theorem run_bind
    (program : Program α)
    (next : α → Program β) :
    run directory (program >>= next) scene =
      run directory (next (run directory program scene).1)
        (run directory program scene).2 :=
  Program.run_bind _ _ _ _

/-- A request is answered, and what follows goes on with the answer. -/
theorem run_ask
    (request : Request)
    (next : request.Answer → TaskProgram α) :
    run directory (TaskProgram.ask request >>= next).run scene =
      run directory (next (handler directory request scene).1).run
        (handler directory request scene).2 := rfl

/-- A call that succeeded hands its value on. -/
theorem run_fileAnswer_ok
    (value : α)
    (next : α → TaskProgram β) :
    run directory (TaskProgram.fileAnswer (.ok value) >>= next).run scene =
      run directory (next value).run scene := rfl

/-- A call that failed ends the program with its fault. -/
theorem run_fileAnswer_error
    (cause : FileFault)
    (next : α → TaskProgram β) :
    run directory (TaskProgram.fileAnswer (.error cause) >>= next).run scene =
      (.error (.files cause), scene) := rfl

theorem run_pure (value : α) :
    run directory (pure value : TaskProgram α).run scene = (.ok value, scene) := rfl

theorem run_throw (fault : TaskFault) :
    run directory (throw fault : TaskProgram α).run scene = (.error fault, scene) := rfl

/-- Before the question is answered the child takes its turn. -/
theorem run_isDirectory
    (path : Path)
    (next : Bool → TaskProgram α) :
    run directory (TaskProgram.isDirectory path >>= next).run scene =
      run directory
        (next (decide ((scene.advance directory).storage.look path = some .directory))).run
        (scene.advance directory) := by
  have answered :=
    congrArg (fun answer : Bool => run directory (next answer).run (scene.advance directory))
      ((scene.advance directory).storage.answer_isDirectory path)
  rw [← answered, TaskProgram.isDirectory, run_ask]
  show run directory _
      { scene.advance directory with
        storage := ((scene.advance directory).storage.answer (.isDirectory path)).2 } = _
  rw [Storage.answer_isDirectory_snd]
  rfl

/-- Whether something is there is asked of the files after the turn of the child. -/
theorem run_exists
    (path : Path)
    (next : Bool → TaskProgram α) :
    run directory (TaskProgram.exists? path >>= next).run scene =
      run directory
        (next ((scene.advance directory).storage.look path).isSome).run
        (scene.advance directory) := by
  have answered :=
    congrArg (fun answer : Bool => run directory (next answer).run (scene.advance directory))
      ((scene.advance directory).storage.answer_exists path)
  rw [← answered, TaskProgram.exists?, run_ask]
  show run directory _
      { scene.advance directory with
        storage := ((scene.advance directory).storage.answer (.exists path)).2 } = _
  rw [Storage.answer_exists_snd]
  rfl

/-- A file that is there after the turn of the child is read as it stands then. -/
theorem run_read_file
    {path : Path}
    {held : Bytes}
    (isFile : (scene.advance directory).storage.look path = some (.file held))
    (next : Bytes → TaskProgram α) :
    run directory (TaskProgram.read path >>= next).run scene =
      run directory (next held).run (scene.advance directory) := by
  have unchanged := (scene.advance directory).storage.answer_read_snd path
  have answered := Storage.answer_read_file isFile
  show run directory
      (TaskProgram.fileAnswer
        ((scene.advance directory).storage.answer (.read path)).1 >>= next).run
      { scene.advance directory with
        storage := ((scene.advance directory).storage.answer (.read path)).2 } = _
  rw [answered, unchanged, run_fileAnswer_ok]

/-- Where no file is to be read the program ends there. -/
theorem run_read_other
    {path : Path}
    (noFile : ∀ held, (scene.advance directory).storage.look path ≠ some (.file held))
    (next : Bytes → TaskProgram α) :
    ∃ cause,
      run directory (TaskProgram.read path >>= next).run scene =
        (.error (.files cause), scene.advance directory) := by
  have unchanged := (scene.advance directory).storage.answer_read_snd path
  obtain ⟨cause, answered⟩ := Storage.answer_read_other noFile
  refine ⟨cause, ?_⟩
  show run directory
      (TaskProgram.fileAnswer
        ((scene.advance directory).storage.answer (.read path)).1 >>= next).run
      { scene.advance directory with
        storage := ((scene.advance directory).storage.answer (.read path)).2 } = _
  rw [answered, unchanged, run_fileAnswer_error]

/-- The scene after the log was read from an offset on. -/
def reading
    (directory path : Path)
    (offset : UInt64)
    (scene : Scene) : Scene :=
  { scene.advance directory with
    attempts :=
      .begun (scene.advance directory).storage path offset
        :: (scene.advance directory).attempts }

/-- Reading on from an offset is put down as an attempt, before anything is known about its
answer. -/
theorem run_readFrom
    (path : Path)
    (offset : UInt64)
    (next : Bytes → TaskProgram α) :
    run directory (TaskProgram.readFrom path offset >>= next).run scene =
      run directory
        (TaskProgram.fileAnswer
          ((scene.advance directory).storage.answer (.readFrom path offset)).1 >>= next).run
        (scene.reading directory path offset) := rfl

end Running

/-! ### What passes between two moments -/

/-- From one moment to a later one only the child has changed the files. -/
structure Leads
    (directory : Path)
    (scene after : Scene) : Prop where
  acted : ∃ count,
    after.turns = scene.turns.drop count ∧
      after.storage =
        Deed.performAll directory scene.storage (scene.turns.take count).flatten
  moods : after.moods <:+ scene.moods

namespace Leads

variable {directory : Path} {scene middle after : Scene}

/-- A scene leads to itself. -/
theorem refl
    (directory : Path)
    (scene : Scene) :
    Leads directory scene scene where
  acted := ⟨0, rfl, rfl⟩
  moods := List.suffix_refl _

/-- What a scene leads to leads on. -/
theorem trans
    (first : Leads directory scene middle)
    (second : Leads directory middle after) :
    Leads directory scene after where
  acted := by
    obtain ⟨count, turns, storage⟩ := first.acted
    obtain ⟨more, turnsAfter, storageAfter⟩ := second.acted
    refine ⟨count + more, ?_, ?_⟩
    · rw [turnsAfter, turns, List.drop_drop]
    · rw [storageAfter, storage, turns, ← Deed.performAll_append, ← List.flatten_append,
        ← List.take_add]
  moods := second.moods.trans first.moods

/-- One turn of the child. -/
theorem advance (scene : Scene) :
    Leads directory scene (scene.advance directory) where
  acted := by
    refine ⟨1, ?_⟩
    rcases scene with ⟨storage, turns, moods, attempts⟩
    cases turns with
    | nil => exact ⟨rfl, rfl⟩
    | cons deeds turns =>
        refine ⟨rfl, ?_⟩
        simp [Scene.advance]
  moods := by
    rcases scene with ⟨storage, turns, moods, attempts⟩
    cases turns <;> exact List.suffix_refl _

/-- What the sink does changes no files. -/
theorem receive
    (scene : Scene)
    (received : Bytes) :
    Leads directory scene (scene.receive received) where
  acted := ⟨0, rfl, rfl⟩
  moods := List.tail_suffix _

/-- Whether or not the sink passes on what it has, no file changes. -/
theorem passOn
    (scene : Scene)
    (accepted : Bool) :
    Leads directory scene (scene.passOn accepted) where
  acted := ⟨0, rfl, rfl⟩
  moods := List.tail_suffix _

/-- To read on changes no more than the child does in its turn. -/
theorem reading
    (scene : Scene)
    (path : Path)
    (offset : UInt64) :
    Leads directory scene (scene.reading directory path offset) :=
  (advance scene).trans ⟨⟨0, rfl, rfl⟩, List.suffix_refl _⟩

/-- The control directory stays what it is. -/
theorem look_directory
    (leads : Leads directory scene after) :
    after.storage.look directory = scene.storage.look directory := by
  obtain ⟨count, _, storage⟩ := leads.acted
  rw [storage, Deed.look_directory_performAll]

/-- The log only grows. -/
theorem log_grows
    (leads : Leads directory scene after) :
    scene.storage.content (directory.joinText Handle.logName) <+:
      after.storage.content (directory.joinText Handle.logName) := by
  obtain ⟨count, _, storage⟩ := leads.acted
  rw [storage]
  exact Deed.log_prefix_performAll _

end Leads

/-- The turn of the child is no attempt. -/
@[simp]
theorem advance_attempts
    (directory : Path)
    (scene : Scene) :
    (scene.advance directory).attempts = scene.attempts := by
  rw [advance]
  split <;> rfl

/-- The attempt is put down with the files that it meets. -/
theorem reading_attempts
    (directory path : Path)
    (offset : UInt64)
    (scene : Scene) :
    (scene.reading directory path offset).attempts =
      .begun (scene.advance directory).storage path offset :: scene.attempts := by
  rw [reading, advance_attempts]

/-- The turn of the child leaves the sink in its moods. -/
@[simp]
theorem advance_moods
    (directory : Path)
    (scene : Scene) :
    (scene.advance directory).moods = scene.moods := by
  rw [advance]
  split <;> rfl

end Scene

end DetachedTasks
