import DetachedTasks.Proofs.StorageSpots
import DetachedTasks.Sandbox.World

/-!
# Programs in a sandbox

What a program comes to in a world whose launch orders are kept.  The world may refuse
directories as taken and let a write fail, and the numbers that are drawn may be any.
-/

namespace DetachedTasks

/-! ## What a program comes to -/

/-- A program that is run at a stretch ends with a goal. -/
def Program.Ensures
    (handler : Program.Handler State)
    (goal : α → State → Prop)
    (program : Program α)
    (state : State) : Prop :=
  goal (program.run handler state).1 (program.run handler state).2

/-- A goal of a whole program is reached by a goal in the middle from which the rest reaches it.
-/
theorem Program.Ensures.bind
    {handler : Program.Handler State}
    {middle : α → State → Prop}
    {goal : β → State → Prop}
    {program : Program α}
    {next : α → Program β}
    {state : State}
    (first : program.Ensures handler middle state)
    (rest : ∀ value later, middle value later → (next value).Ensures handler goal later) :
    (program.bind next).Ensures handler goal state := by
  rw [Program.Ensures, Program.run_bind]
  exact rest _ _ first

/-- The same for a program that may end with a fault. -/
def TaskProgram.Ensures
    (handler : Program.Handler State)
    (goal : Except TaskFault α → State → Prop)
    (program : TaskProgram α)
    (state : State) : Prop :=
  program.run.Ensures handler goal state

namespace TaskProgram.Ensures

variable {State : Type} {handler : Program.Handler State} {state : State}
  {goal : Except TaskFault β → State → Prop}

/-- What ensures a goal ensures everything that follows from it. -/
theorem weaken
    {stronger : Except TaskFault β → State → Prop}
    {program : TaskProgram β}
    (ensures : program.Ensures handler stronger state)
    (implies : ∀ outcome later, stronger outcome later → goal outcome later) :
    program.Ensures handler goal state :=
  implies _ _ ensures

theorem pure
    {value : β}
    (reached : goal (.ok value) state) :
    TaskProgram.Ensures handler goal (Pure.pure value) state := reached

theorem throw
    {fault : TaskFault}
    (reached : goal (.error fault) state) :
    TaskProgram.Ensures handler goal (MonadExcept.throw fault) state := reached

/-- Both ways on from the middle have to reach the goal: the value that is handed on, and the
fault that skips the rest. -/
theorem bind
    {middle : Except TaskFault α → State → Prop}
    {program : TaskProgram α}
    {next : α → TaskProgram β}
    (first : program.Ensures handler middle state)
    (goesOn : ∀ value later, middle (.ok value) later → (next value).Ensures handler goal later)
    (stops : ∀ fault later, middle (.error fault) later → goal (.error fault) later) :
    (program >>= next).Ensures handler goal state := by
  refine Program.Ensures.bind first ?_
  intro outcome later reached
  cases outcome with
  | ok value => exact goesOn value later reached
  | error fault => exact stops fault later reached

/-- A rescue has to reach the goal from whatever fault may come; a value passes it untouched. -/
theorem tryCatch
    {middle : Except TaskFault β → State → Prop}
    {program : TaskProgram β}
    {rescue : TaskFault → TaskProgram β}
    (first : program.Ensures handler middle state)
    (passes : ∀ value later, middle (.ok value) later → goal (.ok value) later)
    (rescued : ∀ fault later, middle (.error fault) later →
      (rescue fault).Ensures handler goal later) :
    TaskProgram.Ensures handler goal (MonadExcept.tryCatch program rescue) state := by
  refine Program.Ensures.bind first ?_
  intro outcome later reached
  cases outcome with
  | ok value => exact passes value later reached
  | error fault => exact rescued fault later reached

/-- A request is answered at once, and the rest starts from the answer and from what the world
has become. -/
theorem ask
    {request : Request}
    {next : request.Answer → TaskProgram β}
    (goesOn : (next (handler request state).1).Ensures handler goal (handler request state).2) :
    TaskProgram.Ensures handler goal (TaskProgram.ask request >>= next) state := goesOn

/-- A single call of the file system, whose answer is the outcome up to the name of the fault. -/
theorem call
    {call : FileCall}
    {answer : call.Answer → Except FileFault β}
    (reached : goal ((answer (handler (.file call) state).1).mapError .files)
      (handler (.file call) state).2) :
    TaskProgram.Ensures handler goal
      (do TaskProgram.fileAnswer (answer (← TaskProgram.ask (.file call)))) state := by
  apply ask
  cases outcome : answer (handler (.file call) state).1 with
  | ok value =>
      rw [outcome] at reached
      exact reached
  | error fault =>
      rw [outcome] at reached
      exact reached

end TaskProgram.Ensures

namespace Sandbox.World

variable {supply : Nat → UInt32} {world : World}

/-- Answer a request, with drawn numbers from a supply. -/
def drawing (supply : Nat → UInt32) : Program.Handler World
  | .freshWord, world => (supply world.drawn, { world with drawn := world.drawn + 1 })
  | request, world => handler request world

/-- The world draws from one supply. -/
theorem drawing_drawWord : drawing drawWord = handler := by
  funext request world
  cases request <;> rfl

/-! ## What can be seen of a world -/

/-- The files of a world, its orders, which it keeps, and the directories that were made one at
a time. -/
structure Shows
    (world : World)
    (storage : Storage)
    (orders : List LaunchOrder)
    (made : List Path) : Prop where
  storage : world.storage = storage
  starter : world.starter = .keeping
  orders : world.orders = orders
  made : world.made = made

namespace Shows

variable {storage : Storage} {orders : List LaunchOrder} {made : List Path}

/-- A plain world answers a call as its storage does, and is as plain afterwards. -/
theorem answerPlainly
    (shown : world.Shows storage orders made)
    (call : FileCall) :
    (world.answerPlainly call).1 = (storage.answer call).1 ∧
      (world.answerPlainly call).2.Shows (storage.answer call).2 orders made := by
  rw [World.answerPlainly, shown.storage]
  exact ⟨rfl, rfl, shown.starter, shown.orders, shown.made⟩

/-- A log event leaves everything that is shown as it was. -/
theorem note
    (shown : world.Shows storage orders made)
    (level : Level) :
    (drawing supply (.note level) world).2.Shows storage orders made :=
  ⟨shown.storage, shown.starter, shown.orders, shown.made⟩

/-- To draw a word for an id leaves everything that is shown as it was. -/
theorem draw
    (shown : world.Shows storage orders made) :
    (drawing supply .freshWord world).2.Shows storage orders made :=
  ⟨shown.storage, shown.starter, shown.orders, shown.made⟩

/-- An order to start a process is shown in front of the earlier ones, and the storage is left
alone. -/
theorem start
    (shown : world.Shows storage orders made)
    (order : LaunchOrder) :
    (drawing supply (.start order) world).2.Shows storage (order :: orders) made := by
  change (world.takeOrder order).2.Shows storage (order :: orders) made
  rw [takeOrder, shown.starter]
  exact ⟨shown.storage, rfl, congrArg (order :: ·) shown.orders, shown.made⟩

/-- Making directories fails with a fault of the file system only, and either way the storage is
what the call made of it. -/
theorem createDirectories
    (shown : world.Shows storage orders made)
    (path : Path) :
    (TaskProgram.createDirectories path).Ensures (drawing supply)
      (fun outcome later =>
        (∀ fault, outcome = .error fault → ∃ cause, fault = .files cause) ∧
          later.Shows (storage.answer (.createDirectories path)).2 orders made) world := by
  apply TaskProgram.Ensures.call
  refine ⟨?_, (shown.answerPlainly (.createDirectories path)).2⟩
  intro fault failed
  change Except.mapError TaskFault.files (world.answerPlainly (.createDirectories path)).1 =
    .error fault at failed
  cases answered : (world.answerPlainly (.createDirectories path)).1 with
  | ok value =>
      rw [answered] at failed
      cases failed
  | error cause =>
      rw [answered] at failed
      injection failed with same
      exact ⟨cause, same.symm⟩

/-- A directory is made, or nothing happens. -/
theorem createDirectory
    (shown : world.Shows storage orders made)
    (path : Path) :
    (TaskProgram.createDirectory path).Ensures (drawing supply)
      (fun outcome later =>
        (∃ after, outcome = .ok true ∧ storage.Gains path after ∧
          later.Shows after orders (path :: made)) ∨
        (outcome = .ok false ∨ ∃ cause, outcome = .error (.files cause)) ∧
          later.Shows storage orders made) world := by
  have counted :
      { world with directoryCalls := world.directoryCalls + 1 }.Shows storage orders made :=
    ⟨shown.storage, shown.starter, shown.orders, shown.made⟩
  obtain ⟨answered, after⟩ := counted.answerPlainly (.createDirectory path)
  have settled :
      (∃ after, (world.answerFile (.createDirectory path)).1 = .ok true ∧
        storage.Gains path after ∧
        (world.answerFile (.createDirectory path)).2.Shows after orders (path :: made)) ∨
      ((world.answerFile (.createDirectory path)).1 = .ok false ∨
          ∃ cause, (world.answerFile (.createDirectory path)).1 = .error cause) ∧
        (world.answerFile (.createDirectory path)).2.Shows storage orders made := by
    rw [answerFile]
    simp only
    split
    · exact Or.inr ⟨Or.inl rfl, shown.storage, shown.starter, shown.orders, shown.made⟩
    · rw [answered]
      by_cases wasMade : (storage.answer (.createDirectory path)).1 = .ok true
      · rw [wasMade]
        exact Or.inl ⟨_, rfl, Storage.gains_of_made wasMade, after.storage, after.starter,
          after.orders, congrArg (path :: ·) after.made⟩
      · rw [Storage.answer_of_not_made wasMade] at after
        cases outcome : (storage.answer (.createDirectory path)).1 with
        | error fault => exact Or.inr ⟨Or.inr ⟨fault, rfl⟩, after⟩
        | ok value =>
            cases value with
            | true => exact absurd outcome wasMade
            | false => exact Or.inr ⟨Or.inl rfl, after⟩
  apply TaskProgram.Ensures.call
  rcases settled with ⟨after, isMade, gains, later⟩ | ⟨notMade | ⟨fault, failed⟩, later⟩
  · exact Or.inl ⟨after, congrArg (Except.mapError TaskFault.files) isMade, gains, later⟩
  · exact Or.inr ⟨Or.inl (congrArg (Except.mapError TaskFault.files) notMade), later⟩
  · exact Or.inr ⟨Or.inr ⟨fault, congrArg (Except.mapError TaskFault.files) failed⟩, later⟩

/-- A file is written, or nothing happens. -/
theorem write
    (shown : world.Shows storage orders made)
    (path : Path)
    (content : Bytes) :
    (TaskProgram.write path content).Ensures (drawing supply)
      (fun outcome later =>
        (∃ after, outcome = .ok () ∧ storage.Receives path content after ∧
          later.Shows after orders made) ∨
        ∃ fault, outcome = .error (.files fault) ∧ later.Shows storage orders made)
      world := by
  have plainly : ∀ {other : World}, other.Shows storage orders made →
      (∃ after, (other.answerPlainly (.write path content)).1 = .ok () ∧
        storage.Receives path content after ∧
        (other.answerPlainly (.write path content)).2.Shows after orders made) ∨
      ∃ fault, (other.answerPlainly (.write path content)).1 = .error fault ∧
        (other.answerPlainly (.write path content)).2.Shows storage orders made := by
    intro other otherShown
    obtain ⟨answered, after⟩ := otherShown.answerPlainly (.write path content)
    rw [answered]
    rcases storage.receives_or_refuses path content with
      ⟨written, receives⟩ | ⟨fault, refused, same⟩
    · exact Or.inl ⟨_, written, receives, after⟩
    · rw [same] at after
      exact Or.inr ⟨fault, refused, after⟩
  have settled :
      (∃ after, (world.answerFile (.write path content)).1 = .ok () ∧
        storage.Receives path content after ∧
        (world.answerFile (.write path content)).2.Shows after orders made) ∨
      ∃ fault, (world.answerFile (.write path content)).1 = .error fault ∧
        (world.answerFile (.write path content)).2.Shows storage orders made := by
    rw [answerFile]
    split
    · exact Or.inr ⟨_, rfl, shown.storage, shown.starter, shown.orders, shown.made⟩
    · exact plainly ⟨shown.storage, shown.starter, shown.orders, shown.made⟩
    · exact plainly shown
  apply TaskProgram.Ensures.call
  rcases settled with ⟨after, written, receives, later⟩ | ⟨fault, refused, later⟩
  · exact Or.inl ⟨after, congrArg (Except.mapError TaskFault.files) written, receives, later⟩
  · exact Or.inr ⟨fault, congrArg (Except.mapError TaskFault.files) refused, later⟩

end Shows

end Sandbox.World

end DetachedTasks
