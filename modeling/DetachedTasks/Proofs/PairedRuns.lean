import DetachedTasks.Proofs.SandboxRuns
import DetachedTasks.Proofs.StorageShapes

/-!
# Two runs side by side

Two programs may run in two worlds that differ in their files alone.  They agree if they end
with one value; what may then be said of the two worlds is stated together, and it is carried
from request to request by rules like those for one run.  Noting and starting do not look at
the files, and in storages of one shape a file is written on both sides or on none.
-/

namespace DetachedTasks

open Sandbox (Storage World)

/-! ## Two programs side by side -/

/-- Two programs, each in a state of its own, end with one value and reach a goal together. -/
def Program.Agree
    (handler : Program.Handler State)
    (goal : α → State → State → Prop)
    (first second : Program α)
    (state other : State) : Prop :=
  ∃ value later laterOther,
    first.run handler state = (value, later) ∧
      second.run handler other = (value, laterOther) ∧ goal value later laterOther

/-- Two programs that agree on the way to a middle may go on with programs that agree from
there. -/
theorem Program.Agree.bind
    {handler : Program.Handler State}
    {middle : α → State → State → Prop}
    {goal : β → State → State → Prop}
    {first second : Program α}
    {next nextOther : α → Program β}
    {state other : State}
    (begins : Program.Agree handler middle first second state other)
    (rest : ∀ value later laterOther, middle value later laterOther →
      Program.Agree handler goal (next value) (nextOther value) later laterOther) :
    Program.Agree handler goal (first.bind next) (second.bind nextOther) state other := by
  obtain ⟨value, later, laterOther, runs, runsOther, reached⟩ := begins
  obtain ⟨last, final, finalOther, ends, endsOther, attained⟩ :=
    rest value later laterOther reached
  refine ⟨last, final, finalOther, ?_, ?_, attained⟩
  · rw [run_bind, runs]
    exact ends
  · rw [run_bind, runsOther]
    exact endsOther

/-- The same for programs that may end with a fault. -/
def TaskProgram.Agree
    (handler : Program.Handler State)
    (goal : Except TaskFault α → State → State → Prop)
    (first second : TaskProgram α)
    (state other : State) : Prop :=
  Program.Agree handler goal first.run second.run state other

namespace TaskProgram.Agree

variable {State : Type} {handler : Program.Handler State} {state other : State}
  {goal : Except TaskFault β → State → State → Prop}

/-- One program in one state. -/
theorem same
    {middle : Except TaskFault β → State → Prop}
    {program : TaskProgram β}
    (ensures : program.Ensures handler middle state) :
    Agree handler (fun outcome later laterOther => laterOther = later ∧ middle outcome later)
      program program state state :=
  ⟨_, _, _, rfl, rfl, rfl, ensures⟩

/-- Pairs that agree on a goal agree on all that follows from it. -/
theorem weaken
    {stronger : Except TaskFault β → State → State → Prop}
    {first second : TaskProgram β}
    (agree : Agree handler stronger first second state other)
    (implies : ∀ outcome later laterOther, stronger outcome later laterOther →
      goal outcome later laterOther) :
    Agree handler goal first second state other := by
  obtain ⟨outcome, later, laterOther, runs, runsOther, reached⟩ := agree
  exact ⟨outcome, later, laterOther, runs, runsOther, implies _ _ _ reached⟩

/-- The same value is handed on by both. -/
theorem pure
    {value : β}
    (reached : goal (.ok value) state other) :
    Agree handler goal (Pure.pure value) (Pure.pure value) state other :=
  ⟨_, _, _, rfl, rfl, reached⟩

/-- The same fault ends both. -/
theorem throw
    {fault : TaskFault}
    (reached : goal (.error fault) state other) :
    Agree handler goal (MonadExcept.throw fault) (MonadExcept.throw fault) state other :=
  ⟨_, _, _, rfl, rfl, reached⟩

/-- Both go on with the same value or stop with the same fault. -/
theorem bind
    {middle : Except TaskFault α → State → State → Prop}
    {first second : TaskProgram α}
    {next nextOther : α → TaskProgram β}
    (begins : Agree handler middle first second state other)
    (goesOn : ∀ value later laterOther, middle (.ok value) later laterOther →
      Agree handler goal (next value) (nextOther value) later laterOther)
    (stops : ∀ fault later laterOther, middle (.error fault) later laterOther →
      goal (.error fault) later laterOther) :
    Agree handler goal (first >>= next) (second >>= nextOther) state other := by
  refine Program.Agree.bind begins ?_
  intro outcome later laterOther reached
  cases outcome with
  | ok value => exact goesOn value later laterOther reached
  | error fault => exact ⟨_, _, _, rfl, rfl, stops fault later laterOther reached⟩

/-- Both are rescued from the same fault, or neither needs it. -/
theorem tryCatch
    {middle : Except TaskFault β → State → State → Prop}
    {first second : TaskProgram β}
    {rescue rescueOther : TaskFault → TaskProgram β}
    (begins : Agree handler middle first second state other)
    (passes : ∀ value later laterOther, middle (.ok value) later laterOther →
      goal (.ok value) later laterOther)
    (rescued : ∀ fault later laterOther, middle (.error fault) later laterOther →
      Agree handler goal (rescue fault) (rescueOther fault) later laterOther) :
    Agree handler goal (MonadExcept.tryCatch first rescue)
      (MonadExcept.tryCatch second rescueOther) state other := by
  refine Program.Agree.bind begins ?_
  intro outcome later laterOther reached
  cases outcome with
  | ok value => exact ⟨_, _, _, rfl, rfl, passes value later laterOther reached⟩
  | error fault => exact rescued fault later laterOther reached

/-- One request that gets one answer. -/
theorem ask
    {request : Request}
    {next nextOther : request.Answer → TaskProgram β}
    (sameAnswer : (handler request other).1 = (handler request state).1)
    (goesOn : Agree handler goal (next (handler request state).1)
      (nextOther (handler request state).1) (handler request state).2
      (handler request other).2) :
    Agree handler goal (TaskProgram.ask request >>= next)
      (TaskProgram.ask request >>= nextOther) state other := by
  rw [← sameAnswer] at goesOn
  obtain ⟨outcome, later, laterOther, runs, runsOther, reached⟩ := goesOn
  rw [sameAnswer] at runs
  exact ⟨outcome, later, laterOther, runs, runsOther, reached⟩

end TaskProgram.Agree

/-- A write is a single request, and its answer is the outcome. -/
theorem TaskProgram.run_write
    (handler : Program.Handler State)
    (path : Path)
    (content : Bytes)
    (state : State) :
    (TaskProgram.write path content).run.run handler state =
      ((handler (.file (.write path content)) state).1.mapError TaskFault.files,
        (handler (.file (.write path content)) state).2) := by
  change (TaskProgram.fileAnswer (handler (.file (.write path content)) state).1).run.run
    handler (handler (.file (.write path content)) state).2 = _
  cases (handler (.file (.write path content)) state).1 <;> rfl

/-! ## Two worlds side by side -/

/-- Two worlds that differ in their files alone. -/
structure Sandbox.World.Beside
    (orders : List LaunchOrder)
    (made : List Path)
    (files others : Storage)
    (first second : World) : Prop where
  shown : first.Shows files orders made
  second : second = { first with storage := others }

namespace Sandbox.World.Beside

variable {supply : Nat → UInt32} {orders : List LaunchOrder} {made : List Path}
  {files others : Storage} {first second : World}

/-- A world beside itself shows the same files twice. -/
theorem self
    (shown : first.Shows files orders made) :
    Beside orders made files files first first where
  shown := shown
  second := by rw [← shown.storage]

/-- Worlds beside each other that show the same files are the same world. -/
theorem eq_self
    (beside : Beside orders made files files first second) :
    first = second := by
  rw [beside.second, ← beside.shown.storage]

/-- What is noted changes nothing between the worlds. -/
theorem afterNote
    {goal : Except TaskFault β → World → World → Prop}
    {level : Level}
    {next nextOther : Unit → TaskProgram β}
    (beside : Beside orders made files others first second)
    (goesOn : ∀ later laterSecond, Beside orders made files others later laterSecond →
      TaskProgram.Agree (drawing supply) goal (next ()) (nextOther ()) later laterSecond) :
    TaskProgram.Agree (drawing supply) goal (TaskProgram.note level >>= next)
      (TaskProgram.note level >>= nextOther) first second := by
  refine TaskProgram.Agree.ask rfl (goesOn _ _ ⟨beside.shown.note level, ?_⟩)
  rw [beside.second]
  rfl

/-- An order to start a process is answered alike in both worlds. -/
theorem start
    (beside : Beside orders made files others first second)
    (supply : Nat → UInt32)
    (order : LaunchOrder) :
    (drawing supply (.start order) second).1 = (drawing supply (.start order) first).1 ∧
      Beside (order :: orders) made files others (drawing supply (.start order) first).2
        (drawing supply (.start order) second).2 := by
  have keeping := beside.shown.starter
  have taken : drawing supply (.start order) first =
      (.ok (), { first with orders := order :: first.orders }) := by
    change first.takeOrder order = _
    rw [takeOrder, keeping]
  have takenSecond : drawing supply (.start order) second =
      (.ok (), { second with orders := order :: second.orders }) := by
    change second.takeOrder order = _
    rw [takeOrder, beside.second]
    simp only [keeping]
  refine ⟨by rw [taken, takenSecond], beside.shown.start order, ?_⟩
  rw [taken, takenSecond, beside.second]

/-- A file was written on both sides or on none. -/
def Written
    (orders : List LaunchOrder)
    (made : List Path)
    (files others : Storage)
    (path : Path)
    (content other : Bytes)
    (outcome : Except ε Unit)
    (first second : World) : Prop :=
  (∃ after afterOther, outcome = .ok () ∧ after.SameShape afterOther ∧
    files.Receives path content after ∧ others.Receives path other afterOther ∧
    Beside orders made after afterOther first second) ∨
  ∃ fault, outcome = .error fault ∧ Beside orders made files others first second

/-- Worlds beside each other stay so, whatever their files become. -/
theorem store
    (beside : Beside orders made files others first second)
    (after afterOther : Storage) :
    Beside orders made after afterOther { first with storage := after }
      { second with storage := afterOther } where
  shown := ⟨rfl, beside.shown.starter, beside.shown.orders, beside.shown.made⟩
  second := by rw [beside.second]

/-- Two writes to one path are answered alike by files of one shape. -/
theorem answerPlainly
    (beside : Beside orders made files others first second)
    (shape : files.SameShape others)
    (path : Path)
    (content other : Bytes) :
    ∃ answer later laterSecond,
      first.answerPlainly (.write path content) = (answer, later) ∧
      second.answerPlainly (.write path other) = (answer, laterSecond) ∧
      Written orders made files others path content other answer later laterSecond := by
  have filesSecond : second.storage = others := congrArg World.storage beside.second
  rw [World.answerPlainly, World.answerPlainly, beside.shown.storage, filesSecond]
  rcases shape.write path content other with
    ⟨after, afterOther, written, writtenOther, sameShape⟩ | ⟨fault, refused, refusedOther⟩
  · rw [written, writtenOther]
    exact ⟨_, _, _, rfl, rfl, Or.inl ⟨after, afterOther, rfl, sameShape,
      Storage.receives_of_accepted written, Storage.receives_of_accepted writtenOther,
      beside.store after afterOther⟩⟩
  · rw [refused, refusedOther]
    exact ⟨_, _, _, rfl, rfl, Or.inr ⟨fault, rfl, beside.store files others⟩⟩

/-- Also a write that is made to fail fails on both sides. -/
theorem answerFile
    (beside : Beside orders made files others first second)
    (shape : files.SameShape others)
    (path : Path)
    (content other : Bytes) :
    ∃ answer later laterSecond,
      first.answerFile (.write path content) = (answer, later) ∧
      second.answerFile (.write path other) = (answer, laterSecond) ∧
      Written orders made files others path content other answer later laterSecond := by
  obtain ⟨shown, rfl⟩ := beside
  have counting : ∀ failing, Beside orders made files others
      { first with failingWrite := failing }
      { first with storage := others, failingWrite := failing } :=
    fun _ => ⟨⟨shown.storage, shown.starter, shown.orders, shown.made⟩, rfl⟩
  rw [World.answerFile, World.answerFile]
  dsimp only
  split
  · exact ⟨_, _, _, rfl, rfl, Or.inr ⟨_, rfl, counting none⟩⟩
  · exact (counting _).answerPlainly shape path content other
  · exact answerPlainly ⟨shown, rfl⟩ shape path content other

/-- Two writes to one path agree, on success and on failure. -/
theorem write
    (beside : Beside orders made files others first second)
    (shape : files.SameShape others)
    (path : Path)
    (content other : Bytes) :
    TaskProgram.Agree (drawing supply)
      (Written orders made files others path content other)
      (TaskProgram.write path content) (TaskProgram.write path other) first second := by
  obtain ⟨answer, later, laterSecond, answered, answeredSecond, written⟩ :=
    beside.answerFile shape path content other
  refine ⟨answer.mapError TaskFault.files, later, laterSecond, ?_, ?_, ?_⟩
  · rw [TaskProgram.run_write]
    change ((first.answerFile (.write path content)).1.mapError TaskFault.files,
      (first.answerFile (.write path content)).2) = _
    rw [answered]
  · rw [TaskProgram.run_write]
    change ((second.answerFile (.write path other)).1.mapError TaskFault.files,
      (second.answerFile (.write path other)).2) = _
    rw [answeredSecond]
  · rcases written with ⟨after, afterOther, rfl, done⟩ | ⟨fault, rfl, same⟩
    · exact Or.inl ⟨after, afterOther, rfl, done⟩
    · exact Or.inr ⟨_, rfl, same⟩

end Sandbox.World.Beside

end DetachedTasks
