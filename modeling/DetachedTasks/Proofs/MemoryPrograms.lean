import DetachedTasks.Fault
import DetachedTasks.FileSystem.Memory

/-!
# Programs on files in memory

A program is run one request at a time, so that anything may happen in between, or at a
stretch.  For a program that is run at a stretch a goal can be followed from request to
request, whatever the world outside answers to what is no file call.
-/

namespace DetachedTasks

/-- What the world outside answers to what is no file call. -/
structure Reply where
  delivered : Except SinkFault Unit
  flushed : Except SinkFault Unit
  word : UInt32
  started : Except SystemFault Unit
  watched : Bool
  time : Duration
  printed : Except SystemFault Unit

namespace Reply

/-- Everything goes well. -/
def calm : Reply where
  delivered := .ok ()
  flushed := .ok ()
  word := 0
  started := .ok ()
  watched := true
  time := ⟨0⟩
  printed := .ok ()

/-- Answer a request, with files in memory. -/
def respond (reply : Reply) : Program.Handler Memory
  | .file call, memory => memory.answer call
  | .deliver _, memory => (reply.delivered, memory)
  | .flush, memory => (reply.flushed, memory)
  | .note _, memory => ((), memory)
  | .freshWord, memory => (reply.word, memory)
  | .start _, memory => (reply.started, memory)
  | .announce _, memory => ((), memory)
  | .watch _, memory => (reply.watched, memory)
  | .now, memory => (reply.time, memory)
  | .pause _, memory => ((), memory)
  | .print _, memory => (reply.printed, memory)
  | .printLine _, memory => ((), memory)

end Reply

namespace Program

/-- Let a program do its next request. -/
def next
    (reply : Reply)
    (memory : Memory) : Program α → Program α × Memory
  | .done value => (.done value, memory)
  | .ask request resume =>
      let (answer, after) := reply.respond request memory
      (resume answer, after)

/-- Let a program do its next requests, with a reply for each of them. -/
def proceed
    (program : Program α)
    (memory : Memory) : List Reply → Program α × Memory
  | [] => (program, memory)
  | reply :: replies =>
      let (rest, after) := program.next reply memory
      rest.proceed after replies

/-- What a program has ended with. -/
def result? : Program α → Option α
  | .done value => some value
  | .ask _ _ => none

/-- A program that is not disturbed reaches a goal, if it ends. -/
def Secures
    (goal : α → Memory → Prop) : Program α → Memory → Prop
  | .done value, memory => goal value memory
  | .ask request resume, memory =>
      ∀ reply : Reply,
        (resume (reply.respond request memory).1).Secures goal
          (reply.respond request memory).2

/-- What secures a goal secures all that follows from it. -/
theorem Secures.weaken
    {first second : α → Memory → Prop}
    {program : Program α}
    {memory : Memory}
    (secures : program.Secures first memory)
    (implies : ∀ value after, first value after → second value after) :
    program.Secures second memory := by
  induction program generalizing memory with
  | done value => exact implies value memory secures
  | ask request resume inductionHypothesis =>
      intro reply
      exact inductionHypothesis _ (secures reply)

/-- A program secures a goal if it ends where the rest secures it. -/
theorem Secures.bind
    {program : Program α}
    {next : α → Program β}
    {goal : β → Memory → Prop}
    {memory : Memory}
    (secures : program.Secures (fun value after => (next value).Secures goal after) memory) :
    (program.bind next).Secures goal memory := by
  induction program generalizing memory with
  | done value => exact secures
  | ask request resume inductionHypothesis =>
      intro reply
      exact inductionHypothesis _ (secures reply)

/-- A program that has gone on for some requests still secures its goal. -/
theorem Secures.proceed
    {program : Program α}
    {goal : α → Memory → Prop}
    {memory : Memory}
    (secures : program.Secures goal memory)
    (replies : List Reply) :
    (program.proceed memory replies).1.Secures goal (program.proceed memory replies).2 := by
  induction replies generalizing program memory with
  | nil => exact secures
  | cons reply replies inductionHypothesis =>
      cases program with
      | done value => exact inductionHypothesis secures
      | ask request resume => exact inductionHypothesis (secures reply)

/-- What a program has ended with that was run one request at a time. -/
theorem Secures.of_result
    {program : Program α}
    {goal : α → Memory → Prop}
    {memory : Memory}
    (secures : program.Secures goal memory)
    {replies : List Reply}
    {value : α}
    (ended : (program.proceed memory replies).1.result? = some value) :
    goal value (program.proceed memory replies).2 := by
  have after := secures.proceed replies
  cases rest : (program.proceed memory replies).1 with
  | done other =>
      rw [rest] at after ended
      cases ended
      exact after
  | ask request resume =>
      rw [rest] at ended
      cases ended

end Program

/-! ### A world that keeps a state -/

/-- Answer a request, with files in memory and a world outside that has a state of its own. -/
def Memory.respond (outside : Program.Handler World) : Program.Handler (Memory × World)
  | .file call, (memory, world) => ((memory.answer call).1, (memory.answer call).2, world)
  | request, (memory, world) =>
      ((outside request world).1, memory, (outside request world).2)

/-- A goal that is reached whatever the world outside answers is reached in any world. -/
theorem Program.Secures.run
    {program : Program α}
    {goal : α → Memory → Prop}
    {memory : Memory}
    (secures : program.Secures goal memory)
    (outside : Program.Handler World)
    (world : World) :
    goal (program.run (Memory.respond outside) (memory, world)).1
      (program.run (Memory.respond outside) (memory, world)).2.1 := by
  induction program generalizing memory world with
  | done value => exact secures
  | ask request resume inductionHypothesis =>
      let answer := (outside request world).1
      cases request with
      | file call => exact inductionHypothesis _ (secures Reply.calm) world
      | deliver chunk =>
          exact inductionHypothesis _ (secures { Reply.calm with delivered := answer }) _
      | flush => exact inductionHypothesis _ (secures { Reply.calm with flushed := answer }) _
      | freshWord => exact inductionHypothesis _ (secures { Reply.calm with word := answer }) _
      | start order =>
          exact inductionHypothesis _ (secures { Reply.calm with started := answer }) _
      | watch directory =>
          exact inductionHypothesis _ (secures { Reply.calm with watched := answer }) _
      | now => exact inductionHypothesis _ (secures { Reply.calm with time := answer }) _
      | print content =>
          exact inductionHypothesis _ (secures { Reply.calm with printed := answer }) _
      | _ => exact inductionHypothesis _ (secures Reply.calm) _

/-- The same for a program that may end with a fault; a fault reaches every goal. -/
def TaskProgram.Secures
    (goal : α → Memory → Prop)
    (program : TaskProgram α)
    (memory : Memory) : Prop :=
  program.run.Secures (fun outcome after => ∀ value, outcome = .ok value → goal value after)
    memory

namespace TaskProgram.Secures

variable {memory : Memory}

theorem pure
    {goal : α → Memory → Prop}
    {value : α}
    (reached : goal value memory) :
    TaskProgram.Secures goal (Pure.pure value) memory := by
  intro other same
  cases same
  exact reached

theorem throw
    {goal : α → Memory → Prop}
    (fault : TaskFault) :
    TaskProgram.Secures goal (MonadExcept.throw fault) memory := by
  intro value impossible
  cases impossible

theorem weaken
    {first second : α → Memory → Prop}
    {program : TaskProgram α}
    (secures : program.Secures first memory)
    (implies : ∀ value after, first value after → second value after) :
    program.Secures second memory := by
  have weaker := Program.Secures.weaken secures
    fun outcome after reached value same => implies value after (reached value same)
  exact weaker

theorem bind
    {program : TaskProgram α}
    {next : α → TaskProgram β}
    {goal : β → Memory → Prop}
    (secures : program.Secures (fun value after => (next value).Secures goal after) memory) :
    (program >>= next).Secures goal memory := by
  apply Program.Secures.bind
  refine Program.Secures.weaken secures ?_
  intro outcome after reached
  cases outcome with
  | ok value => exact reached value rfl
  | error fault =>
      intro value impossible
      cases impossible

/-- A request may be answered in any way, and from each answer on the goal has to be secured. -/
theorem ask
    {request : Request}
    {next : request.Answer → TaskProgram β}
    {goal : β → Memory → Prop}
    (secures : ∀ reply : Reply,
      (next (reply.respond request memory).1).Secures goal (reply.respond request memory).2) :
    (TaskProgram.ask request >>= next).Secures goal memory :=
  secures

/-- A call on the file system reaches a goal if it does so where it succeeds. -/
theorem call
    {call : FileCall}
    {answer : call.Answer → Except FileFault α}
    {goal : α → Memory → Prop}
    (reached : ∀ value, answer (memory.answer call).1 = .ok value →
      goal value (memory.answer call).2) :
    TaskProgram.Secures goal
      (do TaskProgram.fileAnswer (answer (← TaskProgram.ask (.file call)))) memory := by
  refine ask fun reply => ?_
  show TaskProgram.Secures goal (TaskProgram.fileAnswer (answer (memory.answer call).1))
    (memory.answer call).2
  cases outcome : answer (memory.answer call).1 with
  | ok value => exact pure (reached value outcome)
  | error fault => exact throw _

end TaskProgram.Secures

end DetachedTasks
