import DetachedTasks.Duration
import DetachedTasks.FileSystem.Call
import DetachedTasks.Launch.Order
import DetachedTasks.Level

/-!
# Programs

What a task does is a program: a tree of single requests to the world outside, each followed
by a continuation for every possible answer.  One request is the unit that nothing else can
get into.  Between two requests anything may happen: other programs may act on the same
files, and the process may be killed.  A handler that carries a state gives a program its
meaning.
-/

namespace DetachedTasks

/-- Why a sink takes no more of what it is given. -/
inductive SinkFault where
  /-- The sink accepted nothing of what was left. -/
  | tookNothing
  | writeRefused
  | flushRefused
  deriving Repr, DecidableEq

/-- The wording of a sink fault. -/
def SinkFault.message : SinkFault → Text
  | .tookNothing => "failed to write whole buffer".toList
  | .writeRefused => "write refused".toList
  | .flushRefused => "flush refused".toList

/-- A single request to the world outside. -/
inductive Request where
  /-- One call on the file system. -/
  | file (call : FileCall)
  /-- Hand all of a chunk to the sink of the log. -/
  | deliver (chunk : Bytes)
  /-- Make the sink pass on what it was handed. -/
  | flush
  /-- A log event. -/
  | note (level : Level)
  /-- A number that nobody can foresee. -/
  | freshWord
  /-- Start a process. -/
  | start (order : LaunchOrder)
  /-- Show a line in the live log. -/
  | announce (line : Text)
  /-- Begin to watch a directory; the answer says whether that is possible. -/
  | watch (directory : Path)
  /-- Read the clock. -/
  | now
  /-- Wait, at most for the given time, and less if a watched directory changes. -/
  | pause (time : Duration)
  /-- Write all of some bytes to standard output. -/
  | print (content : Bytes)
  /-- Print a line on standard output; a process that cannot do so ends there. -/
  | printLine (line : Text)
  deriving Repr, DecidableEq

/-- The answer to a request. -/
@[reducible]
def Request.Answer : Request → Type
  | .file call => call.Answer
  | .deliver _ => Except SinkFault Unit
  | .flush => Except SinkFault Unit
  | .note _ => Unit
  | .freshWord => UInt32
  | .start _ => Except SystemFault Unit
  | .announce _ => Unit
  | .watch _ => Bool
  | .now => Duration
  | .pause _ => Unit
  | .print _ => Except SystemFault Unit
  | .printLine _ => Unit

/-- A program that ends with a value. -/
inductive Program (α : Type) : Type where
  | done (value : α)
  | ask (request : Request) (resume : request.Answer → Program α)

namespace Program

/-- Go on with the value that a program ends with. -/
def bind
    (program : Program α)
    (next : α → Program β) : Program β :=
  match program with
  | .done value => next value
  | .ask request resume => .ask request fun answer => (resume answer).bind next

instance : Monad Program where
  pure := .done
  bind := bind

/-- Put one request. -/
def request (request : Request) : Program request.Answer :=
  .ask request .done

@[simp]
theorem pure_bind
    (value : α)
    (next : α → Program β) :
    (Program.done value).bind next = next value := rfl

/-- Ending with the value of a program changes nothing. -/
@[simp]
theorem bind_done (program : Program α) :
    program.bind .done = program := by
  induction program with
  | done value => rfl
  | ask request resume inductionHypothesis =>
      simp only [bind]
      congr 1
      funext answer
      exact inductionHypothesis answer

/-- Going on twice is going on once with the rest. -/
theorem bind_assoc
    (program : Program α)
    (next : α → Program β)
    (last : β → Program γ) :
    (program.bind next).bind last = program.bind fun value => (next value).bind last := by
  induction program with
  | done value => rfl
  | ask request resume inductionHypothesis =>
      simp only [bind]
      congr 1
      funext answer
      exact inductionHypothesis answer

instance : LawfulMonad Program :=
  LawfulMonad.mk' Program bind_done (fun _ _ => rfl) bind_assoc

/-- A way to answer requests that carries a state. -/
abbrev Handler (State : Type) :=
  (request : Request) → State → request.Answer × State

/-- Run a program to its end. -/
def run
    (handler : Handler State) : Program α → State → α × State
  | .done value, state => (value, state)
  | .ask request resume, state =>
      let (answer, next) := handler request state
      (resume answer).run handler next

@[simp]
theorem run_done
    (handler : Handler State)
    (value : α)
    (state : State) :
    (Program.done value).run handler state = (value, state) := rfl

/-- To run a program and go on is to run the one and then the other. -/
@[simp]
theorem run_bind
    (handler : Handler State)
    (program : Program α)
    (next : α → Program β)
    (state : State) :
    (program.bind next).run handler state =
      (next (program.run handler state).1).run handler (program.run handler state).2 := by
  induction program generalizing state with
  | done value => rfl
  | ask request resume inductionHypothesis =>
      simp only [bind, run]
      exact inductionHypothesis _ _

end Program

end DetachedTasks
