import DetachedTasks.Program
import DetachedTasks.Fault
import DetachedTasks.FileSystem.Memory

/-!
# Footprints of programs

A program meets some terms if every request that it can come to is allowed, whatever fair
answers it gets to the ones before.  This does not speak of files: whatever other programs do
to them between two requests, the requests stay allowed.
-/

namespace DetachedTasks

/-- What a program may ask, and what it may get for an answer. -/
structure Terms where
  allowed : Request → Prop
  fair : (request : Request) → request.Answer → Prop

/-- Every request that a program can come to is allowed, and every value that it can end with
is as promised. -/
def Program.Meets
    (terms : Terms)
    (promise : α → Prop) : Program α → Prop
  | .done value => promise value
  | .ask request resume =>
      terms.allowed request ∧
        ∀ answer, terms.fair request answer → (resume answer).Meets terms promise

namespace Program.Meets

variable {terms : Terms}

theorem bind
    {first : α → Prop}
    {second : β → Prop}
    {program : Program α}
    {next : α → Program β}
    (meets : program.Meets terms first)
    (goesOn : ∀ value, first value → (next value).Meets terms second) :
    (program.bind next).Meets terms second := by
  induction program with
  | done value => exact goesOn value meets
  | ask request resume inductionHypothesis =>
      refine ⟨meets.1, ?_⟩
      intro answer fair
      exact inductionHypothesis answer (meets.2 answer fair)

/-- Whoever is content with less is content. -/
theorem weaken
    {others : Terms}
    {first second : α → Prop}
    {program : Program α}
    (meets : program.Meets terms first)
    (allowed : ∀ request, terms.allowed request → others.allowed request)
    (fair : ∀ request answer, others.fair request answer → terms.fair request answer)
    (promise : ∀ value, first value → second value) :
    program.Meets others second := by
  induction program with
  | done value => exact promise value meets
  | ask request resume inductionHypothesis =>
      refine ⟨allowed request meets.1, ?_⟩
      intro answer isFair
      exact inductionHypothesis answer (meets.2 answer (fair request answer isFair))

end Program.Meets

/-- The same for a program that may end with a fault; a fault keeps every promise. -/
def TaskProgram.Meets
    (terms : Terms)
    (promise : α → Prop)
    (program : TaskProgram α) : Prop :=
  program.run.Meets terms fun outcome => ∀ value, outcome = .ok value → promise value

/-- A program of which nothing is wanted but its requests. -/
def TaskProgram.Keeps
    (terms : Terms)
    (program : TaskProgram α) : Prop :=
  program.Meets terms fun _ => True

namespace TaskProgram.Meets

variable {terms : Terms}

theorem pure
    {promise : α → Prop}
    {value : α}
    (kept : promise value) :
    TaskProgram.Meets terms promise (Pure.pure value) := by
  intro other same
  cases same
  exact kept

theorem throw
    {promise : α → Prop}
    (fault : TaskFault) :
    TaskProgram.Meets terms promise (MonadExcept.throw fault) := by
  intro value impossible
  cases impossible

theorem bind
    {first : α → Prop}
    {second : β → Prop}
    {program : TaskProgram α}
    {next : α → TaskProgram β}
    (meets : program.Meets terms first)
    (goesOn : ∀ value, first value → (next value).Meets terms second) :
    (program >>= next).Meets terms second := by
  refine Program.Meets.bind meets ?_
  intro outcome kept
  cases outcome with
  | ok value => exact goesOn value (kept value rfl)
  | error fault =>
      intro value impossible
      cases impossible

/-- A request is allowed, and what follows goes on with any fair answer. -/
theorem ask
    {promise : β → Prop}
    {request : Request}
    {next : request.Answer → TaskProgram β}
    (allowed : terms.allowed request)
    (goesOn : ∀ answer, terms.fair request answer → (next answer).Meets terms promise) :
    (TaskProgram.ask request >>= next).Meets terms promise :=
  ⟨allowed, goesOn⟩

/-- A last request is allowed. -/
theorem ask_last
    {request : Request}
    (allowed : terms.allowed request) :
    (TaskProgram.ask request).Keeps terms :=
  ⟨allowed, fun _ _ _ _ => trivial⟩

/-- A call on the file system is allowed, and what it may get for an answer keeps a
promise. -/
theorem call_of_fair
    {promise : α → Prop}
    {request : Request}
    {answer : request.Answer → Except FileFault α}
    (allowed : terms.allowed request)
    (kept : ∀ reply, terms.fair request reply →
      ∀ value, answer reply = .ok value → promise value) :
    TaskProgram.Meets terms promise
      (do TaskProgram.fileAnswer (answer (← TaskProgram.ask request))) := by
  refine ask allowed ?_
  intro reply fair
  cases outcome : answer reply with
  | ok value => exact pure (kept reply fair value outcome)
  | error fault => exact throw _

theorem call
    {request : Request}
    {answer : request.Answer → Except FileFault α}
    (allowed : terms.allowed request) :
    TaskProgram.Keeps terms (do TaskProgram.fileAnswer (answer (← TaskProgram.ask request))) :=
  call_of_fair allowed fun _ _ _ _ => trivial

theorem tryCatch
    {promise : α → Prop}
    {program : TaskProgram α}
    {rescue : TaskFault → TaskProgram α}
    (meets : program.Meets terms promise)
    (rescued : ∀ fault, (rescue fault).Meets terms promise) :
    TaskProgram.Meets terms promise (MonadExcept.tryCatch program rescue) := by
  refine Program.Meets.bind meets ?_
  intro outcome kept
  cases outcome with
  | ok value => exact kept
  | error fault => exact rescued fault

end TaskProgram.Meets

end DetachedTasks
