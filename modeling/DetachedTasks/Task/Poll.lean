import DetachedTasks.Settings
import DetachedTasks.Task.Handle

/-!
# Polling

One poll cycle hands on what was added to the log and then looks at the result.  The child
closes its log before it writes its result, so one more copy after the result was seen makes
the log complete.

To wait is to poll until there is a result.  As a missing result cannot be told apart from a
dead process, waiting may give up when neither the log grows nor a result appears for long
enough.
-/

namespace DetachedTasks

/-- What is known of a task that has ended. -/
structure TaskResult where
  exitCode : Int32
  /-- The captured output, if the task captures it. -/
  output : Option Bytes
  deriving Repr, DecidableEq

/-- A task succeeded if its exit code is zero. -/
def TaskResult.success (result : TaskResult) : Bool :=
  result.exitCode == 0

/-- What one poll cycle came to. -/
structure PollOutcome where
  /-- The result, if the task has ended, or what went wrong. -/
  verdict : Except TaskFault (Option TaskResult)
  /-- Some log was handed on during this cycle. -/
  progressed : Bool
  /-- The handle with its new offset, which counts also if something went wrong later. -/
  handle : Handle

namespace Handle

/-- The second half of a poll cycle, for a task that has ended: hand on the rest of the log,
and read the captured output. -/
def finish
    (handle : Handle)
    (workspace : Workspace)
    (progressed : Bool)
    (exitCode : Int32) : Program PollOutcome := do
  match ← (handle.copyLog workspace).run with
  | .error fault => pure ⟨.error fault, progressed, handle⟩
  | .ok (more, handle) =>
      match ← (handle.output workspace).run with
      | .error fault => pure ⟨.error fault, progressed || more, handle⟩
      | .ok output =>
          Program.request (.note .info)
          pure ⟨.ok (some { exitCode, output }), progressed || more, handle⟩

/-- One poll cycle: hand on new log, look at the result, and if there is one hand on the rest
of the log. -/
def poll
    (handle : Handle)
    (workspace : Workspace) : Program PollOutcome := do
  match ← (handle.copyLog workspace).run with
  | .error fault => pure ⟨.error fault, false, handle⟩
  | .ok (progressed, handle) =>
      match ← (handle.status workspace).run with
      | .error fault => pure ⟨.error fault, progressed, handle⟩
      | .ok .running => pure ⟨.ok none, progressed, handle⟩
      | .ok (.complete exitCode) => handle.finish workspace progressed exitCode

/-- Begin to watch the control directory, if that is wanted.  Watching only makes polling
faster; where it is not possible the fixed interval has to do. -/
def watch
    (handle : Handle)
    (workspace : Workspace)
    (options : PollOptions) : Program Unit := do
  if options.fileEvents then
    let watched ← Program.request (.watch (handle.directory workspace))
    Program.request (.note (if watched then .info else .warn))

/-- How long a task has been idle, if that is too long. -/
def overdue?
    (options : PollOptions)
    (lastProgress now : Duration) : Option Duration :=
  match options.staleAfter with
  | none => none
  | some patience =>
      let idle := now.since lastProgress
      if patience.nanoseconds ≤ idle.nanoseconds then some idle else none

/-- What waiting for a task came to: its result, nothing if the polls were used up first, or
what went wrong; and the handle with its new offset. -/
structure WaitOutcome where
  verdict : Except TaskFault (Option TaskResult)
  handle : Handle

/-- Poll at most the given number of times; `lastProgress` is when the log grew last. -/
def pollUntil
    (workspace : Workspace)
    (options : PollOptions) :
    Nat → Duration → Handle → Program WaitOutcome
  | 0, _, handle => pure ⟨.ok none, handle⟩
  | remaining + 1, lastProgress, handle => do
      let outcome ← handle.poll workspace
      match outcome.verdict with
      | .error fault => pure ⟨.error fault, outcome.handle⟩
      | .ok (some result) => pure ⟨.ok (some result), outcome.handle⟩
      | .ok none => do
          let lastProgress ←
            if outcome.progressed then Program.request .now else pure lastProgress
          let overdue ←
            if options.staleAfter.isSome then do
              let now ← Program.request .now
              pure (overdue? options lastProgress now)
            else
              pure none
          match overdue with
          | some idle => do
              Program.request (.note .warn)
              pure ⟨.error (.stale { id := outcome.handle.id, idle }), outcome.handle⟩
          | none => do
              Program.request (.pause options.interval)
              pollUntil workspace options remaining lastProgress outcome.handle

/-- Wait until the task has ended, with at most the given number of polls. -/
def wait
    (handle : Handle)
    (workspace : Workspace)
    (options : PollOptions)
    (polls : Nat) : Program WaitOutcome := do
  handle.watch workspace options
  let start ← Program.request .now
  pollUntil workspace options polls start handle

end Handle

end DetachedTasks
