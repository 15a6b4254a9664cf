import DetachedTasks.Application
import DetachedTasks.Proofs.TaskFootprints

/-!
# The loop of a wait

A wait polls until it has a verdict.  Between two polls it reads the clock and pauses, but it
asks for no file and prints nothing.  So whatever all polls of a task keep to, a wait for the
task keeps to, and so does whoever follows the task.
-/

namespace DetachedTasks

namespace Handle

/-- When the log grew last, after a poll. -/
def renew
    (lastProgress : Duration)
    (progressed : Bool) : Program Duration :=
  if progressed then Program.request .now else pure lastProgress

/-- How long the task has been idle by now, if that is too long; without a limit nobody reads
the clock. -/
def overdueNow?
    (options : PollOptions)
    (lastProgress : Duration) : Program (Option Duration) :=
  if options.staleAfter.isSome then do
    let now ← Program.request .now
    pure (overdue? options lastProgress now)
  else
    pure none

/-- What follows a poll that has found no result: give up, or pause and go on. -/
def goOn
    (workspace : Workspace)
    (options : PollOptions)
    (remaining : Nat)
    (lastProgress : Duration)
    (handle : Handle) : Option Duration → Program WaitOutcome
  | some idle =>
      .ask (.note .warn) fun _ => .done ⟨.error (.stale { id := handle.id, idle }), handle⟩
  | none =>
      .ask (.pause options.interval) fun _ =>
        pollUntil workspace options remaining lastProgress handle

/-- What follows a poll. -/
def afterPoll
    (workspace : Workspace)
    (options : PollOptions)
    (remaining : Nat)
    (lastProgress : Duration)
    (outcome : PollOutcome) : Program WaitOutcome :=
  match outcome.verdict with
  | .error fault => .done ⟨.error fault, outcome.handle⟩
  | .ok (some result) => .done ⟨.ok (some result), outcome.handle⟩
  | .ok none =>
      (renew lastProgress outcome.progressed).bind fun last =>
        (overdueNow? options last).bind fun overdue =>
          goOn workspace options remaining last outcome.handle overdue

theorem pollUntil_succ
    (workspace : Workspace)
    (options : PollOptions)
    (remaining : Nat)
    (lastProgress : Duration)
    (handle : Handle) :
    pollUntil workspace options (remaining + 1) lastProgress handle =
      (handle.poll workspace).bind fun outcome =>
        afterPoll workspace options remaining lastProgress outcome := by
  refine congrArg (handle.poll workspace).bind (funext fun outcome => ?_)
  rcases outcome with ⟨fault | result?, progressed, next⟩
  · rfl
  · cases result? with
    | some result => rfl
    | none =>
        simp only [afterPoll, renew, overdueNow?]
        cases progressed with
        | true =>
            cases options.staleAfter.isSome with
            | true => rfl
            | false => rfl
        | false =>
            cases options.staleAfter.isSome with
            | true => rfl
            | false => rfl

end Handle

/-! ## Between two polls -/

/-- To look at files only, and to print nothing. -/
def Terms.quiet : Terms where
  allowed := fun
    | .file call => ∃ path, call.LooksAt path
    | .deliver _ => False
    | .print _ => False
    | .printLine _ => False
    | _ => True
  fair := fun _ _ => True

/-- Whoever may do whatever is quiet may run a quiet program. -/
theorem Program.Meets.of_quiet
    {terms : Terms}
    {promise : α → Prop}
    {program : Program α}
    (meets : program.Meets Terms.quiet promise)
    (quiet : ∀ request, Terms.quiet.allowed request → terms.allowed request) :
    program.Meets terms promise :=
  meets.weaken quiet (fun _ _ _ => trivial) fun _ kept => kept

section Waiting

variable {workspace : Workspace}

/-- Between two polls nobody asks for files. -/
theorem Handle.renew_isQuiet
    (lastProgress : Duration)
    (progressed : Bool) :
    (renew lastProgress progressed).Meets Terms.quiet fun _ => True := by
  cases progressed with
  | true => exact ⟨trivial, fun _ _ => trivial⟩
  | false => trivial

theorem Handle.overdueNow?_isQuiet
    (options : PollOptions)
    (lastProgress : Duration) :
    (overdueNow? options lastProgress).Meets Terms.quiet fun _ => True := by
  rw [overdueNow?]
  split
  · exact ⟨trivial, fun _ _ => trivial⟩
  · trivial

theorem Handle.watch_isQuiet
    (handle : Handle)
    (options : PollOptions) :
    (handle.watch workspace options).Meets Terms.quiet fun _ => True := by
  rw [watch]
  split
  · exact ⟨trivial, fun _ _ => ⟨trivial, fun _ _ => trivial⟩⟩
  · trivial

/-! ## From poll to poll -/

/-- Terms under which a wait goes on from poll to poll.  Every poll has a verdict as promised,
and so has a wait that has no polls left or gives up a stale task. -/
structure Terms.CarriesWait
    (terms : Terms)
    (workspace : Workspace)
    (promise : Except TaskFault (Option TaskResult) → Prop) : Prop where
  quiet : ∀ request, Terms.quiet.allowed request → terms.allowed request
  poll : ∀ handle : Handle,
    (handle.poll workspace).Meets terms fun outcome => promise outcome.verdict
  unfinished : promise (.ok none)
  stale : ∀ task, promise (.error (.stale task))

namespace Terms.CarriesWait

variable {terms : Terms} {promise : Except TaskFault (Option TaskResult) → Prop}

theorem pollUntil
    (carries : terms.CarriesWait workspace promise)
    (options : PollOptions)
    (remaining : Nat)
    (lastProgress : Duration)
    (handle : Handle) :
    (Handle.pollUntil workspace options remaining lastProgress handle).Meets terms
      fun outcome => promise outcome.verdict := by
  -- A poll moves the handle and may renew the last progress, so both vary.
  induction remaining generalizing lastProgress handle with
  | zero => exact carries.unfinished
  | succ remaining inductionHypothesis =>
      rw [Handle.pollUntil_succ]
      refine Program.Meets.bind (carries.poll handle) fun outcome kept => ?_
      rcases outcome with ⟨fault | result?, progressed, next⟩
      · exact kept
      · cases result? with
        | some result => exact kept
        | none =>
            refine Program.Meets.bind ((Handle.renew_isQuiet _ _).of_quiet carries.quiet)
              fun last _ => ?_
            refine Program.Meets.bind ((Handle.overdueNow?_isQuiet _ _).of_quiet carries.quiet)
              fun overdue _ => ?_
            cases overdue with
            | some idle => exact ⟨carries.quiet _ trivial, fun _ _ => carries.stale _⟩
            | none => exact ⟨carries.quiet _ trivial, fun _ _ => inductionHypothesis _ _⟩

theorem wait
    (carries : terms.CarriesWait workspace promise)
    (options : PollOptions)
    (polls : Nat)
    (handle : Handle) :
    (handle.wait workspace options polls).Meets terms fun outcome =>
      promise outcome.verdict :=
  Program.Meets.bind ((handle.watch_isQuiet _).of_quiet carries.quiet) fun _ _ =>
    ⟨carries.quiet _ trivial, fun _ _ => carries.pollUntil _ _ _ _⟩

/-- Whoever follows a task ends with the exit code of a result that the wait has found, or
with nothing. -/
theorem follow
    (carries : terms.CarriesWait workspace promise)
    {wanted : Option Int32 → Prop}
    (unfinished : wanted none)
    (finished : ∀ result : TaskResult,
      promise (.ok (some result)) → wanted (some result.exitCode))
    (settings : Settings)
    (polls : Nat)
    (handle : Handle) :
    (Application.follow workspace settings polls handle).Meets terms wanted := by
  have waits : TaskProgram.Meets terms (fun outcome => promise outcome.verdict)
      (ExceptT.lift (handle.wait workspace settings.pollOptions polls)) := by
    refine Program.Meets.bind (carries.wait _ _ _) fun outcome kept => ?_
    intro value same
    cases same
    exact kept
  refine TaskProgram.Meets.bind waits fun outcome kept => ?_
  split
  · exact TaskProgram.Meets.throw _
  · exact TaskProgram.Meets.pure unfinished
  · rename_i result answered
    have ended : wanted (some result.exitCode) := finished result (answered ▸ kept)
    cases result.output.isSome with
    | true =>
        exact TaskProgram.Meets.ask (carries.quiet _ trivial) fun _ _ =>
          TaskProgram.Meets.pure ended
    | false => exact TaskProgram.Meets.pure ended

end Terms.CarriesWait

end Waiting

end DetachedTasks
