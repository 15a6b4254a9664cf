import DetachedTasks.Proofs.MemoryPrograms
import DetachedTasks.Proofs.PollCycles
import DetachedTasks.Proofs.StoragePrograms
import DetachedTasks.Task.Watcher

/-!
# No change is missed

The wait for a task is taken apart into single steps: the requests of a poll, the look at the
clock, and in place of the pause the race between a timer and the next change.  Between any
two steps something may change in the control directory, and the watcher may be told of a
change that has happened.  The race may end by the timer at any moment, and then the wait for
a change is dropped, however far it has come.

What carries the argument is that signals are taken out of the queue only between the end of
one poll and the beginning of the next one.  So as long as the loop waits, the queue holds
all signals that came since the last poll began.
-/

namespace DetachedTasks

/-- What is left of a program after some of its requests were answered. -/
inductive Program.Leaves (program : Program α) : Program α → Prop where
  | whole : Leaves program program
  | answered
      {request : Request}
      {resume : request.Answer → Program α}
      (leaves : Leaves program (.ask request resume))
      (answer : request.Answer) :
      Leaves program (resume answer)

/-- A signal of the watcher: when the change happened that it reports, and when it came. -/
structure Signal where
  change : Nat
  arrival : Nat
  deriving Repr, DecidableEq

/-- Where the loop is. -/
inductive Stage where
  /-- It begins to watch the control directory. -/
  | opening (handle : Handle) (polls : Nat) (rest : Program Unit)
  /-- It reads the clock before the first poll. -/
  | starting (handle : Handle) (polls : Nat)
  /-- It polls. -/
  | polling (remaining : Nat) (lastProgress : Duration) (rest : Program PollOutcome)
  /-- It has found no result, and looks whether the task has been idle for too long. -/
  | judging (remaining : Nat) (handle : Handle) (rest : Program (Duration × Option Duration))
  /-- It gives up. -/
  | leaving (handle : Handle) (idle : Duration)
  /-- It waits for the timer or for a change. -/
  | pausing
      (remaining : Nat)
      (lastProgress : Duration)
      (handle : Handle)
      (attention : Attention)
  | ended (outcome : Handle.WaitOutcome)

/-- The loop may have taken signals that came since the last poll began, as it does before
the next poll, or it will not poll any more. -/
def Stage.isRousing : Stage → Bool
  | .pausing _ _ _ .swallowing => true
  | .pausing _ _ _ .roused => true
  | .ended _ => true
  | _ => false

/-- The loop waits for the timer or for a change, and has not taken a signal yet. -/
def Stage.isWaiting : Stage → Bool
  | .pausing _ _ _ .receiving => true
  | _ => false

/-- Who waits has not been roused yet. -/
theorem Stage.isRousing_of_isWaiting
    {stage : Stage}
    (waiting : stage.isWaiting = true) :
    stage.isRousing = false := by
  cases stage with
  | pausing remaining last handle attention =>
      cases attention with
      | receiving => rfl
      | swallowing => cases waiting
      | roused => cases waiting
  | _ => cases waiting

/-- A loop with its watcher, at a moment. -/
structure Lookout where
  workspace : Workspace
  options : PollOptions
  stage : Stage
  /-- There is a watcher. -/
  watched : Bool
  mailbox : Mailbox Signal
  /-- The number of steps so far. -/
  clock : Nat
  /-- When the latest poll began; zero before the first one. -/
  pollBegan : Nat
  /-- When something changed in the control directory. -/
  changes : List Nat
  /-- All signals that ever came. -/
  signals : List Signal

/-- Something that happens next. -/
inductive Turn where
  /-- Something changes in the control directory. -/
  | change
  /-- The watcher is told of a change. -/
  | event (change : Nat)
  /-- The watcher is told of an error. -/
  | error (message : Text)
  /-- The loop does its next step, with an answer from outside if it asks for anything. -/
  | step (outside : Outside)
  /-- The timer ends the pause. -/
  | timer
  /-- The loop looks at its queue. -/
  | attend

namespace Handle

/-- Look whether the task has been idle for too long, after a poll. -/
def judge
    (options : PollOptions)
    (lastProgress : Duration)
    (progressed : Bool) : Program (Duration × Option Duration) :=
  (renew lastProgress progressed).bind fun last =>
    (overdueNow? options last).bind fun overdue => .done (last, overdue)

end Handle

namespace Lookout

/-- A loop before its first step. -/
def new
    (handle : Handle)
    (workspace : Workspace)
    (options : PollOptions)
    (polls : Nat) : Lookout where
  workspace := workspace
  options := options
  stage := .opening handle polls (handle.watch workspace options)
  watched := false
  mailbox := Mailbox.empty
  clock := 0
  pollBegan := 0
  changes := []
  signals := []

variable (lookout : Lookout)

/-- Begin the next poll, if there is one left. -/
def beginPoll
    (polls : Nat)
    (lastProgress : Duration)
    (handle : Handle) : Lookout :=
  match polls with
  | 0 => { lookout with stage := .ended ⟨.ok none, handle⟩ }
  | remaining + 1 =>
      { lookout with
        stage := .polling remaining lastProgress (handle.poll lookout.workspace)
        pollBegan := lookout.clock }

/-- Go on after a poll. -/
def endPoll
    (remaining : Nat)
    (lastProgress : Duration)
    (outcome : PollOutcome) : Stage :=
  match outcome.verdict with
  | .error fault => .ended ⟨.error fault, outcome.handle⟩
  | .ok (some result) => .ended ⟨.ok (some result), outcome.handle⟩
  | .ok none =>
      .judging remaining outcome.handle
        (Handle.judge lookout.options lastProgress outcome.progressed)

/-- Whether there is a watcher, after a request was answered. -/
def hears
    (watched : Bool) : (request : Request) → request.Answer → Bool
  | .watch _, answer => answer
  | _, _ => watched

/-- The next step of the loop itself. -/
def proceed (outside : Outside) : Lookout :=
  match lookout.stage with
  | .opening handle polls (.done ()) => { lookout with stage := .starting handle polls }
  | .opening handle polls (.ask request resume) =>
      { lookout with
        stage := .opening handle polls (resume (outside request))
        watched := hears lookout.watched request (outside request) }
  | .starting handle polls => lookout.beginPoll polls (outside .now) handle
  | .polling remaining last (.done outcome) =>
      { lookout with stage := lookout.endPoll remaining last outcome }
  | .polling remaining last (.ask request resume) =>
      { lookout with stage := .polling remaining last (resume (outside request)) }
  | .judging _ handle (.done (_, some idle)) => { lookout with stage := .leaving handle idle }
  | .judging remaining handle (.done (last, none)) =>
      { lookout with stage := .pausing remaining last handle .receiving }
  | .judging remaining handle (.ask request resume) =>
      { lookout with stage := .judging remaining handle (resume (outside request)) }
  | .leaving handle idle =>
      { lookout with stage := .ended ⟨.error (.stale { id := handle.id, idle }), handle⟩ }
  | .pausing _ _ _ _ => lookout
  | .ended _ => lookout

/-- The end of the pause. -/
def wake : Lookout :=
  match lookout.stage with
  | .pausing remaining last handle _ => lookout.beginPoll remaining last handle
  | _ => lookout

/-- A look at the queue. -/
def attend : Lookout :=
  match lookout.stage with
  | .pausing remaining last handle attention =>
      let (next, mailbox) := attention.step lookout.mailbox
      let after := { lookout with stage := .pausing remaining last handle next, mailbox }
      if next = .roused then after.wake else after
  | _ => lookout

/-- The watcher is told something. -/
def tell (told : Except Text Signal) : Lookout :=
  if lookout.watched then
    { lookout with
      mailbox := lookout.mailbox.tell told
      signals := lookout.signals ++ told.toOption.toList }
  else
    lookout

/-- Let the next thing happen.  The watcher is told of nothing that has not happened. -/
def turn (turn : Turn) : Lookout :=
  let now := { lookout with clock := lookout.clock + 1 }
  match turn with
  | .change => { now with changes := now.clock :: now.changes }
  | .event change =>
      if change ∈ now.changes then now.tell (.ok ⟨change, now.clock⟩) else now
  | .error message => now.tell (.error message)
  | .step outside => now.proceed outside
  | .timer => now.wake
  | .attend => now.attend

/-- Let things happen, one after another. -/
def run
    (lookout : Lookout)
    (turns : List Turn) : Lookout :=
  turns.foldl turn lookout

/-! ## The loop is the wait -/

/-- What is left of the wait. -/
def rest : Program Handle.WaitOutcome :=
  match lookout.stage with
  | .opening handle polls rest =>
      rest.bind fun _ => .ask .now fun start =>
        Handle.pollUntil lookout.workspace lookout.options polls start handle
  | .starting handle polls =>
      .ask .now fun start =>
        Handle.pollUntil lookout.workspace lookout.options polls start handle
  | .polling remaining last rest =>
      rest.bind fun outcome =>
        Handle.afterPoll lookout.workspace lookout.options remaining last outcome
  | .judging remaining handle rest =>
      rest.bind fun judged =>
        Handle.goOn lookout.workspace lookout.options remaining judged.1 handle judged.2
  | .leaving handle idle =>
      Handle.goOn lookout.workspace lookout.options 0 ⟨0⟩ handle (some idle)
  | .pausing remaining last handle _ =>
      .ask (.pause lookout.options.interval) fun _ =>
        Handle.pollUntil lookout.workspace lookout.options remaining last handle
  | .ended outcome => .done outcome

/-- What is left of the wait when a poll begins is the loop from this poll on. -/
theorem rest_beginPoll
    (polls : Nat)
    (last : Duration)
    (handle : Handle) :
    (lookout.beginPoll polls last handle).rest =
      Handle.pollUntil lookout.workspace lookout.options polls last handle := by
  cases polls with
  | zero => rfl
  | succ remaining => exact (Handle.pollUntil_succ _ _ _ _ _).symm

variable {lookout}

/-- A loop that goes on with its next request goes on with the same wait. -/
theorem leaves_proceed
    {wait : Program Handle.WaitOutcome}
    (leaves : wait.Leaves lookout.rest)
    (outside : Outside) :
    wait.Leaves (lookout.proceed outside).rest := by
  rcases lookout with
    ⟨workspace, options, stage, watched, mailbox, clock, began, changes, signals⟩
  cases stage with
  | opening handle polls rest =>
      cases rest with
      | done value => exact leaves
      | ask request resume => exact leaves.answered (outside request)
  | starting handle polls =>
      rw [proceed, rest_beginPoll]
      exact leaves.answered (outside .now)
  | polling remaining last rest =>
      cases rest with
      | ask request resume => exact leaves.answered (outside request)
      | done outcome =>
          rcases outcome with ⟨fault | result?, progressed, moved⟩
          · exact leaves
          · cases result? with
            | some result => exact leaves
            | none =>
                show wait.Leaves ((Handle.judge options last progressed).bind _)
                rw [Handle.judge]
                simp only [Program.bind_assoc, Program.pure_bind]
                exact leaves
  | judging remaining handle rest =>
      cases rest with
      | ask request resume => exact leaves.answered (outside request)
      | done judged =>
          rcases judged with ⟨last, _ | _⟩
          · exact leaves
          · exact leaves
  | leaving handle idle => exact leaves.answered ()
  | pausing remaining last handle attention => exact leaves
  | ended outcome => exact leaves

/-- Only the end of a pause answers anything; what the watcher does is no part of the wait. -/
theorem leaves_wake
    {wait : Program Handle.WaitOutcome}
    (leaves : wait.Leaves lookout.rest) :
    wait.Leaves lookout.wake.rest := by
  rcases lookout with
    ⟨workspace, options, stage, watched, mailbox, clock, began, changes, signals⟩
  cases stage with
  | pausing remaining last handle attention =>
      rw [wake, rest_beginPoll]
      exact leaves.answered ()
  | _ => exact leaves

/-- A loop that attends to its queue is still in the same wait. -/
theorem leaves_attend
    {wait : Program Handle.WaitOutcome}
    (leaves : wait.Leaves lookout.rest) :
    wait.Leaves lookout.attend.rest := by
  rcases lookout with
    ⟨workspace, options, stage, watched, mailbox, clock, began, changes, signals⟩
  cases stage with
  | pausing remaining last handle attention =>
      rw [attend]
      simp only
      split
      · exact leaves_wake leaves
      · exact leaves
  | _ => exact leaves

/-- A signal that comes in takes nothing from what is left of the wait. -/
theorem rest_tell (told : Except Text Signal) :
    (lookout.tell told).rest = lookout.rest := by
  rw [tell]
  split
  · rfl
  · rfl

/-- Whatever happens, what is left is left of the same wait. -/
theorem leaves_turn
    {wait : Program Handle.WaitOutcome}
    (leaves : wait.Leaves lookout.rest)
    (turn : Turn) :
    wait.Leaves (lookout.turn turn).rest := by
  have now : wait.Leaves { lookout with clock := lookout.clock + 1 }.rest := leaves
  cases turn with
  | change => exact now
  | event change =>
      rw [Lookout.turn]
      simp only
      split
      · rw [rest_tell]
        exact now
      · exact now
  | error message =>
      rw [Lookout.turn, rest_tell]
      exact now
  | step outside => exact leaves_proceed now outside
  | timer => exact leaves_wake now
  | attend => exact leaves_attend now

/-! ## What the queue holds -/

/-- All moments lie in the past, and changes lie before the signals that report them. -/
structure IsTimed (lookout : Lookout) : Prop where
  pollBegan : lookout.pollBegan ≤ lookout.clock
  changes : ∀ change ∈ lookout.changes, change ≤ lookout.clock
  reports : ∀ signal ∈ lookout.signals, signal.change < signal.arrival
  arrivals : ∀ signal ∈ lookout.signals, signal.arrival ≤ lookout.clock

/-- The queue holds all signals that came since the last poll began. -/
def HoldsNew (lookout : Lookout) : Prop :=
  ∀ signal ∈ lookout.signals, lookout.pollBegan < signal.arrival →
    signal ∈ lookout.mailbox.signals

/-- A loop that is on time, and whose queue holds what is new unless it is being roused. -/
structure IsAlert (lookout : Lookout) : Prop where
  timed : lookout.IsTimed
  holds : lookout.stage.isRousing = false → lookout.HoldsNew

/-- A poll begins after everything that has come in by then, so nothing new is left out. -/
theorem IsTimed.beginPoll
    (timed : lookout.IsTimed)
    (polls : Nat)
    (last : Duration)
    (handle : Handle) :
    (lookout.beginPoll polls last handle).IsAlert := by
  cases polls with
  | zero => exact ⟨⟨timed.pollBegan, timed.changes, timed.reports, timed.arrivals⟩, nofun⟩
  | succ remaining =>
      refine ⟨⟨Nat.le_refl _, timed.changes, timed.reports, timed.arrivals⟩, ?_⟩
      -- Whatever came so far came before this poll.
      intro _ signal member later
      exact absurd (timed.arrivals signal member) (Nat.not_le.mpr later)

/-- A loop that wakes begins a poll, so nothing new is left out. -/
theorem IsAlert.wake
    (alert : lookout.IsAlert) :
    lookout.wake.IsAlert := by
  rw [Lookout.wake]
  split
  · exact alert.timed.beginPoll _ _ _
  · exact alert

/-- Between two polls nothing but the queue and the stage changes. -/
theorem IsAlert.change
    (alert : lookout.IsAlert)
    {stage : Stage}
    {watched : Bool}
    (quiet : stage.isRousing = false → lookout.stage.isRousing = false) :
    { lookout with stage, watched }.IsAlert where
  timed :=
    ⟨alert.timed.pollBegan, alert.timed.changes, alert.timed.reports, alert.timed.arrivals⟩
  holds := fun notRousing => alert.holds (quiet notRousing)

/-- What is taken out of the queue is taken on the way to the next poll. -/
theorem IsTimed.rouse
    (timed : lookout.IsTimed)
    (stage : Stage)
    (rousing : stage.isRousing = true)
    (mailbox : Mailbox Signal) :
    { lookout with stage, mailbox }.IsAlert where
  timed := ⟨timed.pollBegan, timed.changes, timed.reports, timed.arrivals⟩
  holds := by
    intro notRousing
    rw [rousing] at notRousing
    cases notRousing

/-- Attention to the queue loses nothing that is new. -/
theorem IsAlert.attend
    (alert : lookout.IsAlert) :
    lookout.attend.IsAlert := by
  rcases lookout with
    ⟨workspace, options, stage, watched, ⟨queue⟩, clock, began, changes, signals⟩
  cases stage with
  | pausing remaining last handle attention =>
      cases queue with
      | cons first later =>
          cases attention with
          | receiving => exact alert.timed.rouse _ rfl _
          | swallowing => exact alert.timed.rouse _ rfl _
          | roused => exact alert.wake
      | nil =>
          cases attention with
          | receiving => exact alert
          | swallowing => exact (alert.timed.rouse (.pausing _ _ _ .roused) rfl _).wake
          | roused => exact alert.wake
  | _ => exact alert

/-- A signal that comes in is queued, so it is not lost. -/
theorem IsAlert.tell
    (alert : lookout.IsAlert)
    {told : Except Text Signal}
    (isNew : ∀ signal, told = .ok signal →
      signal.change < signal.arrival ∧ signal.arrival ≤ lookout.clock) :
    (lookout.tell told).IsAlert := by
  have timed := alert.timed
  rw [Lookout.tell]
  split
  · cases told with
    | error message =>
        simp only [Except.toOption, Option.toList_none, List.append_nil]
        exact alert
    | ok signal =>
        obtain ⟨reports, arrives⟩ := isNew signal rfl
        refine ⟨⟨timed.pollBegan, timed.changes, ?_, ?_⟩, ?_⟩
        · exact List.forall_mem_append.mpr
            ⟨timed.reports, by simpa [Except.toOption] using reports⟩
        · exact List.forall_mem_append.mpr
            ⟨timed.arrivals, by simpa [Except.toOption] using arrives⟩
        · intro quiet other member later
          rcases List.mem_append.mp member with earlier | isLast
          · exact List.mem_append_left _ (alert.holds quiet other earlier later)
          · exact List.mem_append_right _ isLast
  · exact alert

/-- A step of a poll loses nothing that came in since the poll began. -/
theorem IsAlert.proceed
    (alert : lookout.IsAlert)
    (outside : Outside) :
    (lookout.proceed outside).IsAlert := by
  rcases lookout with
    ⟨workspace, options, stage, watched, mailbox, clock, began, changes, signals⟩
  cases stage with
  | opening handle polls rest =>
      cases rest with
      | done value => exact alert.change fun _ => rfl
      | ask request resume => exact alert.change fun _ => rfl
  | starting handle polls => exact alert.timed.beginPoll _ _ _
  | polling remaining last rest =>
      cases rest with
      | ask request resume => exact alert.change fun _ => rfl
      | done outcome => exact alert.change fun _ => rfl
  | judging remaining handle rest =>
      cases rest with
      | ask request resume => exact alert.change fun _ => rfl
      | done judged =>
          rcases judged with ⟨last, _ | _⟩
          · exact alert.change fun _ => rfl
          · exact alert.change fun _ => rfl
  | leaving handle idle => exact alert.change fun _ => rfl
  | pausing remaining last handle attention => exact alert
  | ended outcome => exact alert

/-- Time goes on. -/
theorem IsAlert.tick
    (alert : lookout.IsAlert) :
    { lookout with clock := lookout.clock + 1 }.IsAlert where
  timed :=
    ⟨Nat.le_succ_of_le alert.timed.pollBegan,
      fun change member => Nat.le_succ_of_le (alert.timed.changes change member),
      alert.timed.reports,
      fun signal member => Nat.le_succ_of_le (alert.timed.arrivals signal member)⟩
  holds := alert.holds

/-- No turn loses anything that came in since the last poll began. -/
theorem IsAlert.turn
    (alert : lookout.IsAlert)
    (turn : Turn) :
    (lookout.turn turn).IsAlert := by
  have now := alert.tick
  cases turn with
  | change =>
      refine ⟨⟨now.timed.pollBegan, ?_, now.timed.reports, now.timed.arrivals⟩, now.holds⟩
      intro change member
      rcases List.mem_cons.mp member with rfl | earlier
      · exact Nat.le_refl _
      · exact now.timed.changes change earlier
  | event change =>
      rw [Lookout.turn]
      simp only
      split
      · rename_i happened
        apply now.tell
        rintro signal same
        cases same
        exact ⟨Nat.lt_succ_of_le (alert.timed.changes change happened), Nat.le_refl _⟩
      · exact now
  | error message => exact now.tell nofun
  | step outside => exact now.proceed outside
  | timer => exact now.wake
  | attend => exact now.attend

/-- Before anything has changed nothing can be missed. -/
theorem isAlert_new
    (handle : Handle)
    (workspace : Workspace)
    (options : PollOptions)
    (polls : Nat) :
    (new handle workspace options polls).IsAlert :=
  ⟨⟨Nat.le_refl _, nofun, nofun, nofun⟩, fun _ => nofun⟩

/-- Whatever happens, and in whichever order, the loop is at some point of the wait for its
task; and while it waits for a change, all signals are in the queue that came since the latest
poll began.  So it never waits in front of an empty queue while there is a change that was
reported and that no later poll covers. -/
theorem run_never_misses
    (handle : Handle)
    (workspace : Workspace)
    (options : PollOptions)
    (polls : Nat)
    (turns : List Turn) :
    let lookout := (new handle workspace options polls).run turns
    (handle.wait workspace options polls).Leaves lookout.rest ∧
      (lookout.stage.isWaiting = true →
        (∀ signal ∈ lookout.signals, lookout.pollBegan < signal.arrival →
          signal ∈ lookout.mailbox.signals) ∧
        (lookout.mailbox.signals = [] →
          ∀ signal ∈ lookout.signals, signal.change < lookout.pollBegan)) := by
  intro lookout
  have general : ∀ (start : Lookout), start.IsAlert →
      (handle.wait workspace options polls).Leaves start.rest →
      (start.run turns).IsAlert ∧
        (handle.wait workspace options polls).Leaves (start.run turns).rest := by
    induction turns with
    | nil => exact fun start alert leaves => ⟨alert, leaves⟩
    | cons turn turns inductionHypothesis =>
        exact fun start alert leaves =>
          inductionHypothesis _ (alert.turn turn) (leaves_turn leaves turn)
  obtain ⟨alert, leaves⟩ := general _ (isAlert_new handle workspace options polls) .whole
  refine ⟨leaves, ?_⟩
  intro waiting
  have holds : lookout.HoldsNew := alert.holds (Stage.isRousing_of_isWaiting waiting)
  refine ⟨holds, fun empty signal member => ?_⟩
  have covered : ¬ lookout.pollBegan < signal.arrival := by
    intro later
    have queued := holds signal member later
    rw [empty] at queued
    cases queued
  exact Nat.lt_of_lt_of_le (alert.timed.reports signal member) (Nat.not_lt.mp covered)

end Lookout

namespace LookoutSample

def workspace : Workspace :=
  ⟨Path.ofText "/w".toList⟩

def task : Handle :=
  Handle.attach "durable-00000001".toList false

def options : PollOptions :=
  ⟨.ofSeconds 1, none, true⟩

/-- The control directory stands, and there is no file in it. -/
def outside : Outside := fun request =>
  (Reply.calm.respond request
    (Memory.new.ensureDirectory (task.directory workspace))).1

/-- Something changes twice before the loop waits, and the watcher is told of it late; then
the loop is roused and polls again, and something changes while it polls. -/
def turns : List Turn :=
  List.replicate 12 (Turn.step outside)
    ++ [Turn.change, Turn.change, Turn.event 13, Turn.event 14]
    ++ List.replicate 3 Turn.attend ++ [Turn.change, Turn.event 20]
    ++ List.replicate 6 (Turn.step outside)

/-- The loop behind these turns. -/
def lookout : Lookout :=
  (Lookout.new task workspace options 5).run turns

end LookoutSample

open LookoutSample in
/-- The change during the second poll is not covered by it, and its signal is there. -/
theorem Lookout.run_never_misses_sample :
    lookout.stage.isWaiting = true ∧ lookout.pollBegan = 19 ∧
      (⟨20, 21⟩ : Signal) ∈ lookout.mailbox.signals := by
  have waiting : lookout.stage.isWaiting = true := by decide +kernel
  have began : lookout.pollBegan = 19 := by decide +kernel
  have came : (⟨20, 21⟩ : Signal) ∈ lookout.signals := by decide +kernel
  obtain ⟨-, kept⟩ :=
    run_never_misses task LookoutSample.workspace LookoutSample.options 5 turns
  refine ⟨waiting, began, (kept waiting).1 _ came ?_⟩
  show lookout.pollBegan < 21
  rw [began]
  decide

end DetachedTasks
