import DetachedTasks.Proofs.MemoryPrograms
import DetachedTasks.Proofs.PollCycles
import Mathlib.Data.Nat.Find

/-!
# When a wait gives up

A wait is put on a clock that moves only while it pauses: each poll has one instant, and the
first poll has the instant at which the wait began.  Everything else that happens outside,
to the log, to the result and to the sink, is up to a world of which nothing is assumed.

What each poll does then does not depend on the clock.  The wait ends at the first poll that
finds a result, fails, or is late: the time since the last poll that copied any log, or since
the beginning, has reached the limit.  Instants need not be in order; an instant that lies
before another one is no time after it.
-/

namespace DetachedTasks

/-! ## A world with a clock -/

/-- A world outside, and the number of pauses so far. -/
structure Paced (World : Type) where
  world : World
  cycle : Nat

namespace Paced

variable {World : Type}

/-- Answer requests while the clock shows one instant between two pauses. -/
def respond
    (instants : Nat → Duration)
    (outside : Program.Handler World) : Program.Handler (Paced World)
  | .now, paced => (instants paced.cycle, paced)
  | .pause time, paced => ((), ⟨(outside (.pause time) paced.world).2, paced.cycle + 1⟩)
  | request, paced =>
      ((outside request paced.world).1, ⟨(outside request paced.world).2, paced.cycle⟩)

/-- A request that is work is answered from outside, and the cycle stays what it is. -/
theorem respond_of_isWork
    {request : Request}
    (isWork : request.IsWork)
    (instants : Nat → Duration)
    (outside : Program.Handler World)
    (paced : Paced World) :
    respond instants outside request paced =
      ((outside request paced.world).1,
        ⟨(outside request paced.world).2, paced.cycle⟩) := by
  cases request with
  | now => exact isWork.elim
  | pause time => exact isWork.elim
  | _ => rfl

/-- Who neither looks at the clock nor pauses does not notice it. -/
theorem run_of_works
    (instants : Nat → Duration)
    (outside : Program.Handler World)
    {program : Program α}
    {world : World}
    (works : ∀ exchange ∈ program.exchanges outside world, exchange.request.IsWork)
    (cycle : Nat) :
    program.run (respond instants outside) ⟨world, cycle⟩ =
      ((program.run outside world).1, ⟨(program.run outside world).2, cycle⟩) := by
  induction program generalizing world with
  | done value => rfl
  | ask request resume inductionHypothesis =>
      rw [Program.run, respond_of_isWork (works _ List.mem_cons_self)]
      exact inductionHypothesis _ fun exchange member =>
        works exchange (List.mem_cons_of_mem _ member)

end Paced

/-! ## Vigils -/

/-- A wait for a task, the world that it happens in, and the instants of its polls. -/
structure Vigil (World : Type) where
  workspace : Workspace
  options : PollOptions
  handle : Handle
  outside : Program.Handler World
  world : World
  instants : Nat → Duration

namespace Vigil

variable {World : Type} (vigil : Vigil World)

/-- The handle and the world before a poll, if the wait goes on that far. -/
def before : Nat → Handle × World
  | 0 =>
      (vigil.handle,
        ((vigil.handle.watch vigil.workspace vigil.options).run vigil.outside vigil.world).2)
  | cycle + 1 =>
      let (handle, world) := before cycle
      let (outcome, after) := (handle.poll vigil.workspace).run vigil.outside world
      (outcome.handle, (vigil.outside (.pause vigil.options.interval) after).2)

/-- What a poll comes to. -/
def poll (cycle : Nat) : PollOutcome :=
  (((vigil.before cycle).1.poll vigil.workspace).run vigil.outside (vigil.before cycle).2).1

/-- What a poll asks and what it is answered. -/
def exchanges (cycle : Nat) : List Exchange :=
  ((vigil.before cycle).1.poll vigil.workspace).exchanges vigil.outside
    (vigil.before cycle).2

/-- The part of the log that a poll copies, with one copy or with two. -/
def copied (cycle : Nat) : Bytes :=
  Exchange.copied (vigil.exchanges cycle)

/-- The last poll up to this one that copied any log, or the first poll if none did. -/
def lastGrowth (cycle : Nat) : Nat :=
  Nat.findGreatest (fun earlier => vigil.copied earlier ≠ []) cycle

/-- How long ago that was, in nanoseconds. -/
def idle (cycle : Nat) : Nat :=
  (vigil.instants cycle).nanoseconds
    - (vigil.instants (vigil.lastGrowth cycle)).nanoseconds

/-- At this poll the limit is reached. -/
def IsLate (cycle : Nat) : Prop :=
  ∃ patience, vigil.options.staleAfter = some patience ∧
    patience.nanoseconds ≤ vigil.idle cycle

/-- At this poll there is no reason to end the wait. -/
def GoesOn (cycle : Nat) : Prop :=
  (vigil.poll cycle).verdict = .ok none ∧ ¬ vigil.IsLate cycle

/-- The world of the wait, with its clock. -/
def respond : Program.Handler (Paced World) :=
  Paced.respond vigil.instants vigil.outside

/-- The verdict of a wait, and the poll that it ended at. -/
def summary (ended : Handle.WaitOutcome × Paced World) :
    Except TaskFault (Option TaskResult) × Nat :=
  (ended.1.verdict, ended.2.cycle)

/-- The whole wait, with at most the given number of polls. -/
def run (polls : Nat) : Except TaskFault (Option TaskResult) × Nat :=
  summary ((vigil.handle.wait vigil.workspace vigil.options polls).run vigil.respond
    ⟨vigil.world, 0⟩)

/-! ### Single polls -/

/-- Every poll of a vigil is a cycle from the handle that the polls before it have left. -/
theorem poll_cycles (cycle : Nat) :
    (vigil.before cycle).1.Cycles (vigil.exchanges cycle) (vigil.poll cycle) :=
  (Handle.poll_cycles (vigil.before cycle).1 vigil.workspace).of_run vigil.outside
    (vigil.before cycle).2

/-- A poll says that it has made progress exactly if it has copied something. -/
theorem progressed_iff (cycle : Nat) :
    (vigil.poll cycle).progressed = true ↔ vigil.copied cycle ≠ [] := by
  rw [(vigil.poll_cycles cycle).progressed, Bool.not_eq_true', ← Bool.not_eq_true,
    List.isEmpty_iff]
  rfl

/-- The handle of the next poll has moved by what this one copied. -/
theorem before_succ (cycle : Nat) :
    (vigil.before (cycle + 1)).1 = (vigil.before cycle).1.moved (vigil.copied cycle) :=
  (vigil.poll_cycles cycle).moves

/-- No poll changes which task is watched. -/
theorem before_id (cycle : Nat) :
    (vigil.before cycle).1.id = vigil.handle.id := by
  induction cycle with
  | zero => rfl
  | succ cycle inductionHypothesis => rw [before_succ, Handle.moved_id, inductionHypothesis]

/-- The handle that a poll leaves is one on the same task. -/
theorem poll_id (cycle : Nat) :
    (vigil.poll cycle).handle.id = vigil.handle.id := by
  rw [(vigil.poll_cycles cycle).moves, Handle.moved_id, before_id]

/-- A poll that copied any log starts the idle time anew. -/
theorem idle_eq_zero
    {cycle : Nat}
    (grew : vigil.copied cycle ≠ []) :
    vigil.idle cycle = 0 := by
  have last : vigil.lastGrowth cycle = cycle :=
    Nat.le_antisymm (Nat.findGreatest_le cycle) (Nat.le_findGreatest (Nat.le_refl _) grew)
  rw [idle, last, Nat.sub_self]

/-- The instant that a wait remembers when a poll begins. -/
def remembered : Nat → Duration
  | 0 => vigil.instants 0
  | cycle + 1 => vigil.instants (vigil.lastGrowth cycle)

/-- What is remembered is the instant of the last poll that has made progress. -/
theorem remembered_succ (cycle : Nat) :
    vigil.remembered (cycle + 1) =
      if (vigil.poll cycle).progressed = true then vigil.instants cycle
      else vigil.remembered cycle := by
  simp only [progressed_iff]
  cases cycle with
  | zero => exact (ite_self _).symm
  | succ cycle =>
      rw [remembered, lastGrowth, Nat.findGreatest_succ, remembered, lastGrowth,
        apply_ite vigil.instants]

/-- At a poll that is late the wait knows exactly how long the task has been idle. -/
theorem overdue?_eq_some_iff
    (cycle : Nat)
    (idle : Duration) :
    Handle.overdue? vigil.options (vigil.remembered (cycle + 1)) (vigil.instants cycle) =
        some idle ↔
      vigil.IsLate cycle ∧ idle = ⟨vigil.idle cycle⟩ := by
  rw [Handle.overdue?, IsLate]
  cases vigil.options.staleAfter with
  | none => simp
  | some patience =>
      simp only [Option.some.injEq, exists_eq_left', Option.ite_none_right_eq_some]
      exact and_congr_right fun _ => eq_comm

/-- After a poll the task is still in time unless the poll was late. -/
theorem overdue?_eq_none_iff (cycle : Nat) :
    Handle.overdue? vigil.options (vigil.remembered (cycle + 1)) (vigil.instants cycle) =
        none ↔
      ¬ vigil.IsLate cycle := by
  rw [Option.eq_none_iff_forall_ne_some]
  simp only [ne_eq, overdue?_eq_some_iff]
  exact ⟨fun none late => none _ ⟨late, rfl⟩, fun early _ shown => early shown.1⟩

/-! ### Whole waits -/

/-- What the wait ends with at a poll, unless it goes on. -/
def ending? (cycle : Nat) : Option (Except TaskFault (Option TaskResult)) :=
  match (vigil.poll cycle).verdict with
  | .error fault => some (.error fault)
  | .ok (some result) => some (.ok (some result))
  | .ok none =>
      (Handle.overdue? vigil.options (vigil.remembered (cycle + 1))
        (vigil.instants cycle)).map fun idle => .error (.stale { id := vigil.handle.id, idle })

/-- A vigil goes on while there is neither a verdict nor a late poll. -/
theorem ending?_eq_none (cycle : Nat) :
    vigil.ending? cycle = none ↔ vigil.GoesOn cycle := by
  rw [ending?, GoesOn, ← overdue?_eq_none_iff]
  split
  · simp_all
  · simp_all
  · simp_all

/-- A vigil ends with a result exactly if its poll has found the result. -/
theorem ending?_eq_result
    (cycle : Nat)
    (result : TaskResult) :
    vigil.ending? cycle = some (.ok (some result)) ↔
      (vigil.poll cycle).verdict = .ok (some result) := by
  rw [ending?]
  split
  · simp_all
  · simp_all
  · simp_all

/-- A vigil gives up exactly if its poll found nothing and was late, and then it says for how
long the task was idle. -/
theorem ending?_eq_stale
    (cycle : Nat)
    (task : IdleTask) :
    vigil.ending? cycle = some (.error (.stale task)) ↔
      task = { id := vigil.handle.id, idle := ⟨vigil.idle cycle⟩ } ∧
        (vigil.poll cycle).verdict = .ok none ∧ vigil.IsLate cycle := by
  have notStale := (vigil.poll_cycles cycle).notStale task
  rw [ending?]
  split
  · rename_i fault failed
    rw [failed] at notStale ⊢
    exact ⟨fun same => absurd (Option.some.inj same) notStale, fun shown => nomatch shown.2.1⟩
  · rename_i result found
    rw [found]
    exact ⟨nofun, fun shown => nomatch shown.2.1⟩
  · rename_i running
    rw [running]
    constructor
    · intro ends
      obtain ⟨idle, overdue, same⟩ := Option.map_eq_some_iff.mp ends
      obtain ⟨late, rfl⟩ := (vigil.overdue?_eq_some_iff cycle idle).mp overdue
      cases same
      exact ⟨rfl, rfl, late⟩
    · rintro ⟨rfl, -, late⟩
      rw [(vigil.overdue?_eq_some_iff cycle _).mpr ⟨late, rfl⟩]
      rfl

/-- The verdict of a wait from a poll on, and the poll that it ends at. -/
def close : Nat → Nat → Except TaskFault (Option TaskResult) × Nat
  | 0, cycle => (.ok none, cycle)
  | remaining + 1, cycle =>
      match vigil.ending? cycle with
      | some verdict => (verdict, cycle)
      | none => close remaining (cycle + 1)

/-- A wait ends at the first poll that gives a reason for it. -/
theorem close_eq_iff
    {verdict : Except TaskFault (Option TaskResult)}
    (ended : verdict ≠ .ok none)
    (remaining cycle last : Nat) :
    vigil.close remaining cycle = (verdict, last) ↔
      cycle ≤ last ∧ last < cycle + remaining ∧ vigil.ending? last = some verdict ∧
        ∀ earlier, cycle ≤ earlier → earlier < last → vigil.GoesOn earlier := by
  induction remaining generalizing cycle with
  | zero =>
      rw [close]
      constructor
      · intro same
        exact absurd (Prod.mk.inj same).1.symm ended
      · rintro ⟨after, within, -⟩
        omega
  | succ remaining inductionHypothesis =>
      rw [close]
      cases ending : vigil.ending? cycle with
      | some found =>
          constructor
          · intro same
            obtain ⟨rfl, rfl⟩ := Prod.mk.inj same
            exact ⟨Nat.le_refl _, by omega, ending, fun earlier after within => by omega⟩
          · rintro ⟨after, -, ends, goesOn⟩
            rcases Nat.eq_or_lt_of_le after with rfl | later
            · rw [ending] at ends
              rw [Option.some.inj ends]
            · have on := (vigil.ending?_eq_none cycle).mpr (goesOn cycle (Nat.le_refl _) later)
              rw [ending] at on
              cases on
      | none =>
          have on := (vigil.ending?_eq_none cycle).mp ending
          show vigil.close remaining (cycle + 1) = _ ↔ _
          rw [inductionHypothesis]
          constructor
          · rintro ⟨after, within, ends, goesOn⟩
            refine ⟨by omega, by omega, ends, fun earlier from_ until_ => ?_⟩
            rcases Nat.eq_or_lt_of_le from_ with rfl | later
            · exact on
            · exact goesOn earlier later until_
          · rintro ⟨after, within, ends, goesOn⟩
            rcases Nat.eq_or_lt_of_le after with rfl | later
            · rw [ending] at ends
              cases ends
            · exact ⟨later, by omega, ends, fun earlier from_ until_ =>
                goesOn earlier (by omega) until_⟩

/-- After progress the instant of the poll is remembered, and otherwise the old one. -/
theorem run_renew
    (last : Duration)
    (progressed : Bool)
    (paced : Paced World) :
    (Handle.renew last progressed).run vigil.respond paced =
      (if progressed = true then vigil.instants paced.cycle else last, paced) := by
  cases progressed with
  | true => rfl
  | false => rfl

/-- Whether the task is overdue is asked at the instant of the poll. -/
theorem run_overdueNow?
    (last : Duration)
    (paced : Paced World) :
    (Handle.overdueNow? vigil.options last).run vigil.respond paced =
      (Handle.overdue? vigil.options last (vigil.instants paced.cycle), paced) := by
  rw [Handle.overdueNow?, Handle.overdue?]
  cases limit : vigil.options.staleAfter with
  | none => rfl
  | some patience =>
      show (Handle.overdue? vigil.options last _, paced) = _
      rw [Handle.overdue?, limit]

/-- What follows a poll, on the clock. -/
theorem run_afterPoll
    (remaining cycle : Nat)
    (world : World) :
    summary ((Handle.afterPoll vigil.workspace vigil.options remaining
        (vigil.remembered cycle) (vigil.poll cycle)).run vigil.respond ⟨world, cycle⟩) =
      match vigil.ending? cycle with
      | some verdict => (verdict, cycle)
      | none =>
          summary ((Handle.pollUntil vigil.workspace vigil.options remaining
            (vigil.remembered (cycle + 1)) (vigil.poll cycle).handle).run vigil.respond
            ⟨(vigil.outside (.pause vigil.options.interval) world).2, cycle + 1⟩) := by
  rw [Handle.afterPoll, ending?, ← vigil.poll_id cycle]
  rcases (vigil.poll cycle).verdict with fault | result?
  · rfl
  · cases result? with
    | some result => rfl
    | none =>
        simp only [Program.run_bind, run_renew, ← remembered_succ, run_overdueNow?]
        cases Handle.overdue? vigil.options (vigil.remembered (cycle + 1))
          (vigil.instants cycle) with
        | some idle => rfl
        | none => rfl

/-- The loop, on the clock. -/
theorem run_pollUntil
    (remaining cycle : Nat) :
    summary ((Handle.pollUntil vigil.workspace vigil.options remaining
        (vigil.remembered cycle) (vigil.before cycle).1).run vigil.respond
        ⟨(vigil.before cycle).2, cycle⟩) =
      vigil.close remaining cycle := by
  induction remaining generalizing cycle with
  | zero => rfl
  | succ remaining inductionHypothesis =>
      have polled := Paced.run_of_works vigil.instants vigil.outside
        (vigil.poll_cycles cycle).works cycle
      rw [Handle.pollUntil_succ, Program.run_bind, respond, polled]
      refine Eq.trans (vigil.run_afterPoll remaining cycle _) ?_
      rw [close]
      cases vigil.ending? cycle with
      | some verdict => rfl
      | none => exact inductionHypothesis (cycle + 1)

/-- The run of a vigil is its polls up to the first one that ends it. -/
theorem run_eq (polls : Nat) :
    vigil.run polls = vigil.close polls 0 := by
  have works : ∀ exchange ∈ (vigil.handle.watch vigil.workspace vigil.options).exchanges
      vigil.outside vigil.world, exchange.request.IsWork := by
    rw [Handle.watch]
    cases vigil.options.fileEvents with
    | true => simp [Program.request, bind, Program.bind, Program.exchanges, Request.IsWork]
    | false => exact fun _ member => absurd member List.not_mem_nil
  have watched := Paced.run_of_works vigil.instants vigil.outside works 0
  refine Eq.trans ?_ (vigil.run_pollUntil polls 0)
  show summary (((vigil.handle.watch vigil.workspace vigil.options).bind _).run
    vigil.respond _) = _
  rw [Program.run_bind, respond, watched]
  rfl

/-- The wait ends with a verdict at the first poll that gives a reason for it. -/
theorem run_eq_iff
    {verdict : Except TaskFault (Option TaskResult)}
    (ended : verdict ≠ .ok none)
    (polls cycle : Nat) :
    vigil.run polls = (verdict, cycle) ↔
      cycle < polls ∧ vigil.ending? cycle = some verdict ∧
        ∀ earlier < cycle, vigil.GoesOn earlier := by
  rw [run_eq, close_eq_iff vigil ended]
  simp

/-- A wait gives up exactly at the first poll that is late, if no poll so far has found a
result or failed.  A result is answered however late it is found, a poll that copies any log
starts the idle time anew, and a poll reports progress exactly if the offset moved. -/
theorem run_gives_up_exactly
    (vigil : Vigil World)
    (polls cycle : Nat) :
    (∀ task,
      vigil.run polls = (.error (.stale task), cycle) ↔
        task = { id := vigil.handle.id, idle := ⟨vigil.idle cycle⟩ } ∧ cycle < polls ∧
          (∀ earlier ≤ cycle, (vigil.poll earlier).verdict = .ok none) ∧
          vigil.IsLate cycle ∧ ∀ earlier < cycle, ¬ vigil.IsLate earlier) ∧
      (∀ result,
        vigil.run polls = (.ok (some result), cycle) ↔
          cycle < polls ∧ (vigil.poll cycle).verdict = .ok (some result) ∧
            ∀ earlier < cycle, vigil.GoesOn earlier) ∧
      (vigil.copied cycle ≠ [] → vigil.idle cycle = 0) ∧
      ((vigil.poll cycle).progressed = true ↔ vigil.copied cycle ≠ []) ∧
      (vigil.poll cycle).handle = (vigil.before cycle).1.moved (vigil.copied cycle) ∧
      ((vigil.before cycle).1.logOffset.toNat + (vigil.copied cycle).length < UInt64.size →
        ((vigil.poll cycle).progressed = true ↔
          (vigil.before cycle).1.logOffset < (vigil.poll cycle).handle.logOffset)) := by
  refine ⟨fun task => ?_, fun result => ?_, vigil.idle_eq_zero, vigil.progressed_iff cycle,
    (vigil.poll_cycles cycle).moves, fun fits => ?_⟩
  · have ended : (.error (.stale task) : Except TaskFault (Option TaskResult)) ≠ .ok none := by
      simp
    rw [run_eq_iff vigil ended, ending?_eq_stale]
    constructor
    · rintro ⟨within, ⟨same, running, late⟩, goesOn⟩
      refine ⟨same, within, fun earlier until_ => ?_, late, fun earlier until_ =>
        (goesOn earlier until_).2⟩
      rcases Nat.eq_or_lt_of_le until_ with rfl | before
      · exact running
      · exact (goesOn earlier before).1
    · rintro ⟨same, within, running, late, early⟩
      exact ⟨within, ⟨same, running cycle (Nat.le_refl _), late⟩, fun earlier until_ =>
        ⟨running earlier (Nat.le_of_lt until_), early earlier until_⟩⟩
  · have ended : (.ok (some result) : Except TaskFault (Option TaskResult)) ≠ .ok none := by
      simp
    rw [run_eq_iff vigil ended, ending?_eq_result]
  · rw [progressed_iff, (vigil.poll_cycles cycle).moves]
    exact (Handle.logOffset_lt_moved _ fits).symm

end Vigil

namespace VigilSample

def workspace : Workspace :=
  ⟨Path.ofText "/w".toList⟩

def task : Handle :=
  Handle.attach "durable-00000001".toList false

/-- One byte of log is there after the first pause, and nothing ever follows. -/
def outside : Program.Handler Memory
  | .pause _, memory => ((), memory.addFile (task.logFile workspace) [7])
  | request, memory => Reply.calm.respond request memory

/-- One poll in a second, and a limit of three seconds. -/
def vigil : Vigil Memory where
  workspace := workspace
  options := ⟨.ofSeconds 1, some (.ofSeconds 3), false⟩
  handle := task
  outside := outside
  world := Memory.new.ensureDirectory (task.directory workspace)
  instants := Duration.ofSeconds

end VigilSample

open VigilSample in
/-- The byte that the second poll copies puts off the end from the fourth poll to the
fifth. -/
theorem Vigil.run_gives_up_exactly_sample :
    vigil.run 9 = (.error (.stale { id := task.id, idle := .ofSeconds 3 }), 4) ∧
      vigil.copied 1 = [7] ∧ vigil.idle 1 = 0 ∧
      (vigil.before 1).1.logOffset < (vigil.poll 1).handle.logOffset := by
  have copied : vigil.copied 1 = [7] := by decide +kernel
  have grew : vigil.copied 1 ≠ [] := by
    rw [copied]
    decide
  have running : ∀ earlier ≤ 4, (vigil.poll earlier).verdict = .ok none := by decide +kernel
  have late : vigil.IsLate 4 := ⟨.ofSeconds 3, rfl, by decide +kernel⟩
  have early : ∀ cycle < 4,
      Handle.overdue? vigil.options (vigil.remembered (cycle + 1)) (vigil.instants cycle) =
        none := by
    decide +kernel
  have idle : vigil.idle 4 = 3000000000 := by decide +kernel
  have fits : (vigil.before 1).1.logOffset.toNat + (vigil.copied 1).length < UInt64.size := by
    decide +kernel
  obtain ⟨-, -, resets, tells, -, moves⟩ := run_gives_up_exactly vigil 9 1
  have givesUp := (run_gives_up_exactly vigil 9 4).1 { id := task.id, idle := .ofSeconds 3 }
  refine ⟨givesUp.mpr ⟨?_, by decide, running, late, ?_⟩, copied, resets grew,
    (moves fits).mp (tells.mpr grew)⟩
  · rw [idle]
    rfl
  · intro earlier before
    exact (vigil.overdue?_eq_none_iff earlier).mp (early earlier before)

end DetachedTasks
