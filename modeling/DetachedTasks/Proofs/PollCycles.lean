import DetachedTasks.Proofs.FollowedTasks

/-!
# What a poll cycle did

Whoever looks at the exchanges of a poll cycle can tell what it copied: the chunks that were
handed to the sink and passed on by it.  A cycle reports progress if it copied anything, and
the handle that it ends with has moved by what was copied.  Neither depends on what the
files held or on who else changed them in the meantime.

A cycle does not read the clock and does not pause, and no fault of it says that the task is
stale.
-/

namespace DetachedTasks

/-! ## Accounts of all exchanges -/

namespace Program

/-- Whatever a program is answered, its exchanges and what it ends with reach a goal. -/
def Accounts
    (goal : List Exchange → α → Prop) : Program α → Prop
  | .done value => goal [] value
  | .ask request resume =>
      ∀ answer, (resume answer).Accounts fun later value =>
        goal (⟨request, answer⟩ :: later) value

/-- What accounts for a goal accounts for everything that follows from it. -/
theorem Accounts.weaken
    {first second : List Exchange → α → Prop}
    {program : Program α}
    (accounts : program.Accounts first)
    (implies : ∀ exchanges value, first exchanges value → second exchanges value) :
    program.Accounts second := by
  induction program generalizing first second with
  | done value => exact implies [] value accounts
  | ask request resume inductionHypothesis =>
      intro answer
      exact inductionHypothesis answer (accounts answer) fun later value =>
        implies (⟨request, answer⟩ :: later) value

/-- The exchanges of two programs in a row stand one behind the other, so a goal of the second is
one of what follows the first. -/
theorem Accounts.bind
    {goal : List Exchange → β → Prop}
    {program : Program α}
    {next : α → Program β}
    (accounts : program.Accounts fun earlier value =>
      (next value).Accounts fun later result => goal (earlier ++ later) result) :
    (program.bind next).Accounts goal := by
  induction program generalizing goal with
  | done value => exact accounts
  | ask request resume inductionHypothesis =>
      intro answer
      exact inductionHypothesis answer (accounts answer)

/-- A run in any world is one of the accounts: its exchanges and its value are related by the
goal. -/
theorem Accounts.of_run
    {goal : List Exchange → α → Prop}
    {program : Program α}
    (accounts : program.Accounts goal)
    (handler : Handler State)
    (state : State) :
    goal (program.exchanges handler state) (program.run handler state).1 := by
  induction program generalizing goal state with
  | done value => exact accounts
  | ask request resume inductionHypothesis => exact inductionHypothesis _ (accounts _) _

end Program

/-! ## What was copied -/

/-- Neither the clock nor a pause. -/
def Request.IsWork : Request → Prop
  | .now => False
  | .pause _ => False
  | _ => True

/-- A call on the file system or a log event. -/
def Request.IsLook : Request → Prop
  | .file _ => True
  | .note _ => True
  | _ => False

/-- Who looks at files or logs an event neither asks for the time nor pauses. -/
theorem Request.IsLook.isWork
    {request : Request}
    (isLook : request.IsLook) :
    request.IsWork := by
  cases request with
  | now => exact isLook
  | pause time => exact isLook
  | _ => trivial

namespace Exchange

/-- The chunks that the sink took and passed on, put together. -/
def copied : List Exchange → Bytes
  | ⟨.deliver chunk, .ok ()⟩ :: ⟨.flush, .ok ()⟩ :: later => chunk ++ copied later
  | _ :: later => copied later
  | [] => []

/-- These bytes were copied, whatever comes next, and nobody looked at the clock. -/
structure Copy
    (exchanges : List Exchange)
    (bytes : Bytes) : Prop where
  works : ∀ exchange ∈ exchanges, exchange.request.IsWork
  adds : ∀ later, copied (exchanges ++ later) = bytes ++ copied later

/-- A look hands nothing on. -/
theorem copied_cons_look
    {exchange : Exchange}
    (isLook : exchange.request.IsLook)
    (later : List Exchange) :
    copied (exchange :: later) = copied later := by
  rcases exchange with ⟨request, answer⟩
  cases request with
  | deliver chunk => exact isLook.elim
  | _ => rw [copied]; simp

/-- What a copy has handed on is the bytes that it is a copy of. -/
theorem Copy.copied_eq
    {exchanges : List Exchange}
    {bytes : Bytes}
    (copy : Copy exchanges bytes) :
    copied exchanges = bytes := by
  have alone := copy.adds []
  rwa [List.append_nil, copied, List.append_nil] at alone

theorem Copy.nil : Copy [] [] :=
  ⟨nofun, fun _ => rfl⟩

/-- Two copies in a row are a copy of what they have handed on together. -/
theorem Copy.append
    {earlier later : List Exchange}
    {first second : Bytes}
    (before : Copy earlier first)
    (after : Copy later second) :
    Copy (earlier ++ later) (first ++ second) where
  works := List.forall_mem_append.mpr ⟨before.works, after.works⟩
  adds := by
    intro rest
    rw [List.append_assoc, before.adds, after.adds, List.append_assoc]

/-- Who only looks copies nothing. -/
theorem Copy.of_looks
    {exchanges : List Exchange}
    (looks : ∀ exchange ∈ exchanges, exchange.request.IsLook) :
    Copy exchanges [] where
  works := fun exchange member => (looks exchange member).isWork
  adds := by
    intro later
    induction exchanges with
    | nil => rfl
    | cons exchange rest inductionHypothesis =>
        rw [List.cons_append, copied_cons_look (looks _ List.mem_cons_self)]
        exact inductionHypothesis
          fun other member => looks other (List.mem_cons_of_mem _ member)

end Exchange

/-! ## Questions that only look -/

/-- A program that only looks at files and writes log events, and takes no task for stale. -/
def TaskProgram.Asks (program : TaskProgram α) : Prop :=
  program.run.Accounts fun exchanges outcome =>
    (∀ exchange ∈ exchanges, exchange.request.IsLook) ∧ ∀ task, outcome ≠ .error (.stale task)

namespace TaskProgram.Asks

/-- A value needs no question and is no staleness. -/
theorem pure (value : α) :
    TaskProgram.Asks (Pure.pure value) := by
  exact ⟨nofun, nofun⟩

/-- A fault other than staleness may end a question. -/
theorem throw
    {fault : TaskFault}
    (other : ∀ task, fault ≠ .stale task) :
    TaskProgram.Asks (MonadExcept.throw fault : TaskProgram α) := by
  exact ⟨nofun, fun task same => other task (Except.error.inj same)⟩

/-- Questions in a row are questions. -/
theorem bind
    {program : TaskProgram α}
    {next : α → TaskProgram β}
    (asks : program.Asks)
    (goesOn : ∀ value, (next value).Asks) :
    (program >>= next).Asks := by
  refine Program.Accounts.bind (asks.weaken fun earlier outcome shown => ?_)
  cases outcome with
  | error fault =>
      rw [show ∀ goal : List Exchange → Except TaskFault β → Prop,
        Program.Accounts goal (ExceptT.bindCont next (.error fault)) = goal [] (.error fault)
        from fun _ => rfl, List.append_nil]
      refine ⟨shown.1, fun task same => ?_⟩
      cases same
      exact shown.2 task rfl
  | ok value =>
      refine (goesOn value).weaken fun later result next => ⟨fun exchange member => ?_, next.2⟩
      rcases List.mem_append.mp member with inEarlier | inLater
      · exact shown.1 exchange inEarlier
      · exact next.1 exchange inLater

/-- To look and then to ask on is to ask. -/
theorem ask
    {request : Request}
    {next : request.Answer → TaskProgram β}
    (isLook : request.IsLook)
    (goesOn : ∀ answer, (next answer).Asks) :
    (TaskProgram.ask request >>= next).Asks := by
  intro answer
  refine (goesOn answer).weaken fun later result next => ⟨?_, next.2⟩
  intro exchange member
  rcases List.mem_cons.mp member with rfl | inLater
  · exact isLook
  · exact next.1 exchange inLater

theorem look
    {request : Request}
    (isLook : request.IsLook) :
    (TaskProgram.ask request).Asks := by
  refine fun answer => ⟨?_, nofun⟩
  intro exchange member
  rcases List.mem_cons.mp member with rfl | impossible
  · exact isLook
  · cases impossible

/-- A call of the file system is a question, and its faults are faults about files. -/
theorem call
    {call : FileCall}
    {answer : call.Answer → Except FileFault α} :
    TaskProgram.Asks
      (do TaskProgram.fileAnswer (answer (← TaskProgram.ask (.file call)))) := by
  refine ask trivial fun reply => ?_
  cases answer reply with
  | ok value => exact pure value
  | error cause => exact throw nofun

/-- A goal that looks beforehand do no harm to is reached behind a question. -/
theorem followed
    {program : TaskProgram α}
    {next : α → TaskProgram β}
    {goal : List Exchange → Except TaskFault β → Prop}
    (asks : program.Asks)
    (behind : ∀ earlier later outcome,
      (∀ exchange ∈ earlier, exchange.request.IsLook) → goal later outcome →
        goal (earlier ++ later) outcome)
    (fails : ∀ fault, (∀ task, fault ≠ .stale task) → goal [] (.error fault))
    (goesOn : ∀ value, (next value).run.Accounts goal) :
    (program >>= next).run.Accounts goal := by
  refine Program.Accounts.bind (asks.weaken fun earlier outcome shown => ?_)
  cases outcome with
  | error fault =>
      have other : ∀ task, fault ≠ .stale task := fun task same => shown.2 task (congrArg _ same)
      exact behind earlier [] _ shown.1 (fails fault other)
  | ok value => exact (goesOn value).weaken fun later result => behind earlier later result shown.1

end TaskProgram.Asks

namespace Handle

variable {workspace : Workspace} {handle : Handle}

open TaskProgram

/-- Requiring the control directory only looks. -/
theorem requireDirectory_asks :
    (handle.requireDirectory workspace).Asks := by
  refine Asks.ask trivial fun stands => ?_
  cases stands with
  | true => exact Asks.pure ()
  | false => exact Asks.throw nofun

/-- A question about one file only looks, as far as both ways on from it do. -/
theorem lookFor_asks
    {file : Path}
    {found missing : TaskProgram α}
    (asksFound : found.Asks)
    (asksMissing : missing.Asks) :
    (handle.lookFor workspace file found missing).Asks := by
  refine Asks.bind requireDirectory_asks fun _ => Asks.ask trivial fun isThere => ?_
  cases isThere with
  | true => exact asksFound
  | false => exact asksMissing

/-- A status is told by looking, and never says that the task is stale. -/
theorem status_asks :
    (handle.status workspace).Asks := by
  rw [status_eq]
  refine lookFor_asks (Asks.bind Asks.call fun held => ?_) (Asks.pure _)
  rw [ResultText.readStatus]
  cases ResultText.parse held with
  | error text => exact Asks.throw (by simp)
  | ok code =>
      cases code with
      | none => exact Asks.ask trivial fun _ => Asks.pure _
      | some code => exact Asks.ask trivial fun _ => Asks.pure _

/-- The output is told by looking, and never says that the task is stale. -/
theorem output_asks :
    (handle.output workspace).Asks := by
  rw [output_eq]
  split
  · exact lookFor_asks (Asks.bind Asks.call fun held => Asks.pure _) (Asks.pure _)
  · exact Asks.pure _

/-! ## Copies -/

/-- The handle after some more of the log was handed on. -/
def moved
    (handle : Handle)
    (bytes : Bytes) : Handle :=
  { handle with logOffset := handle.logOffset + bytes.length.toUInt64 }

/-- With nothing copied the handle stays where it was. -/
@[simp]
theorem moved_nil (handle : Handle) :
    handle.moved [] = handle := by
  simp [moved]

/-- The offset moves by all that was copied, in however many pieces. -/
theorem moved_moved
    (handle : Handle)
    (first second : Bytes) :
    (handle.moved first).moved second = handle.moved (first ++ second) := by
  simp [moved, UInt64.add_assoc]

/-- A handle that has moved on is a handle of the same task. -/
@[simp]
theorem moved_id
    (handle : Handle)
    (bytes : Bytes) :
    (handle.moved bytes).id = handle.id := rfl

/-- An offset that does not wrap around moves exactly if something was copied. -/
theorem logOffset_lt_moved
    (handle : Handle)
    {bytes : Bytes}
    (fits : handle.logOffset.toNat + bytes.length < UInt64.size) :
    handle.logOffset < (handle.moved bytes).logOffset ↔ bytes ≠ [] := by
  have length : bytes.length.toUInt64.toNat = bytes.length :=
    UInt64.toNat_ofNat_of_lt' (by omega)
  have offset : (handle.moved bytes).logOffset.toNat =
      handle.logOffset.toNat + bytes.length := by
    rw [moved, UInt64.toNat_add, length, Nat.mod_eq_of_lt fits]
  rw [UInt64.lt_iff_toNat_lt, offset, ← List.length_pos_iff]
  omega

/-- What a copy of new log did. -/
def Copies
    (handle : Handle)
    (exchanges : List Exchange) : Except TaskFault (Bool × Handle) → Prop
  | .error fault => Exchange.Copy exchanges [] ∧ ∀ task, fault ≠ .stale task
  | .ok (progressed, next) =>
      ∃ bytes, Exchange.Copy exchanges bytes ∧ progressed = !bytes.isEmpty ∧
        next = handle.moved bytes

/-- Looks before a copy take nothing away from what it says. -/
theorem Copies.behind
    {outcome : Except TaskFault (Bool × Handle)}
    {earlier later : List Exchange}
    (looks : ∀ exchange ∈ earlier, exchange.request.IsLook)
    (copies : handle.Copies later outcome) :
    handle.Copies (earlier ++ later) outcome := by
  have before := Exchange.Copy.of_looks looks
  cases outcome with
  | error fault => exact ⟨before.append copies.1, copies.2⟩
  | ok pair =>
      obtain ⟨bytes, copy, shown⟩ := copies
      exact ⟨bytes, before.append copy, shown⟩

/-- A copy that had nothing to hand on leaves the handle as it is. -/
theorem Copies.nothing :
    handle.Copies [] (.ok (false, handle)) :=
  ⟨[], Exchange.Copy.nil, rfl, (moved_nil handle).symm⟩

/-- A chunk that was read is handed on, and then the handle moves. -/
theorem deliver_copies
    {chunk : Bytes}
    (isSome : chunk.isEmpty = false) :
    (Handle.deliver chunk >>= fun _ =>
      (Pure.pure (true, handle.moved chunk) : TaskProgram (Bool × Handle))).run.Accounts
        handle.Copies := by
  intro delivered
  cases delivered with
  | error cause => exact ⟨⟨by simp [Request.IsWork], by simp [Exchange.copied]⟩, nofun⟩
  | ok done =>
      intro flushed
      cases flushed with
      | error cause => exact ⟨⟨by simp [Request.IsWork], by simp [Exchange.copied]⟩, nofun⟩
      | ok done =>
          exact ⟨chunk, ⟨by simp [Request.IsWork], by simp [Exchange.copied]⟩,
            by simp [isSome], rfl⟩

/-- A copy of new log says that it has copied, and moves the offset, by just what it has handed
on. -/
theorem copyLog_copies :
    (handle.copyLog workspace).run.Accounts handle.Copies := by
  have behind : ∀ earlier later outcome,
      (∀ exchange ∈ earlier, exchange.request.IsLook) → handle.Copies later outcome →
        handle.Copies (earlier ++ later) outcome :=
    fun earlier later outcome => Copies.behind
  have fails : ∀ fault, (∀ task, fault ≠ .stale task) → handle.Copies [] (.error fault) :=
    fun fault other => ⟨Exchange.Copy.nil, other⟩
  refine requireDirectory_asks.followed behind fails fun _ => ?_
  have isLook : (Request.file (.exists (handle.logFile workspace))).IsLook := trivial
  refine (Asks.look isLook).followed behind fails fun found => ?_
  cases found with
  | false => exact Copies.nothing
  | true =>
      refine Asks.call.followed behind fails fun chunk => ?_
      cases isEmpty : chunk.isEmpty with
      | true => exact Copies.nothing
      | false => exact deliver_copies isEmpty

/-! ## Cycles -/

/-- What a poll cycle did: the exchanges show what was copied, and by that much the handle has
moved. -/
structure Cycles
    (handle : Handle)
    (exchanges : List Exchange)
    (outcome : PollOutcome) : Prop where
  works : ∀ exchange ∈ exchanges, exchange.request.IsWork
  progressed : outcome.progressed = !(Exchange.copied exchanges).isEmpty
  moves : outcome.handle = handle.moved (Exchange.copied exchanges)
  notStale : ∀ task, outcome.verdict ≠ .error (.stale task)

/-- A cycle is told by its copy: it has made progress if the copy has handed on anything at all.
-/
theorem Cycles.of_copy
    {exchanges : List Exchange}
    {bytes : Bytes}
    {verdict : Except TaskFault (Option TaskResult)}
    {progressed : Bool}
    (copy : Exchange.Copy exchanges bytes)
    (tells : progressed = !bytes.isEmpty)
    (notStale : ∀ task, verdict ≠ .error (.stale task)) :
    handle.Cycles exchanges ⟨verdict, progressed, handle.moved bytes⟩ where
  works := copy.works
  progressed := by rw [copy.copied_eq, tells]
  moves := by rw [copy.copied_eq]
  notStale := notStale

/-- The second half of a cycle goes on from what the first half copied. -/
theorem finish_cycles
    {earlier : List Exchange}
    {bytes : Bytes}
    (copy : Exchange.Copy earlier bytes)
    (exitCode : Int32) :
    ((handle.moved bytes).finish workspace (!bytes.isEmpty) exitCode).Accounts
      fun later outcome => handle.Cycles (earlier ++ later) outcome := by
  refine Program.Accounts.bind (copyLog_copies.weaken fun second copied copies => ?_)
  cases copied with
  | error fault =>
      have sofar := copy.append copies.1
      rw [List.append_nil] at sofar
      refine Cycles.of_copy ?_ rfl fun task same => copies.2 task (Except.error.inj same)
      simpa using sofar
  | ok pair =>
      obtain ⟨more, next⟩ := pair
      obtain ⟨tail, copyTail, rfl, rfl⟩ := copies
      have sofar := copy.append copyTail
      rw [moved_moved]
      have tells : (!bytes.isEmpty || !tail.isEmpty) = !(bytes ++ tail).isEmpty := by
        cases bytes with
        | nil => rfl
        | cons byte bytes => rfl
      refine Program.Accounts.bind (output_asks.weaken fun third output asked => ?_)
      have whole := sofar.append (Exchange.Copy.of_looks asked.1)
      rw [List.append_nil] at whole
      cases output with
      | error fault =>
          have other : ∀ task, fault ≠ .stale task := fun task same => asked.2 task (congrArg _ same)
          refine Cycles.of_copy ?_ tells fun task same => other task (Except.error.inj same)
          simpa using whole
      | ok output =>
          intro answer
          refine Cycles.of_copy ?_ tells nofun
          have note : Exchange.Copy [⟨.note .info, answer⟩] [] :=
            Exchange.Copy.of_looks (by simp [Request.IsLook])
          simpa using whole.append note

/-- Whatever a poll cycle is answered, its exchanges show what it did. -/
theorem poll_cycles
    (handle : Handle)
    (workspace : Workspace) :
    (handle.poll workspace).Accounts handle.Cycles := by
  refine Program.Accounts.bind (copyLog_copies.weaken fun first copied copies => ?_)
  cases copied with
  | error fault =>
      have nothing : handle.Cycles first ⟨.error fault, false, handle.moved []⟩ :=
        Cycles.of_copy copies.1 rfl fun task same => copies.2 task (Except.error.inj same)
      rw [moved_nil] at nothing
      show handle.Cycles (first ++ []) _
      rwa [List.append_nil]
  | ok pair =>
      obtain ⟨progressed, next⟩ := pair
      obtain ⟨bytes, copy, rfl, rfl⟩ := copies
      refine Program.Accounts.bind (status_asks.weaken fun second status asked => ?_)
      have sofar := copy.append (Exchange.Copy.of_looks asked.1)
      rw [List.append_nil] at sofar
      cases status with
      | error fault =>
          have other : ∀ task, fault ≠ .stale task := fun task same => asked.2 task (congrArg _ same)
          refine Cycles.of_copy ?_ rfl fun task same => other task (Except.error.inj same)
          simpa using sofar
      | ok status =>
          cases status with
          | running =>
              refine Cycles.of_copy ?_ rfl nofun
              simpa using sofar
          | complete exitCode =>
              refine (finish_cycles sofar exitCode).weaken fun later outcome cycles => ?_
              simpa using cycles

end Handle

end DetachedTasks
