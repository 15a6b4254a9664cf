import DetachedTasks.Proofs.StatusPhases

/-!
# The status of a task is final

Every event leads from one phase to the same one or the next, so the answers about the status
of a task change at most twice in a run: when the result is written and when the task is
cleaned up.
-/

namespace DetachedTasks

/-! ## Steps -/

/-- An operation that is admitted spares the task in every one of its requests. -/
theorem Operation.program_meets
    {scenario : Scenario}
    (wellFormed : TaskId.isWellFormed scenario.id = true)
    {operation : Operation}
    (admitted : operation.IsAdmitted scenario.id) :
    (operation.program scenario.workspace).Meets
      (Terms.sparing scenario.workspace scenario.id) fun _ => True := by
  have serves := Terms.sparing_serves scenario.workspace scenario.id
  cases operation with
  | status handle => exact Program.Meets.bind (serves _).status fun _ _ => trivial
  | copyLog handle => exact Program.Meets.bind (serves _).copyLog fun _ _ => trivial
  | log handle => exact Program.Meets.bind (serves _).log fun _ _ => trivial
  | output handle => exact Program.Meets.bind (serves _).output fun _ _ => trivial
  | poll handle => exact Program.Meets.bind (serves _).poll fun _ _ => trivial
  | save handle =>
      exact Program.Meets.bind (keeps_save wellFormed admitted) fun _ _ => trivial
  | load id => exact Program.Meets.bind (serves _).load fun _ _ => trivial
  | launch script launcher options =>
      exact Program.Meets.bind (keeps_launch script admitted options) fun _ _ => trivial
  | cleanup handle =>
      exact Program.Meets.bind (keeps_cleanup wellFormed admitted.1 admitted.2)
        fun _ _ => trivial

/-- One request of a program that spares the task leaves the view of the task as it is, and
what is left of the program spares the task too. -/
theorem Program.Meets.next
    {scenario : Scenario}
    (wellFormed : TaskId.isWellFormed scenario.id = true)
    {program : Program Unit}
    (meets : program.Meets (Terms.sparing scenario.workspace scenario.id) fun _ => True)
    {reply : Reply}
    (fresh : TaskId.ofWord reply.word ≠ scenario.id)
    (memory : Memory) :
    scenario.view (program.next reply memory).2 = scenario.view memory ∧
      (program.next reply memory).1.Meets
        (Terms.sparing scenario.workspace scenario.id) fun _ => True := by
  cases program with
  | done value => exact ⟨rfl, meets⟩
  | ask request resume =>
      refine ⟨Workspace.view_respond wellFormed meets.1 reply memory, ?_⟩
      apply meets.2
      cases request with
      | freshWord => exact fresh
      | _ => trivial

/-- The task is in a phase, and whatever goes on spares it. -/
structure Site.InPhase
    (scenario : Scenario)
    (phase : Phase)
    (site : Site) : Prop where
  holds : phase.Holds scenario site.memory
  spared : ∀ program ∈ site.running,
    program.Meets (Terms.sparing scenario.workspace scenario.id) fun _ => True

/-- What an event adds to the answers. -/
def Phase.answers
    (scenario : Scenario)
    (phase : Phase)
    (event : Event) : List (Except TaskFault Status) :=
  if event.isLook then [phase.answer scenario] else []

/-- What is seen of the task stays, and so does what goes on. -/
theorem Site.InPhase.of_memory
    {scenario : Scenario}
    {phase next : Phase}
    {site : Site}
    (inPhase : site.InPhase scenario phase)
    {memory : Memory}
    (holds : next.Holds scenario memory) :
    ({ site with memory }).InPhase scenario next :=
  ⟨holds, inPhase.spared⟩

/-- A request of an operation that goes on keeps the phase. -/
theorem Site.InPhase.resume
    {scenario : Scenario}
    (wellFormed : TaskId.isWellFormed scenario.id = true)
    {phase : Phase}
    {site : Site}
    (inPhase : site.InPhase scenario phase)
    (index : Nat)
    {reply : Reply}
    (fresh : TaskId.ofWord reply.word ≠ scenario.id) :
    (site.step scenario (.resume index reply)).InPhase scenario phase ∧
      (site.step scenario (.resume index reply)).answers = site.answers := by
  rw [Site.step]
  cases found : site.running[index]? with
  | none => exact ⟨inPhase, rfl⟩
  | some program =>
      have meets := inPhase.spared program (List.mem_of_getElem? found)
      obtain ⟨same, rest⟩ := Program.Meets.next wellFormed meets fresh site.memory
      refine ⟨⟨inPhase.holds.of_view same, ?_⟩, rfl⟩
      intro other member
      rcases List.mem_or_eq_of_mem_set member with old | new
      · exact inPhase.spared other old
      · subst new
        exact rest

/-- Every event leads from phase to phase, and a look answers what the phase says. -/
theorem Site.InPhase.step
    {scenario : Scenario}
    (wellFormed : TaskId.isWellFormed scenario.id = true)
    {phase : Phase}
    {site : Site}
    (inPhase : site.InPhase scenario phase)
    {event : Event}
    (fair : event.IsFair scenario.id) :
    (site.step scenario event).InPhase scenario (phase.after event) ∧
      (site.step scenario event).answers =
        site.answers ++ phase.answers scenario event := by
  have stays : ∀ {memory : Memory}, scenario.view memory = scenario.view site.memory →
      ({ site with memory }).InPhase scenario phase :=
    fun same => inPhase.of_memory (inPhase.holds.of_view same)
  have silent : site.answers = site.answers ++ [] := (List.append_nil _).symm
  cases event with
  | append chunk =>
      rw [Phase.after_of_not_turn rfl]
      exact ⟨stays (Phase.view_performIn Deed.logName_ne_resultName.symm), silent⟩
  | capture content =>
      rw [Phase.after_of_not_turn rfl]
      exact ⟨stays (Phase.view_performIn Deed.outputName_ne_resultName.symm), silent⟩
  | finish => exact ⟨inPhase.of_memory inPhase.holds.finish, silent⟩
  | look capturing logOffset =>
      rw [Phase.after_of_not_turn rfl, Site.step, inPhase.holds.run_status capturing logOffset]
      exact ⟨⟨inPhase.holds, inPhase.spared⟩, rfl⟩
  | start operation =>
      rw [Phase.after_of_not_turn rfl]
      refine ⟨⟨inPhase.holds, ?_⟩, silent⟩
      intro program member
      rcases List.mem_append.mp member with old | new
      · exact inPhase.spared program old
      · rw [List.mem_singleton.mp new]
        exact operation.program_meets wellFormed fair
  | resume index reply =>
      obtain ⟨after, same⟩ := inPhase.resume wellFormed index fair
      rw [Phase.after_of_not_turn rfl]
      exact ⟨after, same.trans silent⟩
  | playLog rehearsal handle =>
      rw [Phase.after_of_not_turn rfl]
      exact ⟨stays (Phase.view_writeLog wellFormed fair.1 fair.2 rehearsal _), silent⟩
  | playEnd rehearsal handle =>
      rw [Phase.after_of_not_turn rfl]
      exact ⟨stays (Phase.view_finish wellFormed fair.1 fair.2 rehearsal _), silent⟩
  | cleanup capturing logOffset =>
      rw [Phase.after_cleanup]
      exact ⟨inPhase.of_memory (inPhase.holds.cleanup wellFormed capturing logOffset), silent⟩

/-! ## Runs -/

/-- A first event that is a look stands for one more answer. -/
theorem replicate_looks_cons
    (event : Event)
    (events : List Event)
    (answer : Except TaskFault Status) :
    List.replicate (looks (event :: events)) answer =
      (if event.isLook then [answer] else []) ++ List.replicate (looks events) answer := by
  rw [looks, List.countP_cons, ← looks]
  cases event.isLook with
  | true => exact List.replicate_succ
  | false => rfl

namespace Phase

/-- The answers in a run that begins in a phase. -/
def answersIn (scenario : Scenario) : Phase → List Event → List (Except TaskFault Status)
  | _, [] => []
  | phase, event :: events =>
      phase.answers scenario event ++ (phase.after event).answersIn scenario events

variable (scenario : Scenario)

/-- After its cleanup the task is missing, whatever happens. -/
theorem answersIn_gone (events : List Event) :
    Phase.gone.answersIn scenario events =
      List.replicate (looks events) (Phase.gone.answer scenario) := by
  induction events with
  | nil => rfl
  | cons event events inductionHypothesis =>
      rw [answersIn, gone_after, inductionHypothesis, replicate_looks_cons, answers]

/-- From its result on the task is complete, up to its cleanup. -/
theorem answersIn_complete (events : List Event) :
    Phase.complete.answersIn scenario events =
      List.replicate (looks (events.takeWhile (!·.isCleanup)))
          (Phase.complete.answer scenario) ++
        List.replicate (looks (events.dropWhile (!·.isCleanup)))
          (Phase.gone.answer scenario) := by
  induction events with
  | nil => rfl
  | cons event events inductionHypothesis =>
      by_cases cleaned : event.isCleanup = true
      · cases event with
        | cleanup capturing logOffset => exact answersIn_gone scenario events
        | _ => cases cleaned
      · have stays : Phase.complete.after event = .complete := by
          cases event with
          | cleanup capturing logOffset => exact absurd rfl cleaned
          | _ => rfl
        have goesOn : (!event.isCleanup) = true := by simpa using cleaned
        rw [answersIn, stays, inductionHypothesis, List.takeWhile_cons, if_pos goesOn,
          List.dropWhile_cons, if_pos goesOn, replicate_looks_cons, answers,
          List.append_assoc]

/-- Without a result the task is running. -/
theorem answersIn_running (events : List Event) :
    Phase.running.answersIn scenario events =
      List.replicate (looks (events.takeWhile (!·.isTurn)))
          (Phase.running.answer scenario) ++
        (List.replicate (looks ((events.dropWhile (!·.isTurn)).takeWhile (!·.isCleanup)))
            (Phase.complete.answer scenario) ++
          List.replicate (looks (events.dropWhile (!·.isCleanup)))
            (Phase.gone.answer scenario)) := by
  induction events with
  | nil => rfl
  | cons event events inductionHypothesis =>
      by_cases turn : event.isTurn = true
      · cases event with
        | finish => exact answersIn_complete scenario events
        | cleanup capturing logOffset => exact answersIn_gone scenario events
        | _ => cases turn
      · have quiet : event.isTurn = false := Bool.eq_false_iff.mpr turn
        have noCleanup : (!event.isCleanup) = true := by
          cases event with
          | cleanup capturing logOffset => exact absurd rfl turn
          | _ => rfl
        have goesOn : (!event.isTurn) = true := by rw [quiet]; rfl
        rw [answersIn, after_of_not_turn quiet, inductionHypothesis, List.takeWhile_cons,
          if_pos goesOn, List.dropWhile_cons, if_pos goesOn, List.dropWhile_cons,
          if_pos noCleanup, replicate_looks_cons, answers, List.append_assoc]

end Phase

/-- A run goes through the phases, and its looks answer what they say. -/
theorem Site.InPhase.run
    {scenario : Scenario}
    (wellFormed : TaskId.isWellFormed scenario.id = true)
    {phase : Phase}
    {site : Site}
    (inPhase : site.InPhase scenario phase)
    {events : List Event}
    (fair : ∀ event ∈ events, event.IsFair scenario.id) :
    (site.run scenario events).InPhase scenario (events.foldl Phase.after phase) ∧
      (site.run scenario events).answers =
        site.answers ++ phase.answersIn scenario events := by
  induction events generalizing site phase with
  | nil => exact ⟨inPhase, (List.append_nil _).symm⟩
  | cons event events inductionHypothesis =>
      obtain ⟨inNext, answers⟩ := inPhase.step wellFormed (fair event List.mem_cons_self)
      obtain ⟨inLast, later⟩ := inductionHypothesis inNext
        fun other member => fair other (List.mem_cons_of_mem _ member)
      refine ⟨inLast, ?_⟩
      rw [answers, List.append_assoc] at later
      exact later

/-- After a launch that succeeds the answers about the status of a task are first that it
runs, from its result on its exit code, and from its cleanup on that it is missing, whatever
else goes on in the workspace. -/
theorem Site.run_answers
    (scenario : Scenario)
    (script : TaskScript)
    (launcher : Launcher)
    (outside : launcher.IsOutside)
    (options : LaunchOptions)
    (memory : Memory)
    (tidy : scenario.workspace.IsTidy memory)
    (replies : List Reply)
    (handle : Handle)
    (launched :
      ((script.launch scenario.workspace launcher options).run.proceed memory
        replies).1.result? = some (.ok handle))
    (ours : handle.id = scenario.id)
    (events : List Event)
    (fair : ∀ event ∈ events, event.IsFair scenario.id) :
    ((Site.ofMemory
        ((script.launch scenario.workspace launcher options).run.proceed memory
          replies).2).run scenario events).answers =
      List.replicate (looks (events.takeWhile (!·.isTurn))) (.ok .running) ++
        (List.replicate (looks ((events.dropWhile (!·.isTurn)).takeWhile (!·.isCleanup)))
            (.ok (.complete scenario.code)) ++
          List.replicate (looks (events.dropWhile (!·.isCleanup)))
            (.error (.controlDirectoryMissing scenario.directory))) := by
  have secured :=
    Program.Secures.of_result (secures_launch script outside options tidy) launched
  obtain ⟨wellFormed, view⟩ := secured handle rfl
  rw [ours] at wellFormed view
  have start : (Site.ofMemory
      ((script.launch scenario.workspace launcher options).run.proceed memory
        replies).2).InPhase scenario .running :=
    ⟨view, fun _ member => absurd member List.not_mem_nil⟩
  have answers := (start.run wellFormed fair).2
  rw [Phase.answersIn_running] at answers
  exact answers

/-- A task that ends with a negative exit code. -/
def sampleScenario : Scenario where
  workspace := ⟨Path.ofText "/w".toList⟩
  id := TaskId.ofWord 1
  code := -3

/-- Another task of the same workspace. -/
def otherHandle : Handle :=
  Handle.attach (TaskId.ofWord 2) true

def sampleScript : TaskScript where
  body := "exit -3".toList
  capturing := true

/-- Another task is launched while this one runs, it is played to its end and cleaned up, and
a handle on this one is saved after it was cleaned up itself. -/
def sampleEvents : List Event :=
  [Event.start (.launch sampleScript Launcher.handOver LaunchOptions.default),
    Event.append [0x61]]
    ++ List.replicate 10 (Event.resume 0 { Reply.calm with word := 2 })
    ++ [Event.look true 0, Event.playEnd ⟨[.exit 5]⟩ otherHandle, Event.look false 7,
      Event.finish, Event.start (.cleanup otherHandle), Event.look false 0]
    ++ List.replicate 5 (Event.resume 1 { Reply.calm with word := 2 })
    ++ [Event.look true 1, Event.start (.save (sampleScenario.handle true 0)),
      Event.cleanup true 0, Event.resume 2 Reply.calm, Event.look true 0]

theorem Site.run_answers_sample :
    ((Site.ofMemory
        ((sampleScript.launch sampleScenario.workspace Launcher.handOver
          LaunchOptions.default).run.proceed Memory.new
            (List.replicate 10 { Reply.calm with word := 1 })).2).run sampleScenario
              sampleEvents).answers =
      [.ok .running, .ok .running, .ok (.complete (-3)), .ok (.complete (-3)),
        .error (.controlDirectoryMissing sampleScenario.directory)] := by
  have other :
      TaskId.isWellFormed otherHandle.id = true ∧ otherHandle.id ≠ sampleScenario.id := by
    decide
  have fair : ∀ event ∈ sampleEvents, event.IsFair sampleScenario.id := by
    intro event member
    simp only [sampleEvents, List.mem_append, List.mem_cons, List.mem_replicate,
      List.not_mem_nil, or_false] at member
    rcases member with ((((rfl | rfl) | ⟨-, rfl⟩) | rfl | rfl | rfl | rfl | rfl | rfl) |
      ⟨-, rfl⟩) | rfl | rfl | rfl | rfl | rfl
    · exact Launcher.handOver_isOutside
    · trivial
    · exact other.2
    · trivial
    · exact other
    · trivial
    · trivial
    · exact other
    · trivial
    · exact other.2
    · trivial
    · exact TaskId.isWellFormed_ofWord 1
    · trivial
    · intro same
      exact absurd same (by decide)
    · trivial
  have answers := Site.run_answers sampleScenario sampleScript Launcher.handOver
    Launcher.handOver_isOutside LaunchOptions.default Memory.new Workspace.isTidy_new
    (List.replicate 10 { Reply.calm with word := 1 }) (sampleScenario.handle true 0)
    (by decide +kernel) rfl sampleEvents fair
  exact answers.trans (by decide)

end DetachedTasks
