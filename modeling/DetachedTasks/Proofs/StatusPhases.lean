import DetachedTasks.Proofs.ResultReading
import DetachedTasks.Proofs.UndisturbedOperations
import DetachedTasks.Proofs.WorkspaceRuns

/-!
# Phases of a task

A task is in one of three phases, which follow one another: without a result, with its
result, and cleaned up.  The phase is seen from what stands at its control directory and at
its result.
-/

namespace DetachedTasks

/-- How far a task is. -/
inductive Phase where
  | running
  | complete
  | gone
  deriving Repr, DecidableEq

namespace Phase

/-- What stands in memory in a phase. -/
def Holds
    (scenario : Scenario)
    (memory : Memory) : Phase → Prop
  | .running => scenario.view memory = (some .directory, none)
  | .complete =>
      scenario.view memory =
        (some .directory, some (.file (ResultText.ofExitCode scenario.code)))
  | .gone => (scenario.view memory).1 = none

/-- What a look at the status answers in a phase. -/
def answer (scenario : Scenario) : Phase → Except TaskFault Status
  | .running => .ok .running
  | .complete => .ok (.complete scenario.code)
  | .gone => .error (.controlDirectoryMissing scenario.directory)

/-- The phase after an event. -/
def after : Phase → Event → Phase
  | .running, .finish => .complete
  | _, .cleanup _ _ => .gone
  | phase, _ => phase

variable {scenario : Scenario} {memory next : Memory} {phase : Phase}

/-- What was cleaned up does not come back. -/
theorem gone_after (event : Event) :
    Phase.gone.after event = .gone := by
  cases event <;> rfl

theorem after_cleanup
    (phase : Phase)
    (capturing : Bool)
    (logOffset : UInt64) :
    phase.after (.cleanup capturing logOffset) = .gone := by
  cases phase <;> rfl

/-- Only the result and the cleanup lead from one phase to another. -/
theorem after_of_not_turn
    {event : Event}
    (quiet : event.isTurn = false) :
    phase.after event = phase := by
  cases event with
  | finish => cases quiet
  | cleanup capturing logOffset => cases quiet
  | _ => cases phase <;> rfl

/-- Whatever leaves the view of the task alone leaves it in its phase. -/
theorem Holds.of_view
    (holds : phase.Holds scenario memory)
    (same : scenario.view next = scenario.view memory) :
    phase.Holds scenario next := by
  cases phase with
  | running => exact same.trans holds
  | complete => exact same.trans holds
  | gone =>
      rw [Holds, same]
      exact holds

/-! ### The child -/

/-- No deed changes what stands at the control directory. -/
theorem view_fst_performIn
    (scenario : Scenario)
    (memory : Memory)
    (deed : Deed) :
    (scenario.view (deed.performIn scenario.directory memory)).1 =
      (scenario.view memory).1 := by
  rw [Scenario.view_eq_look, Scenario.view_eq_look, ← Deed.perform_inMemory,
    Deed.look_directory_perform]

/-- The log and the captured output are no part of the view. -/
theorem view_performIn
    {deed : Deed}
    (different : Handle.resultName ≠ deed.fileName) :
    scenario.view (deed.performIn scenario.directory memory) = scenario.view memory := by
  refine Prod.ext (view_fst_performIn scenario memory deed) ?_
  rw [Scenario.view_eq_look, Scenario.view_eq_look, ← Deed.perform_inMemory]
  rcases deed.look_perform scenario.directory (.inMemory memory) Deed.resultName_mem with
    ⟨_, stands⟩ | ⟨_, same⟩
  · rw [stands, if_neg different]
  · rw [same]

/-- In its control directory the child can write its result, unless a directory has that
name. -/
theorem view_performIn_result
    (content : Bytes)
    (stands : (scenario.view memory).1 = some .directory)
    (noDirectory : (scenario.view memory).2 ≠ some .directory) :
    scenario.view ((Deed.result content).performIn scenario.directory memory) =
      (some .directory, some (.file content)) := by
  have taken :
      (Sandbox.Storage.inMemory memory).takes
        (scenario.directory.joinText (Deed.result content).fileName) :=
    Memory.takes_of_isDirectory (Deed.isFileName_of_mem Deed.resultName_mem).toIsName
      stands noDirectory
  have own : Handle.resultName = (Deed.result content).fileName := rfl
  refine Prod.ext ((view_fst_performIn scenario memory _).trans stands) ?_
  rw [Scenario.view_eq_look, ← Deed.perform_inMemory]
  rcases (Deed.result content).look_perform scenario.directory (.inMemory memory)
      Deed.resultName_mem with ⟨_, written⟩ | ⟨refused, _⟩
  · rw [written, if_pos own, Deed.change]
  · exact absurd taken refused

/-- Once the child has written its result the task is complete, unless it is gone. -/
theorem Holds.finish
    (holds : phase.Holds scenario memory) :
    (phase.after .finish).Holds scenario
      ((Deed.result (ResultText.ofExitCode scenario.code)).performIn scenario.directory
        memory) := by
  cases phase with
  | running =>
      have shape : scenario.view memory = (some .directory, none) := holds
      apply view_performIn_result
      · rw [shape]
      · rw [shape]
        intro impossible
        cases impossible
  | complete =>
      have shape :
          scenario.view memory =
            (some .directory, some (.file (ResultText.ofExitCode scenario.code))) := holds
      apply view_performIn_result
      · rw [shape]
      · rw [shape]
        intro impossible
        cases impossible
  | gone =>
      have shape : (scenario.view memory).1 = none := holds
      rw [gone_after, Holds, view_fst_performIn, shape]

/-! ### Other tasks that are played -/

/-- What is put into the control directory of another task is not seen here. -/
theorem view_addFile
    (wellFormed : TaskId.isWellFormed scenario.id = true)
    {handle : Handle}
    (handleWellFormed : TaskId.isWellFormed handle.id = true)
    (different : handle.id ≠ scenario.id)
    {name : Text}
    (member : name ∈ Deed.fileNames)
    (memory : Memory)
    (content : Bytes) :
    scenario.view (memory.addFile (handle.file scenario.workspace name) content) =
        scenario.view memory ∧
      scenario.view (memory.append (handle.file scenario.workspace name) content) =
        scenario.view memory := by
  have location :
      (handle.file scenario.workspace name).location =
        scenario.workspace.placeOf handle.id ++ [.name (Utf8.encode name)] :=
    location_file handleWellFormed (Deed.isFileName_of_mem member).toIsName
  have apart :
      ¬ scenario.workspace.placeOf scenario.id <+:
        (handle.file scenario.workspace name).location := by
    rw [location]
    exact not_placeOf_below different.symm _
  have apartFromResult :
      ¬ scenario.workspace.placeOfFile scenario.id Handle.resultName <+:
        (handle.file scenario.workspace name).location := by
    intro below
    exact apart ((List.prefix_append _ _).trans below)
  simp only [Scenario.view, Workspace.view_eq wellFormed]
  constructor
  · rw [memory.lookup_addFile content apart, memory.lookup_addFile content apartFromResult]
  · rw [memory.lookup_append content apart, memory.lookup_append content apartFromResult]

theorem view_writeLog
    (wellFormed : TaskId.isWellFormed scenario.id = true)
    {handle : Handle}
    (handleWellFormed : TaskId.isWellFormed handle.id = true)
    (different : handle.id ≠ scenario.id)
    (rehearsal : Rehearsal)
    (memory : Memory) :
    scenario.view (rehearsal.writeLog scenario.workspace handle memory) =
      scenario.view memory := by
  have append : ∀ memory content,
      scenario.view (memory.append (handle.logFile scenario.workspace) content) =
        scenario.view memory := fun memory content =>
    (view_addFile wellFormed handleWellFormed different Deed.logName_mem memory content).2
  have lines : ∀ (lines : List Text) (before : Memory),
      scenario.view
          (lines.foldl
            (fun memory line =>
              memory.append (handle.logFile scenario.workspace) (Rehearsal.lineBytes line))
            before) =
        scenario.view before := by
    intro lines
    induction lines with
    | nil => exact fun before => rfl
    | cons line lines inductionHypothesis =>
        intro before
        rw [List.foldl_cons, inductionHypothesis, append]
  rw [Rehearsal.writeLog, lines, append]

theorem view_finish
    (wellFormed : TaskId.isWellFormed scenario.id = true)
    {handle : Handle}
    (handleWellFormed : TaskId.isWellFormed handle.id = true)
    (different : handle.id ≠ scenario.id)
    (rehearsal : Rehearsal)
    (memory : Memory) :
    scenario.view (rehearsal.finish scenario.workspace handle memory) =
      scenario.view memory := by
  have addResult := fun memory content =>
    (view_addFile wellFormed handleWellFormed different Deed.resultName_mem memory content).1
  have addOutput := fun memory content =>
    (view_addFile wellFormed handleWellFormed different Deed.outputName_mem memory content).1
  rw [Rehearsal.finish, Handle.resultFile, addResult]
  split
  · exact addOutput memory _
  · rfl

/-! ### Looking at the status -/

theorem isDirectory_of_running
    (holds : Phase.running.Holds scenario memory) :
    memory.isDirectory scenario.directory = true :=
  beq_iff_eq.mpr (congrArg Prod.fst holds)

theorem isDirectory_of_complete
    (holds : Phase.complete.Holds scenario memory) :
    memory.isDirectory scenario.directory = true :=
  beq_iff_eq.mpr (congrArg Prod.fst holds)

theorem isDirectory_of_gone
    (holds : Phase.gone.Holds scenario memory) :
    memory.isDirectory scenario.directory = false := by
  have absent : memory.entryAt scenario.directory = none := holds
  rw [Memory.isDirectory, absent]
  rfl

theorem resultFile_of_running
    (holds : Phase.running.Holds scenario memory)
    (capturing : Bool)
    (logOffset : UInt64) :
    memory.entryAt ((scenario.handle capturing logOffset).resultFile scenario.workspace) =
      none :=
  congrArg Prod.snd holds

theorem resultFile_of_complete
    (holds : Phase.complete.Holds scenario memory)
    (capturing : Bool)
    (logOffset : UInt64) :
    memory.entryAt ((scenario.handle capturing logOffset).resultFile scenario.workspace) =
      some (.file (ResultText.ofExitCode scenario.code)) :=
  congrArg Prod.snd holds

/-- A look at the status changes nothing, and answers what the phase says. -/
theorem Holds.run_status
    (holds : phase.Holds scenario memory)
    (capturing : Bool)
    (logOffset : UInt64) :
    ((scenario.handle capturing logOffset).status scenario.workspace).run.run
        Reply.calm.respond memory =
      (phase.answer scenario, memory) := by
  cases phase with
  | running =>
      exact run_status_noResult (isDirectory_of_running holds)
        (resultFile_of_running holds capturing logOffset)
  | complete =>
      have isThere :
          memory.isDirectory ((scenario.handle capturing logOffset).directory
            scenario.workspace) = true := isDirectory_of_complete holds
      rw [run_status_result isThere (resultFile_of_complete holds capturing logOffset)
        (ResultText.parse_ofExitCode scenario.code)]
      rfl
  | gone => exact run_status_missing (isDirectory_of_gone holds)

/-! ### Cleaning up -/

/-- After its cleanup nothing stands where the control directory was. -/
theorem Holds.cleanup
    (wellFormed : TaskId.isWellFormed scenario.id = true)
    (holds : phase.Holds scenario memory)
    (capturing : Bool)
    (logOffset : UInt64) :
    Phase.gone.Holds scenario
      (((scenario.handle capturing logOffset).cleanup scenario.workspace).run.run
        Reply.calm.respond memory).2 := by
  have stood :
      memory.entryAt scenario.directory = some .directory ∨
        memory.entryAt scenario.directory = none := by
    cases phase with
    | running => exact Or.inl (congrArg Prod.fst holds)
    | complete => exact Or.inl (congrArg Prod.fst holds)
    | gone => exact Or.inr holds
  have different :
      scenario.directory.location ≠
        (scenario.workspace.handleFile scenario.id).location := by
    rw [Scenario.directory, location_controlDirectory wellFormed]
    exact (FileCall.handleFile_apart scenario.workspace wellFormed wellFormed).1.symm
  have kept :
      (memory.withoutFile (scenario.workspace.handleFile scenario.id)).entryAt
          scenario.directory =
        memory.entryAt scenario.directory := Memory.entryAt_withoutFile different
  rw [run_cleanup]
  apply Memory.entryAt_withoutTree
  rw [← kept] at stood
  exact stood

end Phase

end DetachedTasks
