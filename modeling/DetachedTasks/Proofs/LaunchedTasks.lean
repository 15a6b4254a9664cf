import DetachedTasks.Proofs.MemoryPrograms
import DetachedTasks.Proofs.TaskOperations

/-!
# Right after a launch

A launch that succeeds has made the control directory, so nothing of an earlier task is in
it, and it has written its scripts and no result.
-/

namespace DetachedTasks

/-! ## What stands at a task -/

/-- What stands at the control directory of a task and at its result. -/
def Workspace.view
    (workspace : Workspace)
    (id : Text)
    (memory : Memory) : Option Entry × Option Entry :=
  (memory.entryAt (workspace.controlDirectory id),
    memory.entryAt ((workspace.controlDirectory id).joinText Handle.resultName))

/-- No result lies about without its control directory, as in every file system. -/
def Workspace.IsTidy
    (workspace : Workspace)
    (memory : Memory) : Prop :=
  ∀ id, TaskId.isWellFormed id = true →
    (workspace.view id memory).1 = none → (workspace.view id memory).2 = none

section View

variable {workspace : Workspace} {id : Text} {memory : Memory}

theorem Workspace.view_eq
    (wellFormed : TaskId.isWellFormed id = true)
    (memory : Memory) :
    workspace.view id memory =
      (memory.entries.lookup (workspace.placeOf id),
        memory.entries.lookup (workspace.placeOfFile id Handle.resultName)) := by
  have plain := Deed.isFileName_of_mem Deed.resultName_mem
  have location :
      ((workspace.controlDirectory id).joinText Handle.resultName).location =
        workspace.placeOfFile id Handle.resultName := by
    rw [Path.joinText, Path.ofText, Path.location_join plain.toIsName,
      location_controlDirectory wellFormed]
    rfl
  rw [view, Memory.entryAt, Memory.entryAt, location, location_controlDirectory wellFormed]

theorem Workspace.view_answer
    (wellFormed : TaskId.isWellFormed id = true)
    {call : FileCall}
    (spares : call.SparesTask workspace id)
    (memory : Memory) :
    workspace.view id (memory.answer call).2 = workspace.view id memory := by
  rw [view_eq wellFormed, view_eq wellFormed, memory.lookup_answer spares.1,
    memory.lookup_answer spares.2]

/-- At first there is nothing but the root. -/
theorem Workspace.isTidy_new : workspace.IsTidy Memory.new := by
  intro id wellFormed _
  rw [view_eq wellFormed]
  have notRoot : workspace.placeOfFile id Handle.resultName ≠ [.root] := by
    intro same
    have length := congrArg List.length same
    simp [placeOfFile, placeOf] at length
  show Memory.new.entries.lookup (workspace.placeOfFile id Handle.resultName) = none
  rw [Memory.new, EntryMap.lookup_insert, if_neg notRoot, EntryMap.lookup_empty]

/-- No call makes a result lie about, unless it removes a file in the place of a control
directory. -/
theorem Workspace.IsTidy.answer
    (tidy : workspace.IsTidy memory)
    {call : FileCall}
    (spared : ∀ path id, call = .removeFile path → TaskId.isWellFormed id = true →
      path.location ≠ workspace.placeOf id) :
    workspace.IsTidy (memory.answer call).2 := by
  intro id wellFormed
  have above :
      (workspace.placeOfFile id Handle.resultName).dropLast = workspace.placeOf id :=
    List.dropLast_concat
  have long : 1 < (workspace.placeOfFile id Handle.resultName).length := by
    simp [placeOfFile, placeOf]
  have grounded : memory.IsGrounded (workspace.placeOfFile id Handle.resultName) := by
    have here := tidy id wellFormed
    rw [view_eq wellFormed] at here
    rw [Memory.IsGrounded, above]
    exact here
  have after := grounded.answer long fun path removes =>
    above ▸ spared path id removes wellFormed
  rw [Memory.IsGrounded, above] at after
  rw [view_eq wellFormed]
  exact after

theorem Workspace.view_respond
    (wellFormed : TaskId.isWellFormed id = true)
    {request : Request}
    (allowed : (Terms.sparing workspace id).allowed request)
    (reply : Reply)
    (memory : Memory) :
    workspace.view id (reply.respond request memory).2 = workspace.view id memory := by
  cases request with
  | file call => exact view_answer wellFormed allowed memory
  | _ => rfl

/-- A program that spares a task in any case leaves its view as it is. -/
theorem Program.Meets.secures
    (wellFormed : TaskId.isWellFormed id = true)
    {promise : α → Prop}
    {program : Program α}
    (meets : program.Meets (Terms.sparingAlways workspace id) promise)
    (memory : Memory) :
    program.Secures
      (fun value after =>
        promise value ∧ workspace.view id after = workspace.view id memory)
      memory := by
  suffices general : ∀ before,
      workspace.view id before = workspace.view id memory →
        program.Secures
          (fun value after =>
            promise value ∧ workspace.view id after = workspace.view id memory)
          before from general memory rfl
  induction program with
  | done value =>
      intro before same
      exact ⟨meets, same⟩
  | ask request resume inductionHypothesis =>
      intro before same reply
      apply inductionHypothesis _ (meets.2 _ trivial)
      rw [Workspace.view_respond wellFormed meets.1, same]

/-! ## The launch -/

/-- A task that was launched and has no result yet. -/
def Workspace.IsNew
    (workspace : Workspace)
    (memory : Memory)
    (id : Text) : Prop :=
  TaskId.isWellFormed id = true ∧ workspace.view id memory = (some .directory, none)

/-- A directory that was just made where nothing stood is the control directory of a new
task. -/
theorem isNew_put
    (tidy : workspace.IsTidy memory)
    (wellFormed : TaskId.isWellFormed id = true)
    (vacant : memory.entryAt (workspace.controlDirectory id) = none) :
    workspace.IsNew (memory.put (workspace.controlDirectory id) .directory) id := by
  have noResult := tidy id wellFormed vacant
  have apart :
      workspace.placeOf id ≠ workspace.placeOfFile id Handle.resultName := by
    rw [Workspace.placeOfFile]
    simp
  rw [Workspace.view_eq wellFormed] at noResult
  simp only at noResult
  refine ⟨wellFormed, ?_⟩
  rw [Workspace.view_eq wellFormed, Memory.put, location_controlDirectory wellFormed,
    EntryMap.lookup_insert, EntryMap.lookup_insert, if_pos rfl, if_neg apart.symm, noResult]

/-- A name that is claimed is the id of a new task. -/
theorem secures_claim
    (tidy : workspace.IsTidy memory)
    (count : Nat) :
    (workspace.claim count).Secures (fun id after => workspace.IsNew after id) memory := by
  induction count with
  | zero => exact TaskProgram.Secures.throw _
  | succ count inductionHypothesis =>
      refine TaskProgram.Secures.ask fun fresh => ?_
      have wellFormed := TaskId.isWellFormed_ofWord fresh.word
      refine TaskProgram.Secures.bind (TaskProgram.Secures.call ?_)
      intro made answered
      refine TaskProgram.Secures.ask fun _ => ?_
      rcases Memory.createDirectory_ok answered with ⟨isMade, vacant, after⟩ | ⟨isMade, after⟩
      · subst isMade
        rw [if_pos rfl, after]
        exact TaskProgram.Secures.pure (isNew_put tidy wellFormed vacant)
      · subst isMade
        rw [if_neg Bool.false_ne_true, after]
        exact inductionHypothesis

/-- What a view is, before and after the directory of all tasks was made. -/
theorem tidy_createDirectories
    (tidy : workspace.IsTidy memory) :
    workspace.IsTidy
      (memory.answer (.createDirectories workspace.tasksDirectory)).2 := by
  intro id wellFormed
  rw [Workspace.view_answer wellFormed
    (FileCall.sparesTask_of_leaves FileCall.leaves_createDirectories)]
  exact tidy id wellFormed

theorem secures_allocate
    (tidy : workspace.IsTidy memory) :
    workspace.allocate.Secures (fun id after => workspace.IsNew after id) memory := by
  refine TaskProgram.Secures.bind (TaskProgram.Secures.call ?_)
  intro made _
  exact secures_claim (tidy_createDirectories tidy) Workspace.attempts

/-- What spares a task leaves it new. -/
theorem TaskProgram.Keeps.secures_isNew
    {program : TaskProgram α}
    (keeps : program.Keeps (Terms.sparingAlways workspace id))
    (isNew : workspace.IsNew memory id) :
    program.Secures (fun _ after => workspace.IsNew after id) memory := by
  have spared := Program.Meets.secures isNew.1 keeps memory
  refine Program.Secures.weaken spared ?_
  intro outcome after same value _
  exact ⟨isNew.1, same.2.trans isNew.2⟩

/-- A launch that succeeds answers with a handle on a new task. -/
theorem secures_launch
    (script : TaskScript)
    {launcher : Launcher}
    (outside : launcher.IsOutside)
    (options : LaunchOptions)
    (tidy : workspace.IsTidy memory) :
    (script.launch workspace launcher options).Secures
      (fun handle after => workspace.IsNew after handle.id) memory := by
  refine TaskProgram.Secures.bind ((secures_allocate tidy).weaken ?_)
  intro id after isNew
  refine TaskProgram.Secures.bind
    (((keeps_writeFiles script _ isNew.1).secures_isNew isNew).weaken ?_)
  intro files later isNewThen
  refine TaskProgram.Secures.bind (((keeps_start outside _).secures_isNew isNewThen).weaken ?_)
  intro started last isNewLast
  refine TaskProgram.Secures.ask fun _ => ?_
  exact TaskProgram.Secures.pure isNewLast

end View

end DetachedTasks
