import DetachedTasks.Proofs.TaskTerritory

/-!
# What the operations of tasks leave alone

No operation on a task but its cleanup changes the control directory of the task or its
result, and neither does any operation on another task of the workspace, its launch and its
cleanup included, as long as the id of the task is not generated again.
-/

namespace DetachedTasks

/-- To leave the control directory and the result of a task alone, as long as its id is not
generated again. -/
def Terms.sparing
    (workspace : Workspace)
    (id : Text) : Terms where
  allowed := fun
    | .file call => call.SparesTask workspace id
    | _ => True
  fair := fun
    | .freshWord, word => TaskId.ofWord word ≠ id
    | _, _ => True

/-- To leave the control directory and the result of a task alone in any case. -/
def Terms.sparingAlways
    (workspace : Workspace)
    (id : Text) : Terms where
  allowed := (Terms.sparing workspace id).allowed
  fair := fun _ _ => True

section Operations

variable {workspace : Workspace} {id : Text} {handle : Handle}

/-- Whatever only looks is admitted, on any path. -/
theorem Terms.sparingAlways_serves
    (workspace : Workspace)
    (id : Text)
    (paths : List Path) :
    (Terms.sparingAlways workspace id).Serves paths where
  outside := by
    intro request outside
    cases request with
    | file call => exact False.elim outside
    | _ => trivial
  look := by
    intro path _ call looks
    exact FileCall.sparesTask_of_leaves (FileCall.leaves_of_looksAt looks)

theorem Terms.sparing_serves
    (workspace : Workspace)
    (id : Text)
    (paths : List Path) :
    (Terms.sparing workspace id).Serves paths where
  outside := (sparingAlways_serves workspace id paths).outside
  look := (sparingAlways_serves workspace id paths).look

/-- To save a handle on any task, this one included. -/
theorem keeps_save
    (wellFormed : TaskId.isWellFormed id = true)
    (handleWellFormed : TaskId.isWellFormed handle.id = true) :
    (handle.save workspace).Keeps (Terms.sparing workspace id) :=
  (Terms.sparing_serves workspace id []).save
    (FileCall.sparesTask_write_handleFile workspace wellFormed handleWellFormed _)

/-- To clean up another task. -/
theorem keeps_cleanup
    (wellFormed : TaskId.isWellFormed id = true)
    (handleWellFormed : TaskId.isWellFormed handle.id = true)
    (different : handle.id ≠ id) :
    (handle.cleanup workspace).Keeps (Terms.sparing workspace id) :=
  (Terms.sparing_serves workspace id _).cleanup
    (FileCall.sparesTask_removeFile_handleFile workspace wellFormed handleWellFormed)
    (FileCall.sparesTask_removeTree handleWellFormed different)

/-- A claimed name is a well-formed id, and not the one that is never generated again. -/
theorem keeps_allocate :
    workspace.allocate.Meets (Terms.sparing workspace id) fun other =>
      TaskId.isWellFormed other = true ∧ other ≠ id := by
  refine TaskProgram.Meets.bind
    (TaskProgram.Meets.call
      (FileCall.sparesTask_of_leaves FileCall.leaves_createDirectories)) fun _ _ => ?_
  apply (Terms.sparing_serves workspace id []).claim
  · intro word different
    exact FileCall.sparesTask_createDirectory (TaskId.isWellFormed_ofWord word) different
  · intro word different _
    exact ⟨TaskId.isWellFormed_ofWord word, different⟩

/-- The scripts of a task are not its result. -/
theorem sparesTask_scripts
    (handleWellFormed : TaskId.isWellFormed handle.id = true) :
    ∀ name ∈ [Handle.helperName, Handle.scriptName, Handle.wrapperName], ∀ content,
      (FileCall.write (handle.file workspace name) content).SparesTask workspace id := by
  intro name member content
  have notResult : ∀ name ∈ [Handle.helperName, Handle.scriptName, Handle.wrapperName],
      name ≠ Handle.resultName := by decide
  exact FileCall.sparesTask_write_file handleWellFormed (isName_of_mem_scripts name member)
    (Or.inr (notResult name member)) content

theorem keeps_writeFiles
    (script : TaskScript)
    (interpreter : Interpreter)
    (handleWellFormed : TaskId.isWellFormed handle.id = true) :
    (script.writeFiles workspace handle interpreter).Keeps
      (Terms.sparingAlways workspace id) :=
  (Terms.sparingAlways_serves workspace id []).writeFiles
    (sparesTask_scripts handleWellFormed) script interpreter

theorem keeps_start
    {launcher : Launcher}
    (outside : launcher.IsOutside)
    (order : LaunchOrder) :
    TaskProgram.Keeps (Terms.sparingAlways workspace id)
      (tryCatch (launcher order) fun cause => do
        TaskProgram.note .error
        throw cause) :=
  (Terms.sparingAlways_serves workspace id []).start outside order

/-- To launch another task. -/
theorem keeps_launch
    (script : TaskScript)
    {launcher : Launcher}
    (outside : launcher.IsOutside)
    (options : LaunchOptions) :
    (script.launch workspace launcher options).Keeps (Terms.sparing workspace id) :=
  (Terms.sparing_serves workspace id []).launch keeps_allocate
    (fun _ promised => sparesTask_scripts promised.1) script outside options

end Operations

end DetachedTasks
