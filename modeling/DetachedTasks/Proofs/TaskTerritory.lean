import DetachedTasks.Proofs.TaskFootprints
import DetachedTasks.Proofs.TaskPlaces

/-!
# What belongs to a task

A task owns its control directory with everything below it, and its saved handle, which
stands beside it.  Of two tasks neither owns anything above what the other owns.  So a call
at a place of one task spares every place of the other, although removal takes whole trees
and the name of a saved handle begins with an id.
-/

namespace DetachedTasks

/-- The place of the saved handle of a task. -/
def Workspace.placeOfHandle
    (workspace : Workspace)
    (id : Text) : Location :=
  workspace.tasksDirectory.location ++ [.name (Utf8.encode (id ++ ".toml".toList))]

/-- A place that belongs to a task. -/
inductive Workspace.Owns
    (workspace : Workspace)
    (id : Text) : Location → Prop where
  | handle : Owns workspace id (workspace.placeOfHandle id)
  | below (rest : Location) : Owns workspace id (workspace.placeOf id ++ rest)

section Owners

variable {workspace : Workspace} {id other : Text} {place otherPlace : Location}

/-- A task owns its control directory. -/
theorem Workspace.owns_controlDirectory
    (wellFormed : TaskId.isWellFormed id = true) :
    workspace.Owns id (workspace.controlDirectory id).location := by
  have here : workspace.Owns id (workspace.placeOf id ++ []) := .below []
  rwa [List.append_nil, ← location_controlDirectory wellFormed] at here

/-- A task owns the file beside its control directory that its handle is saved in. -/
theorem Workspace.owns_handleFile
    (wellFormed : TaskId.isWellFormed id = true) :
    workspace.Owns id (workspace.handleFile id).location := by
  rw [location_handleFile wellFormed]
  exact .handle

/-- A task owns the files in its control directory. -/
theorem Workspace.owns_file
    {handle : Handle}
    (wellFormed : TaskId.isWellFormed handle.id = true)
    {name : Text}
    (plain : Path.IsName (Utf8.encode name)) :
    workspace.Owns handle.id (handle.file workspace name).location := by
  rw [location_file wellFormed plain]
  exact .below _

/-- What belongs to a task lies in the directory of all tasks, under a name of the task. -/
theorem Workspace.Owns.shape
    (owns : workspace.Owns id place) :
    ∃ name rest, place = workspace.tasksDirectory.location ++ .name name :: rest ∧
      (name = Utf8.encode id ∨ name = Utf8.encode (id ++ ".toml".toList)) := by
  cases owns with
  | handle => exact ⟨_, [], rfl, Or.inr rfl⟩
  | below rest => exact ⟨_, rest, List.append_assoc _ _ _, Or.inl rfl⟩

theorem Workspace.Owns.not_above_tasksDirectory
    (owns : workspace.Owns id place) :
    ¬ place <+: workspace.tasksDirectory.location := by
  intro above
  obtain ⟨name, rest, shape, _⟩ := owns.shape
  have longer := above.length_le
  rw [shape, List.length_append, List.length_cons] at longer
  omega

/-- Different tasks have different names, for their control directories and for their saved
handles. -/
theorem TaskId.names_ne
    (wellFormed : isWellFormed id = true)
    (otherWellFormed : isWellFormed other = true)
    (different : other ≠ id)
    {name : Bytes}
    (named : name = Utf8.encode id ∨ name = Utf8.encode (id ++ ".toml".toList))
    (otherNamed :
      name = Utf8.encode other ∨ name = Utf8.encode (other ++ ".toml".toList)) :
    False := by
  rcases named with rfl | rfl
  · rcases otherNamed with same | same
    · exact different (Utf8.encode_injective same).symm
    · exact saved_ne wellFormed other same.symm
  · rcases otherNamed with same | same
    · exact saved_ne otherWellFormed id same
    · exact different (List.append_cancel_right (Utf8.encode_injective same)).symm

/-- Nothing of one task lies above anything of another. -/
theorem Workspace.Owns.apart
    (wellFormed : TaskId.isWellFormed id = true)
    (otherWellFormed : TaskId.isWellFormed other = true)
    (different : other ≠ id)
    (owns : workspace.Owns id place)
    (otherOwns : workspace.Owns other otherPlace) :
    ¬ place <+: otherPlace := by
  intro above
  obtain ⟨name, rest, rfl, named⟩ := owns.shape
  obtain ⟨otherName, otherRest, rfl, otherNamed⟩ := otherOwns.shape
  rw [List.prefix_append_right_inj, List.cons_prefix_cons] at above
  injection above.1 with sameName
  subst sameName
  exact TaskId.names_ne wellFormed otherWellFormed different named otherNamed

/-! ### Calls -/

/-- The path of a call. -/
def FileCall.path : FileCall → Path
  | .readText path => path
  | .read path => path
  | .readFrom path _ => path
  | .write path _ => path
  | .createDirectories path => path
  | .createDirectory path => path
  | .removeTree path => path
  | .removeFile path => path
  | .exists path => path
  | .isFile path => path
  | .isDirectory path => path
  | .absolute path => path

/-- A call that leaves alone whatever belongs to a task. -/
def FileCall.Leaves
    (workspace : Workspace)
    (id : Text)
    (call : FileCall) : Prop :=
  ∀ place, workspace.Owns id place → call.Spares place

/-- A call that is neither above nor below a place spares it. -/
theorem FileCall.spares_of_apart
    {call : FileCall}
    (notAbove : ¬ call.path.location <+: place)
    (notBelow : ¬ place <+: call.path.location) :
    call.Spares place := by
  have different : call.path.location ≠ place :=
    fun same => notAbove (same ▸ List.prefix_refl _)
  cases call with
  | write path content => exact different
  | createDirectories path => exact notBelow
  | createDirectory path => exact different
  | removeTree path => exact notAbove
  | removeFile path => exact different
  | _ => trivial

theorem FileCall.leaves_of_looksAt
    {call : FileCall}
    {path : Path}
    (looks : call.LooksAt path) :
    call.Leaves workspace id := by
  intro place _
  cases call with
  | write other content => exact False.elim looks
  | createDirectories other => exact False.elim looks
  | createDirectory other => exact False.elim looks
  | removeTree other => exact False.elim looks
  | removeFile other => exact False.elim looks
  | _ => trivial

/-- Whatever is done at a place of one task leaves the other tasks alone. -/
theorem FileCall.leaves_of_owns
    (wellFormed : TaskId.isWellFormed id = true)
    (otherWellFormed : TaskId.isWellFormed other = true)
    (different : other ≠ id)
    {call : FileCall}
    (otherOwns : workspace.Owns other call.path.location) :
    call.Leaves workspace id := by
  intro place owns
  apply spares_of_apart
  · exact otherOwns.apart otherWellFormed wellFormed different.symm owns
  · exact owns.apart wellFormed otherWellFormed different otherOwns

theorem FileCall.leaves_createDirectories :
    (FileCall.createDirectories workspace.tasksDirectory).Leaves workspace id :=
  fun _ owns => owns.not_above_tasksDirectory

/-- A call that leaves the task alone spares its control directory. -/
theorem FileCall.sparesTask_of_leaves
    {call : FileCall}
    (leaves : call.Leaves workspace id) :
    call.SparesTask workspace id := by
  have directory : workspace.Owns id (workspace.placeOf id ++ []) := .below []
  rw [List.append_nil] at directory
  exact ⟨leaves _ directory, leaves _ (.below _)⟩

end Owners

end DetachedTasks
