import DetachedTasks.Proofs.StorageTrees
import DetachedTasks.Task.Launch

/-!
# Scripts in a control directory

The scripts of a task have plain names, no two of them the same, so each of them has a spot of
its own below the control directory.  A directory that was just made and then got some of the
scripts holds these and nothing else, and only the directory of all tasks and what lies on the
way to it can be new outside of it.
-/

namespace DetachedTasks

open Sandbox (Storage)

/-! ## The files of a task -/

namespace Handle

/-- What stands at the spot of a path if some files are put in the control directory. -/
def placed
    (handle : Handle)
    (workspace : Workspace)
    (files : List (Text × Bytes))
    (storage : Storage)
    (path : Path) : Option Entry :=
  (files.find? fun file =>
    storage.spot path = storage.spot (handle.file workspace file.1)).map fun file =>
      .file file.2

/-- The control directory of a task holds some files and nothing else. -/
structure Holds
    (handle : Handle)
    (workspace : Workspace)
    (files : List (Text × Bytes))
    (storage : Storage) : Prop where
  directory : storage.standing (handle.directory workspace) = some .directory
  below : ∀ path,
    storage.spot (handle.directory workspace) <+: storage.spot path →
    storage.spot path ≠ storage.spot (handle.directory workspace) →
    storage.standing path = handle.placed workspace files storage path

/-- Some files were put into the control directory of a task. -/
structure Fills
    (handle : Handle)
    (workspace : Workspace)
    (files : List (Text × Bytes))
    (before after : Storage) : Prop where
  spot : ∀ path, after.spot path = before.spot path
  standing : ∀ path,
    after.standing path =
      (handle.placed workspace files before path).or (before.standing path)

/-- Write files into the control directory, one after another. -/
def writeAll
    (handle : Handle)
    (workspace : Workspace) : List (Text × Bytes) → TaskProgram Unit
  | [] => pure ()
  | file :: files => do
      TaskProgram.write (handle.file workspace file.1) file.2
      handle.writeAll workspace files

end Handle

/-- At most the directory of all tasks and what lies on the way to it are new, outside the
directories that were made. -/
def Workspace.KeepsOutside
    (workspace : Workspace)
    (made : List Path)
    (before after : Storage) : Prop :=
  ∀ path, (∀ directory ∈ made, ¬ before.spot directory <+: before.spot path) →
    after.standing path = before.standing path ∨
      before.standing path = none ∧ after.standing path = some .directory ∧
        ∃ above : Path, above.location <+: workspace.tasksDirectory.location ∧
          before.spot above = before.spot path

/-- The files of a task, in the order in which they are written. -/
def TaskScript.files
    (script : TaskScript)
    (workspace : Workspace)
    (handle : Handle)
    (interpreter : Interpreter) : List (Text × Bytes) :=
  [(Handle.helperName, interpreter.encode (Script.helper interpreter)),
   (Handle.scriptName, interpreter.encode script.body),
   (Handle.wrapperName,
    interpreter.encode (Script.wrapper interpreter (handle.scriptFile workspace)))]

section Files

variable {script : TaskScript} {workspace : Workspace} {handle : Handle}
  {interpreter : Interpreter} {files : List (Text × Bytes)}

/-- The three scripts are written one after the other, and only then is anything said about
them. -/
theorem TaskScript.writeFiles_eq :
    script.writeFiles workspace handle interpreter = (do
      handle.writeAll workspace (script.files workspace handle interpreter)
      TaskProgram.note .debug
      pure
        { helper := handle.helperFile workspace
          script := handle.scriptFile workspace
          wrapper := handle.wrapperFile workspace }) := by
  simp only [writeFiles, files, Handle.writeAll, bind_assoc, pure_bind]
  rfl

/-- Files with plain names of which no two are the same. -/
structure AreScripts (files : List (Text × Bytes)) : Prop where
  plain : ∀ file ∈ files, Path.IsName (Utf8.encode file.1)
  distinct : (files.map (·.1)).Nodup

theorem TaskScript.mem_files
    {file : Text × Bytes}
    (member : file ∈ script.files workspace handle interpreter) :
    file.1 ∈ [Handle.helperName, Handle.scriptName, Handle.wrapperName] := by
  simp only [files, List.mem_cons, List.not_mem_nil, or_false] at member
  rcases member with rfl | rfl | rfl <;> simp

theorem TaskScript.areScripts :
    AreScripts (script.files workspace handle interpreter) := by
  constructor
  · intro file member
    exact isName_of_mem_scripts file.1 (mem_files member)
  · change [Handle.helperName, Handle.scriptName, Handle.wrapperName].Nodup
    decide

/-- No script has the name of a file that the child writes. -/
theorem TaskScript.name_apart
    {file : Text × Bytes}
    (member : file ∈ script.files workspace handle interpreter) :
    file.1 ∉ [Handle.logName, Handle.outputName, Handle.resultName] := by
  have apart : ∀ name ∈ [Handle.helperName, Handle.scriptName, Handle.wrapperName],
      name ∉ [Handle.logName, Handle.outputName, Handle.resultName] := by decide
  exact apart file.1 (mem_files member)

/-- The first few scripts have plain and distinct names as well. -/
theorem AreScripts.take
    (scripts : AreScripts files)
    (count : Nat) :
    AreScripts (files.take count) := by
  constructor
  · intro file member
    exact scripts.plain file (List.mem_of_mem_take member)
  · rw [List.map_take]
    exact scripts.distinct.sublist (List.take_sublist _ _)

theorem AreScripts.tail
    {file : Text × Bytes}
    (scripts : AreScripts (file :: files)) :
    AreScripts files :=
  ⟨fun other member => scripts.plain other (List.mem_cons_of_mem _ member),
    (List.nodup_cons.mp scripts.distinct).2⟩

namespace Handle

variable {before middle after storage : Storage}

/-- A file of a task stands below its control directory, under its own name. -/
theorem spot_file
    {name : Text}
    (plain : Path.IsName (Utf8.encode name)) :
    storage.spot (handle.file workspace name) =
      storage.spot (handle.directory workspace) ++ [.name (Utf8.encode name)] :=
  Storage.spot_join plain storage (handle.directory workspace)

/-- Files with different names stand at different places. -/
theorem spot_file_injective
    {first second : Text}
    (plain : Path.IsName (Utf8.encode first))
    (plainSecond : Path.IsName (Utf8.encode second))
    (same : storage.spot (handle.file workspace first) =
      storage.spot (handle.file workspace second)) :
    first = second := by
  rw [spot_file plain, spot_file plainSecond, List.append_cancel_left_eq] at same
  injection same with sameName
  injection sameName with sameBytes
  exact Utf8.encode_injective sameBytes

/-- What is placed where hangs on the places alone. -/
theorem placed_congr
    (same : ∀ path, after.spot path = before.spot path)
    (path : Path) :
    handle.placed workspace files after path = handle.placed workspace files before path := by
  simp only [placed, same]

/-- The first file is placed at its own place, and the others as if they were all. -/
theorem placed_cons
    (file : Text × Bytes)
    (files : List (Text × Bytes))
    (path : Path) :
    handle.placed workspace (file :: files) storage path =
      if storage.spot path = storage.spot (handle.file workspace file.1) then
        some (.file file.2)
      else handle.placed workspace files storage path := by
  by_cases here : storage.spot path = storage.spot (handle.file workspace file.1) <;>
    simp [placed, here]

/-- No other file belongs at the spot of the first. -/
theorem placed_tail
    {file : Text × Bytes}
    (scripts : AreScripts (file :: files))
    {path : Path}
    (here : storage.spot path = storage.spot (handle.file workspace file.1)) :
    handle.placed workspace files storage path = none := by
  rw [placed, Option.map_eq_none_iff, List.find?_eq_none]
  intro other member same
  rw [decide_eq_true_eq, here] at same
  have sameName := spot_file_injective (scripts.plain file List.mem_cons_self)
    (scripts.plain other (List.mem_cons_of_mem _ member)) same
  have notThere := (List.nodup_cons.mp scripts.distinct).1
  exact notThere (List.mem_map.mpr ⟨other, member, sameName.symm⟩)

theorem Fills.nil
    (handle : Handle)
    (workspace : Workspace)
    (storage : Storage) :
    handle.Fills workspace [] storage storage :=
  ⟨fun _ => rfl, fun _ => rfl⟩

/-- To fill a directory is to write the first file and to fill it with the others. -/
theorem Fills.cons
    {file : Text × Bytes}
    (scripts : AreScripts (file :: files))
    (receives : before.Receives (handle.file workspace file.1) file.2 middle)
    (fills : handle.Fills workspace files middle after) :
    handle.Fills workspace (file :: files) before after := by
  constructor
  · intro path
    exact (fills.spot path).trans (receives.spot path)
  · intro path
    rw [fills.standing, placed_congr receives.spot, placed_cons]
    by_cases here : before.spot path = before.spot (handle.file workspace file.1)
    · have stands : middle.standing path = some (.file file.2) := by
        rw [← receives.stands]
        apply Storage.standing_congr
        rw [receives.spot, receives.spot, here]
      rw [placed_tail scripts here, if_pos here, stands]
      rfl
    · rw [if_neg here, receives.elsewhere path here]

/-- Files are placed in the control directory only. -/
theorem placed_of_outside
    (scripts : AreScripts files)
    {path : Path}
    (outside : ∀ name, storage.spot path ≠
      storage.spot (handle.directory workspace) ++ [.name name]) :
    handle.placed workspace files storage path = none := by
  rw [placed, Option.map_eq_none_iff, List.find?_eq_none]
  intro file member same
  rw [decide_eq_true_eq, spot_file (scripts.plain file member)] at same
  exact outside _ same

/-- A new control directory with files in it holds these. -/
theorem Fills.holds
    (tree : storage.IsTree)
    (wellFormed : TaskId.isWellFormed handle.id = true)
    (scripts : AreScripts files)
    (gains : (workspace.prepared storage).Gains (handle.directory workspace) middle)
    (fills : handle.Fills workspace files middle after) :
    handle.Holds workspace files after := by
  have sameSpot : ∀ path, after.spot path = storage.spot path := by
    intro path
    rw [fills.spot, gains.spot, (workspace.grows_prepared storage).spot]
  constructor
  · have noFile : handle.placed workspace files middle (handle.directory workspace) = none := by
      apply placed_of_outside scripts
      intro name same
      simp at same
    rw [fills.standing, noFile]
    exact gains.stands
  · intro path within different
    rw [sameSpot, sameSpot] at within different
    have elsewhere : middle.standing path =
        (workspace.prepared storage).standing path := by
      apply gains.elsewhere
      rw [(workspace.grows_prepared storage).spot, (workspace.grows_prepared storage).spot]
      exact different
    have nothing := workspace.vacant_prepared tree wellFormed gains.vacant within
    rw [fills.standing, elsewhere, nothing, Option.or_none, placed_congr fills.spot]

/-- Outside a new control directory everything stays. -/
theorem Fills.keepsOutside
    (scripts : AreScripts files)
    (gains : (workspace.prepared storage).Gains (handle.directory workspace) middle)
    (fills : handle.Fills workspace files middle after) :
    workspace.KeepsOutside [handle.directory workspace] storage after := by
  intro path outside
  have grown := workspace.grows_prepared storage
  have notBelow : ¬ storage.spot (handle.directory workspace) <+: storage.spot path :=
    outside _ List.mem_cons_self
  have noFile : handle.placed workspace files middle path = none := by
    apply placed_of_outside scripts
    intro name same
    rw [gains.spot, gains.spot, grown.spot, grown.spot] at same
    exact notBelow (same ▸ List.prefix_append _ _)
  have different : (workspace.prepared storage).spot path ≠
      (workspace.prepared storage).spot (handle.directory workspace) := by
    rw [grown.spot, grown.spot]
    intro same
    exact notBelow (same ▸ List.prefix_refl _)
  rw [fills.standing, noFile, Option.none_or, gains.elsewhere path different]
  exact grown.standing path

/-- Only scripts stand in a control directory that holds nothing else. -/
theorem Holds.absent
    (holds : handle.Holds workspace files storage)
    (plain : ∀ file ∈ files, Path.IsName (Utf8.encode file.1))
    {name : Text}
    (plainName : Path.IsName (Utf8.encode name))
    (other : ∀ file ∈ files, file.1 ≠ name) :
    storage.standing (handle.file workspace name) = none := by
  have longer : storage.spot (handle.file workspace name) ≠
      storage.spot (handle.directory workspace) := by
    rw [spot_file plainName]
    simp
  have within : storage.spot (handle.directory workspace) <+:
      storage.spot (handle.file workspace name) := by
    rw [spot_file plainName]
    exact List.prefix_append _ _
  rw [holds.below _ within longer, placed, Option.map_eq_none_iff, List.find?_eq_none]
  intro file member same
  rw [decide_eq_true_eq] at same
  have sameName := spot_file_injective plainName (plain file member) same
  exact other file member sameName.symm

end Handle

end Files

end DetachedTasks
