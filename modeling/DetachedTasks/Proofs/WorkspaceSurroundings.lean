import DetachedTasks.Proofs.AbsoluteForms
import DetachedTasks.Proofs.KeptLogs
import DetachedTasks.Proofs.TextPaths

/-!
# What stands around a workspace

The directory of all tasks stands beside the root of a workspace where the root has a name,
and in the root where it has none.  Below the root of a file system this depends on the path
alone that the workspace is opened by: two dots at its end put all files of the tasks where
the scripts run.
-/

namespace DetachedTasks

open Sandbox (Storage)

/-! ### The paths of a task -/

/-- What is kept for a task: the directory of all tasks, its control directory, its saved
handle and its files. -/
def Handle.paths
    (handle : Handle)
    (workspace : Workspace) : List Path :=
  workspace.tasksDirectory :: handle.directory workspace :: workspace.handleFile handle.id ::
    fileNames.map (handle.file workspace)

theorem Path.isWithin_trans
    {path directory outer : Path}
    (first : path.isWithin directory = true)
    (second : directory.isWithin outer = true) :
    path.isWithin outer = true := by
  rw [isWithin, List.isPrefixOf_iff_prefix] at first second ⊢
  exact second.trans first

theorem Path.isWithin_join
    {segment : Bytes}
    (plain : IsName segment)
    (directory : Path) :
    (directory.join ⟨segment⟩).isWithin directory = true :=
  isWithin_iff.mpr ⟨_, location_join plain directory⟩

/-- Everything that is kept for a task is kept in the directory of all tasks. -/
theorem Handle.isWithin_tasksDirectory
    {handle : Handle}
    (plain : Path.IsName (Utf8.encode handle.id))
    (workspace : Workspace) :
    ∀ path ∈ handle.paths workspace, path.isWithin workspace.tasksDirectory = true := by
  have directory : (handle.directory workspace).isWithin workspace.tasksDirectory = true :=
    Path.isWithin_join plain workspace.tasksDirectory
  intro path member
  rw [paths, List.mem_cons, List.mem_cons, List.mem_cons, List.mem_map] at member
  rcases member with rfl | rfl | rfl | ⟨name, isFile, rfl⟩
  · exact Path.isWithin_iff.mpr ⟨[], (List.append_nil _).symm⟩
  · exact directory
  · exact Path.isWithin_join (TaskId.isName_saved plain) workspace.tasksDirectory
  · exact Path.isWithin_trans
      (Path.isWithin_join (isName_of_mem_fileNames name isFile) _) directory

/-! ### The directory of all tasks -/

theorem Path.fileName?_eq_some_iff
    {path : Path}
    {name : Bytes} :
    path.fileName? = some name ↔ path.location.getLast? = some (.name name) := by
  rw [fileName?]
  split
  · rename_i other isLast
    rw [isLast]
    simp
  · rename_i noName
    constructor
    · intro impossible
      cases impossible
    · intro isLast
      exact absurd isLast (noName name)

/-- A path that goes through a name has a parent. -/
theorem Path.exists_parent
    {path : Path}
    {name : Bytes}
    (member : .name name ∈ path.location) :
    ∃ parent, path.parent? = some parent := by
  cases found : path.parent? with
  | some parent => exact ⟨parent, rfl⟩
  | none =>
      have isSegment := (mem_segments_of_mem_location member).1
      rw [segments_of_parent?_eq_none found] at isSegment
      cases isSegment

namespace Workspace

variable {workspace : Workspace} {parent : Path} {name : Bytes}

/-- Beside a root with a name stands the directory of all tasks. -/
theorem location_of_named
    (isParent : workspace.root.parent? = some parent)
    (named : workspace.root.fileName? = some name) :
    workspace.root.location = parent.location ++ [.name name] ∧
      workspace.tasksDirectory.location =
        parent.location ++ [.name (name ++ Utf8.encode suffix)] := by
  have isLast := Path.fileName?_eq_some_iff.mp named
  obtain ⟨above, whole⟩ := List.getLast?_eq_some_iff.mp isLast
  have plain := (Path.mem_segments_of_mem_location (List.mem_of_getLast? isLast)).2
  have longer : Path.IsName (name ++ Utf8.encode suffix) :=
    plain.append (by decide) (by decide)
  have up := Path.location_parent isParent
  rw [whole, List.dropLast_concat] at up
  constructor
  · rw [whole, up]
  · rw [tasksDirectory, isParent, named]
    exact Path.location_join longer parent

/-- In a root without a name stands the directory of all tasks. -/
theorem location_of_unnamed
    (unnamed : workspace.root.fileName? = none) :
    workspace.tasksDirectory.location =
      workspace.root.location ++ [.name (Utf8.encode suffix)] := by
  have plain : Path.IsName (Utf8.encode suffix) := ⟨by decide, by decide, by decide⟩
  have directory : workspace.tasksDirectory = workspace.root.joinText suffix := by
    rw [tasksDirectory, unnamed]
    split
    · rename_i impossible
      cases impossible
    · rfl
  rw [directory]
  exact Path.location_join plain workspace.root

theorem isWithin_of_unnamed
    (unnamed : workspace.root.fileName? = none) :
    workspace.tasksDirectory.isWithin workspace.root = true :=
  Path.isWithin_iff.mpr ⟨_, location_of_unnamed unnamed⟩

/-- Nothing that is kept for a task lies in the root, and the directory of all tasks has the
parent of the root. -/
structure KeepsApart
    (workspace : Workspace)
    (handle : Handle) : Prop where
  apart : ∀ path ∈ handle.paths workspace, path.isWithin workspace.root = false
  beside : ∃ parent other, workspace.root.parent? = some parent ∧
    workspace.tasksDirectory.parent? = some other ∧ other.SamePlace parent

theorem keepsApart_of_named
    {handle : Handle}
    (plain : Path.IsName (Utf8.encode handle.id))
    (isParent : workspace.root.parent? = some parent)
    (named : workspace.root.fileName? = some name) :
    workspace.KeepsApart handle := by
  obtain ⟨root, tasks⟩ := location_of_named isParent named
  constructor
  · intro path member
    rw [Bool.eq_false_iff]
    intro inRoot
    obtain ⟨below, inTasks⟩ :=
      Path.isWithin_iff.mp (handle.isWithin_tasksDirectory plain workspace path member)
    obtain ⟨rest, shape⟩ := Path.isWithin_iff.mp inRoot
    -- One place would be both, so the two names would be one.
    rw [inTasks, tasks, root, List.append_assoc, List.append_assoc,
      List.append_cancel_left_eq, List.singleton_append, List.singleton_append] at shape
    injection shape with sameName
    injection sameName with sameBytes
    have noSuffix := List.append_right_eq_self.mp sameBytes
    exact absurd noSuffix (by decide)
  · have member : .name (name ++ Utf8.encode suffix) ∈ workspace.tasksDirectory.location := by
      rw [tasks]
      exact List.mem_concat_self
    obtain ⟨other, isOther⟩ := Path.exists_parent member
    refine ⟨parent, other, isParent, isOther, ?_⟩
    rw [Path.SamePlace, Path.location_parent isOther, tasks, List.dropLast_concat]

end Workspace

/-! ### Opening a workspace -/

/-- Behind a call there is a success only if the call succeeds. -/
theorem TaskProgram.ok_of_call
    {outside : Outside}
    {storage after : Storage}
    {call : FileCall}
    {answer : call.Answer → Except FileFault α}
    {next : α → TaskProgram β}
    {result : β}
    (ended : ((do TaskProgram.fileAnswer (answer (← TaskProgram.ask (.file call)))) >>=
        next).run.run (Storage.respond outside) storage = (.ok result, after)) :
    ∃ value, answer (storage.answer call).1 = .ok value ∧
      (next value).run.run (Storage.respond outside) (storage.answer call).2 =
        (.ok result, after) := by
  change (TaskProgram.fileAnswer (answer (storage.answer call).1) >>= next).run.run
    (Storage.respond outside) (storage.answer call).2 = (.ok result, after) at ended
  cases answered : answer (storage.answer call).1 with
  | error fault =>
      rw [answered] at ended
      cases ended
  | ok value =>
      rw [answered] at ended
      exact ⟨value, rfl, ended⟩

/-- Where one is has a name that goes on from the root and does not end in two dots. -/
structure Posix.IsSeated (system : Posix) : Prop where
  absolute : system.currentDirectory.isAbsolute = true
  ends : system.currentDirectory.location.getLast? ≠ some .up

namespace Workspace

variable {workspace : Workspace} {outside : Outside} {storage after : Storage} {given : Path}

/-- The root of a workspace is the absolute form, made plain, of the path that it was opened
by. -/
theorem root_of_openAt
    (opened : (openAt given).run.run (Storage.respond outside) storage =
      (.ok workspace, after)) :
    ∃ full, storage.absolute? given = some full ∧ workspace.root = full.plain := by
  obtain ⟨_, _, created⟩ := TaskProgram.ok_of_call opened
  obtain ⟨full, answered, ended⟩ := TaskProgram.ok_of_call created
  have form := Storage.absolute?_of_answer answered
  rw [Storage.absolute?_answer] at form
  cases ended
  exact ⟨full, form, rfl⟩

/-- In a tree the path that a workspace is opened by tells whether its root has a name. -/
theorem unnamed_iff_of_openAt
    {system : Posix}
    (seated : system.IsSeated)
    (opened : (openAt given).run.run (Storage.respond outside) (.tree system) =
      (.ok workspace, after))
    {parent : Path}
    (isParent : workspace.root.parent? = some parent) :
    workspace.root.fileName? = none ↔ given.location.getLast? = some .up := by
  obtain ⟨full, form, isRoot⟩ := root_of_openAt opened
  have absolute := (Path.exists_base_of_absoluteFrom? seated.absolute form).1
  rw [Path.plain_of_isAbsolute absolute] at isRoot
  rw [isRoot] at isParent ⊢
  rw [Path.fileName?_eq_none_iff absolute isParent]
  exact Path.getLast?_location_absoluteFrom? seated.absolute seated.ends form

/-- All that is kept for a task stands apart from the root of an opened workspace if the root
has a name, and in the root if it has none; in a tree that is so exactly if the workspace was
opened by a path that ends in two dots. -/
theorem openAt_keepsApart
    (opened : (openAt given).run.run (Storage.respond outside) storage =
      (.ok workspace, after))
    {parent : Path}
    (isParent : workspace.root.parent? = some parent)
    {handle : Handle}
    (plain : Path.IsName (Utf8.encode handle.id)) :
    (workspace.root.fileName? ≠ none → workspace.KeepsApart handle) ∧
      (workspace.root.fileName? = none →
        ∀ path ∈ handle.paths workspace, path.isWithin workspace.root = true) ∧
      ∀ system : Posix, storage = .tree system → system.IsSeated →
        (workspace.root.fileName? = none ↔ given.location.getLast? = some .up) := by
  refine ⟨?_, ?_, ?_⟩
  · intro named
    obtain ⟨name, isName⟩ := Option.ne_none_iff_exists'.mp named
    exact keepsApart_of_named plain isParent isName
  · intro unnamed path member
    exact Path.isWithin_trans (handle.isWithin_tasksDirectory plain workspace path member)
      (isWithin_of_unnamed unnamed)
  · rintro system rfl seated
    exact unnamed_iff_of_openAt seated opened isParent

end Workspace

namespace SurroundingsSample

/-- Where the workspaces lie that are opened here. -/
def system : Posix :=
  Posix.new (.ofText "/jobs".toList)

def outside : Outside :=
  fun request => (Reply.calm.respond request Memory.new).1

def handle : Handle :=
  Handle.attach (TaskId.ofWord 1) false

/-- What opening a workspace comes to. -/
def opened (given : Text) : Except TaskFault Workspace × Storage :=
  (Workspace.openAt (.ofText given)).run.run (Storage.respond outside) (.tree system)

end SurroundingsSample

open SurroundingsSample in
/-- A workspace that is opened by a name keeps its tasks apart. -/
theorem Workspace.openAt_keepsApart_sample :
    (Workspace.mk (.ofText "/jobs/build".toList)).KeepsApart handle := by
  have isOpened : opened "build".toList =
      (.ok ⟨.ofText "/jobs/build".toList⟩, (opened "build".toList).2) :=
    Prod.ext (by rfl) rfl
  have plain : Path.IsName (Utf8.encode handle.id) :=
    (TaskId.isFileName (by decide)).toIsName
  have isParent : (Path.ofText "/jobs/build".toList).parent? = some (.ofText "/jobs".toList) := by
    decide +kernel
  exact (Workspace.openAt_keepsApart isOpened isParent plain).1 (by decide +kernel)

open SurroundingsSample in
/-- A workspace that is opened by two dots has the files of its tasks in it. -/
theorem Workspace.not_openAt_keepsApart :
    ¬ ∀ (outside : Outside) (storage after : Storage) (given parent : Path)
        (workspace : Workspace) (handle : Handle),
      (openAt given).run.run (Storage.respond outside) storage = (.ok workspace, after) →
      workspace.root.parent? = some parent →
      TaskId.isWellFormed handle.id = true →
      workspace.KeepsApart handle := by
  intro all
  have isOpened : opened "..".toList =
      (.ok ⟨.ofText "/jobs/..".toList⟩, (opened "..".toList).2) :=
    Prod.ext (by rfl) rfl
  have isParent : (Path.ofText "/jobs/..".toList).parent? = some (.ofText "/jobs".toList) := by
    decide +kernel
  have apart := (all outside _ _ _ _ _ handle isOpened isParent (by decide)).apart
  have within : (Workspace.mk (.ofText "/jobs/..".toList)).tasksDirectory.isWithin
      (.ofText "/jobs/..".toList) = true := by
    decide +kernel
  rw [apart _ List.mem_cons_self] at within
  cases within

end DetachedTasks
