import DetachedTasks.Proofs.CleanupReach
import DetachedTasks.Proofs.StorageViews
import DetachedTasks.Proofs.TaskPlaces

/-!
# What becomes of a log

A child adds to its log until it writes its result, and not any more.  Whatever else children
do, the log that is found in the control directory of a task only grows, and it is final once
there is a result.  Nor does a child touch what was saved for any task.
-/

namespace DetachedTasks

open Sandbox (Storage)

/-! ## Logs and results -/

/-- What a fresh handle on a task is written as, or the beginning of it: whoever is killed
while it saves a handle may leave only a part. -/
def Handle.IsFreshPart
    (id : Text)
    (content : Bytes) : Prop :=
  ∃ capturing count,
    content = (Utf8.encode (attach id capturing).toToml).take count

namespace Workspace

/-- A file in the control directory of a task. -/
def taskFile
    (workspace : Workspace)
    (id name : Text) : Path :=
  (workspace.controlDirectory id).joinText name

/-- The log of a task as far as it was written. -/
def keptLog
    (workspace : Workspace)
    (id : Text)
    (storage : Storage) : Bytes :=
  (storage.held? (workspace.taskFile id Handle.logName)).getD []

/-- There is a result file of a task. -/
def HasResult
    (workspace : Workspace)
    (id : Text)
    (storage : Storage) : Prop :=
  ∃ content, storage.held? (workspace.taskFile id Handle.resultName) = some content

theorem hasResult_iff
    {workspace : Workspace}
    {id : Text}
    {storage : Storage} :
    workspace.HasResult id storage ↔
      (storage.held? (workspace.taskFile id Handle.resultName)).isSome = true :=
  Option.isSome_iff_exists.symm

instance
    (workspace : Workspace)
    (id : Text)
    (storage : Storage) : Decidable (workspace.HasResult id storage) :=
  decidable_of_iff _ hasResult_iff.symm

/-- No handle was saved but fresh ones. -/
def SavesFresh
    (workspace : Workspace)
    (storage : Storage) : Prop :=
  ∀ id, TaskId.isWellFormed id = true → ∀ content,
    storage.standing (workspace.handleFile id) = some (.file content) →
    Handle.IsFreshPart id content

/-- What was saved for a task can be loaded. -/
def Loads
    (workspace : Workspace)
    (id : Text)
    (storage : Storage) : Prop :=
  ∀ content, storage.look (workspace.handleFile id) = some (.file content) →
    ∃ text handle, content = Utf8.encode text ∧ Handle.ofToml text = .ok handle

/-- What may become of a task while others are at work: its log only grows, and once there is
a result both stay.  The handles that are saved stay fresh. -/
structure GoesOn
    (workspace : Workspace)
    (id : Text)
    (before after : Storage) : Prop where
  absolute : after.absolute? = before.absolute?
  fresh : workspace.SavesFresh before → workspace.SavesFresh after
  result : workspace.HasResult id before → workspace.HasResult id after
  grows : workspace.keptLog id before <+: workspace.keptLog id after
  final : workspace.HasResult id before →
    workspace.keptLog id after = workspace.keptLog id before
  fits : (workspace.keptLog id before).length < UInt64.size →
    (workspace.keptLog id after).length < UInt64.size

/-- What may become of a task while only children are at work. -/
structure Passes
    (workspace : Workspace)
    (id : Text)
    (before after : Storage) : Prop extends workspace.GoesOn id before after where
  directory : after.look (workspace.controlDirectory id) =
    before.look (workspace.controlDirectory id)
  saved : after.look (workspace.handleFile id) = before.look (workspace.handleFile id)
  closed : workspace.HasResult id before →
    after.found (workspace.taskFile id Handle.logName) =
      before.found (workspace.taskFile id Handle.logName)

section Relations

variable {workspace : Workspace} {id : Text} {before middle after : Storage}

/-- What is new where handles are saved is fresh. -/
theorem SavesFresh.of_standing
    (fresh : workspace.SavesFresh before)
    (same : ∀ id, TaskId.isWellFormed id = true → ∀ content,
      after.standing (workspace.handleFile id) = some (.file content) →
      before.standing (workspace.handleFile id) = some (.file content) ∨
        Handle.IsFreshPart id content) :
    workspace.SavesFresh after := by
  intro id wellFormed content stands
  rcases same id wellFormed content stands with stood | isFresh
  · exact fresh id wellFormed content stood
  · exact isFresh

theorem GoesOn.of_held
    (absolute : after.absolute? = before.absolute?)
    (fresh : workspace.SavesFresh before → workspace.SavesFresh after)
    (same : ∀ name ∈ Deed.fileNames,
      after.held? (workspace.taskFile id name) = before.held? (workspace.taskFile id name)) :
    workspace.GoesOn id before after := by
  have sameLog : workspace.keptLog id after = workspace.keptLog id before := by
    rw [keptLog, same _ Deed.logName_mem, keptLog]
  refine ⟨absolute, fresh, ?_, ?_, fun _ => sameLog, ?_⟩
  · rintro ⟨content, isThere⟩
    exact ⟨content, (same _ Deed.resultName_mem).trans isThere⟩
  · rw [sameLog]
  · rw [sameLog]
    exact fun fits => fits

theorem GoesOn.trans
    (first : workspace.GoesOn id before middle)
    (second : workspace.GoesOn id middle after) :
    workspace.GoesOn id before after where
  absolute := second.absolute.trans first.absolute
  fresh := fun fresh => second.fresh (first.fresh fresh)
  result := fun isThere => second.result (first.result isThere)
  grows := first.grows.trans second.grows
  final := fun isThere => (second.final (first.result isThere)).trans (first.final isThere)
  fits := fun fits => second.fits (first.fits fits)

theorem Passes.refl
    (workspace : Workspace)
    (id : Text)
    (storage : Storage) : workspace.Passes id storage storage where
  toGoesOn := .of_held rfl (fun fresh => fresh) fun _ _ => rfl
  directory := rfl
  saved := rfl
  closed := fun _ => rfl

theorem Passes.trans
    (first : workspace.Passes id before middle)
    (second : workspace.Passes id middle after) :
    workspace.Passes id before after where
  toGoesOn := first.toGoesOn.trans second.toGoesOn
  directory := second.directory.trans first.directory
  saved := second.saved.trans first.saved
  closed := fun isThere => (second.closed (first.result isThere)).trans (first.closed isThere)

theorem Loads.later
    (loads : workspace.Loads id before)
    (passes : workspace.Passes id before after) :
    workspace.Loads id after := by
  intro content isFile
  exact loads content (passes.saved.symm.trans isFile)

end Relations

/-! ## Spots -/

section Spots

variable {workspace : Workspace} {id other name : Text} {storage : Storage}

theorem spot_taskFile
    (wellFormed : TaskId.isWellFormed id = true)
    (plain : Path.IsName (Utf8.encode name)) :
    storage.spot (workspace.taskFile id name) =
      storage.spot workspace.tasksDirectory ++
        [.name (Utf8.encode id), .name (Utf8.encode name)] := by
  have directory : storage.spot (workspace.controlDirectory id) =
      storage.spot workspace.tasksDirectory ++ [.name (Utf8.encode id)] :=
    spot_controlDirectory (TaskId.isFileName wellFormed).toIsName
  have file : storage.spot (workspace.taskFile id name) =
      storage.spot (workspace.controlDirectory id) ++ [.name (Utf8.encode name)] :=
    Storage.spot_join plain storage (workspace.controlDirectory id)
  rw [file, directory, List.append_assoc]
  rfl

/-- Files of tasks have different spots unless they have the same name and are of the same
task. -/
theorem spot_taskFile_eq_iff
    {otherName : Text}
    (wellFormed : TaskId.isWellFormed id = true)
    (otherWellFormed : TaskId.isWellFormed other = true)
    (plain : Path.IsName (Utf8.encode name))
    (otherPlain : Path.IsName (Utf8.encode otherName)) :
    storage.spot (workspace.taskFile id name) =
        storage.spot (workspace.taskFile other otherName) ↔
      id = other ∧ name = otherName := by
  rw [spot_taskFile wellFormed plain, spot_taskFile otherWellFormed otherPlain]
  constructor
  · intro same
    have names := List.append_cancel_left same
    injection names with sameId rest
    injection rest with sameName _
    injection sameId with sameId
    injection sameName with sameName
    exact ⟨Utf8.encode_injective sameId, Utf8.encode_injective sameName⟩
  · rintro ⟨rfl, rfl⟩
    rfl

/-- A file of a task lies deeper than the directories and the saved handles of all tasks. -/
theorem spot_taskFile_ne
    (workspace : Workspace)
    (storage : Storage)
    (wellFormed : TaskId.isWellFormed id = true)
    (otherWellFormed : TaskId.isWellFormed other = true)
    (plain : Path.IsName (Utf8.encode name)) :
    storage.spot (workspace.taskFile id name) ≠
        storage.spot (workspace.controlDirectory other) ∧
      storage.spot (workspace.taskFile id name) ≠
        storage.spot (workspace.handleFile other) := by
  have otherPlain := (TaskId.isFileName otherWellFormed).toIsName
  rw [spot_taskFile wellFormed plain, spot_controlDirectory otherPlain,
    spot_handleFile otherPlain]
  constructor
  · intro same
    have lengths := congrArg List.length same
    simp at lengths
  · intro same
    have lengths := congrArg List.length same
    simp at lengths

end Spots

end Workspace

/-! ## What a child does -/

/-- A child follows its order: it adds nothing to its log once there is a result.  A log is
never too long to be counted. -/
def Deed.IsDue
    (workspace : Workspace)
    (id : Text)
    (storage : Storage) : Deed → Prop
  | .log chunk => ¬ workspace.HasResult id storage ∧
      (workspace.keptLog id storage ++ chunk).length < UInt64.size
  | _ => True

instance
    (workspace : Workspace)
    (id : Text)
    (storage : Storage)
    (deed : Deed) : Decidable (deed.IsDue workspace id storage) :=
  match deed with
  | .log chunk =>
      inferInstanceAs (Decidable (¬ workspace.HasResult id storage ∧
        (workspace.keptLog id storage ++ chunk).length < UInt64.size))
  | .output _ => .isTrue trivial
  | .result _ => .isTrue trivial

section Deeds

variable {workspace : Workspace} {id other : Text} {storage : Storage}

/-- A deed of a child changes nothing that is found of a task, or it changes its own file. -/
theorem Deed.found_perform
    (wellFormed : TaskId.isWellFormed id = true)
    (otherWellFormed : TaskId.isWellFormed other = true)
    (deed : Deed)
    {name : Text}
    (member : name ∈ fileNames) :
    let after := deed.perform (workspace.controlDirectory other) storage
    after.found (workspace.taskFile id name) = storage.found (workspace.taskFile id name) ∨
      id = other ∧ name = deed.fileName ∧
        after.found (workspace.taskFile id name) =
          some (.file (deed.change ((storage.held? (workspace.taskFile id name)).getD []))) := by
  have plain := isFileName_of_mem member
  have plainOwn := isFileName_of_mem deed.fileName_mem
  rcases storage.receives_or_refuses (workspace.taskFile other deed.fileName)
    (deed.change (storage.content (workspace.taskFile other deed.fileName))) with
    ⟨written, receives⟩ | ⟨_, _, same⟩
  · by_cases own : id = other ∧ name = deed.fileName
    · obtain ⟨rfl, rfl⟩ := own
      obtain ⟨seen, stands⟩ := Storage.found_of_written plain written receives.stands
      refine Or.inr ⟨rfl, rfl, ?_⟩
      have held : storage.content (workspace.taskFile id deed.fileName) =
          (storage.held? (workspace.taskFile id deed.fileName)).getD [] := by
        change storage.look (workspace.taskFile id deed.fileName) =
          storage.found (workspace.taskFile id deed.fileName) at seen
        rw [Storage.content, Storage.held?, seen]
        cases storage.found (workspace.taskFile id deed.fileName) with
        | none => rfl
        | some entry => cases entry <;> rfl
      rw [← held]
      exact stands
    · left
      apply Storage.found_answer
      apply receives.elsewhere
      rw [ne_eq, Workspace.spot_taskFile_eq_iff wellFormed otherWellFormed plain.toIsName
        plainOwn.toIsName]
      exact own
  · left
    exact congrArg (·.found (workspace.taskFile id name)) same

theorem Deed.held?_perform
    (wellFormed : TaskId.isWellFormed id = true)
    (otherWellFormed : TaskId.isWellFormed other = true)
    (deed : Deed)
    {name : Text}
    (member : name ∈ fileNames) :
    let after := deed.perform (workspace.controlDirectory other) storage
    after.held? (workspace.taskFile id name) = storage.held? (workspace.taskFile id name) ∨
      id = other ∧ name = deed.fileName ∧
        after.held? (workspace.taskFile id name) =
          some (deed.change ((storage.held? (workspace.taskFile id name)).getD [])) := by
  intro after
  rcases deed.found_perform wellFormed otherWellFormed member with same | ⟨own, ownName, stands⟩
  · left
    rw [Storage.held?, same, Storage.held?]
  · exact Or.inr ⟨own, ownName, Storage.held?_eq_some_iff.mpr stands⟩

/-- What stands at another spot is as it was. -/
theorem Deed.standing_perform_beside
    (deed : Deed)
    {path : Path}
    (apart : storage.spot (workspace.taskFile other deed.fileName) ≠ storage.spot path) :
    (deed.perform (workspace.controlDirectory other) storage).standing path =
      storage.standing path := by
  rcases storage.receives_or_refuses (workspace.taskFile other deed.fileName)
    (deed.change (storage.content (workspace.taskFile other deed.fileName))) with
    ⟨_, receives⟩ | ⟨_, _, same⟩
  · exact receives.elsewhere path apart.symm
  · exact congrArg (·.standing path) same

theorem Deed.savesFresh
    (otherWellFormed : TaskId.isWellFormed other = true)
    (deed : Deed)
    (fresh : workspace.SavesFresh storage) :
    workspace.SavesFresh (deed.perform (workspace.controlDirectory other) storage) := by
  apply fresh.of_standing
  intro id wellFormed content stands
  have apart := workspace.spot_taskFile_ne storage otherWellFormed wellFormed
    (isFileName_of_mem deed.fileName_mem).toIsName
  rw [deed.standing_perform_beside apart.2] at stands
  exact Or.inl stands

/-- A deed of a child goes on with the log of a task, if the child of the task follows its
order. -/
theorem Deed.goesOn
    (wellFormed : TaskId.isWellFormed id = true)
    (otherWellFormed : TaskId.isWellFormed other = true)
    (deed : Deed)
    (due : other = id → deed.IsDue workspace id storage) :
    workspace.GoesOn id storage
      (deed.perform (workspace.controlDirectory other) storage) := by
  have result : workspace.HasResult id storage →
      workspace.HasResult id (deed.perform (workspace.controlDirectory other) storage) := by
    rintro ⟨content, isThere⟩
    rcases deed.held?_perform wellFormed otherWellFormed resultName_mem with
      same | ⟨_, _, stands⟩
    · exact ⟨content, same.trans isThere⟩
    · exact ⟨_, stands⟩
  have absolute := storage.absolute?_answer
    (.write (workspace.taskFile other deed.fileName)
      (deed.change (storage.content (workspace.taskFile other deed.fileName))))
  have fresh := fun isFresh : workspace.SavesFresh storage =>
    deed.savesFresh otherWellFormed isFresh
  rcases deed.held?_perform wellFormed otherWellFormed logName_mem with
    same | ⟨own, ownName, stands⟩
  · have sameLog :
        workspace.keptLog id (deed.perform (workspace.controlDirectory other) storage) =
          workspace.keptLog id storage := by
      rw [Workspace.keptLog, same, Workspace.keptLog]
    refine ⟨absolute, fresh, result, ?_, fun _ => sameLog, ?_⟩
    · rw [sameLog]
    · rw [sameLog]
      exact fun fits => fits
  · have due := due own.symm
    cases deed with
    | output content => exact absurd ownName logName_ne_outputName
    | result content => exact absurd ownName logName_ne_resultName
    | log chunk =>
        obtain ⟨unfinished, fits⟩ := due
        have longer :
            workspace.keptLog id
                ((Deed.log chunk).perform (workspace.controlDirectory other) storage) =
              workspace.keptLog id storage ++ chunk := by
          rw [Workspace.keptLog, stands]
          rfl
        refine ⟨absolute, fresh, result, ?_, fun ended => absurd ended unfinished, ?_⟩
        · rw [longer]
          exact List.prefix_append _ _
        · rw [longer]
          exact fun _ => fits

/-- A deed of a child changes what is seen at its own file only. -/
theorem Deed.look_perform_beside
    (deed : Deed)
    {path : Path}
    (apart : storage.spot (workspace.taskFile other deed.fileName) ≠ storage.spot path) :
    (deed.perform (workspace.controlDirectory other) storage).look path =
      storage.look path := by
  exact Storage.look_of_sameWays (Storage.sameWays_write _ _ _)
    (deed.standing_perform_beside apart)

/-- Whatever the children do, as long as the one of the task follows its order. -/
theorem Deed.passes
    (wellFormed : TaskId.isWellFormed id = true)
    (otherWellFormed : TaskId.isWellFormed other = true)
    (deed : Deed)
    (due : other = id → deed.IsDue workspace id storage) :
    workspace.Passes id storage
      (deed.perform (workspace.controlDirectory other) storage) := by
  have plainOwn := (isFileName_of_mem deed.fileName_mem).toIsName
  have apart := workspace.spot_taskFile_ne storage otherWellFormed wellFormed
    plainOwn
  refine ⟨deed.goesOn wellFormed otherWellFormed due, deed.look_perform_beside apart.1,
    deed.look_perform_beside apart.2, ?_⟩
  intro ended
  rcases deed.found_perform wellFormed otherWellFormed logName_mem with
    same | ⟨own, ownName, _⟩
  · exact same
  · have due := due own.symm
    cases deed with
    | output content => exact absurd ownName logName_ne_outputName
    | result content => exact absurd ownName logName_ne_resultName
    | log chunk => exact absurd ended due.1

end Deeds

end DetachedTasks
