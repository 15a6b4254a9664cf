import DetachedTasks.Proofs.WorkspaceSurroundings

/-!
# The layout of the paths of tasks

The place of the directory of all tasks follows from the place of the root, and two roots
share it only if they are one place: a root with a name has it beside it, under a longer name,
and a root without a name has it inside, under the suffix alone.  From there one name or two
lead to each of the eight paths of a task, and the last of these names tells which of them it
is.  So no two paths of a task are the same, and no two tasks share one, also if one of their
workspaces lies in the other.
-/

namespace DetachedTasks

/-! ## Ids -/

namespace TaskId

/-- The form of an id: what every id begins with, and eight hexadecimal digits of either
case. -/
def HasForm (id : Text) : Prop :=
  ∃ digits : Text, id = start ++ digits ∧ digits.length = 8 ∧
    ∀ character ∈ digits, (Text.digitValue? 16 character).isSome = true

variable {id : Text}

/-- A generated id is of this form, with small letters. -/
theorem hasForm_of_isWellFormed
    (wellFormed : isWellFormed id = true) :
    HasForm id := by
  obtain ⟨digits, shape, long, hexadecimal⟩ := isWellFormed_iff.mp wellFormed
  refine ⟨digits, shape, long, ?_⟩
  intro character member
  have isDigit := List.all_eq_true.mp hexadecimal character member
  rw [TaskId.isDigit, Bool.or_eq_true, Char.isDigit_iff_toNat, Bool.and_eq_true,
    decide_eq_true_eq, decide_eq_true_eq] at isDigit
  have bounds : '0'.toNat = 0x30 ∧ '9'.toNat = 0x39 ∧ 'a'.toNat = 0x61 ∧ 'f'.toNat = 0x66 := by
    decide
  rw [bounds.1, bounds.2.1, bounds.2.2.1, bounds.2.2.2] at isDigit
  simp only [Text.digitValue?]
  rcases isDigit with decimal | letter
  · simp [decimal.1, decimal.2]
    omega
  · have notDecimal : ¬ character.toNat ≤ 0x39 := by omega
    simp [notDecimal, letter.1, letter.2]
    omega

/-- The digits of an id lie between the digit zero and the letter f. -/
theorem bounds_of_digitValue
    {character : Char}
    (isDigit : (Text.digitValue? 16 character).isSome = true) :
    0x30 ≤ character.toNat ∧ character.toNat ≤ 0x66 := by
  simp only [Text.digitValue?] at isDigit
  split at isDigit
  · rename_i decimal
    simp at decimal
    omega
  · split at isDigit
    · rename_i letter
      simp at letter
      omega
    · split at isDigit
      · rename_i capital
        simp at capital
        omega
      · simp at isDigit

namespace HasForm

/-- An id begins with a letter. -/
theorem head?
    (form : HasForm id) :
    id.head? = some 'd' := by
  obtain ⟨digits, shape, _⟩ := form
  rw [shape]
  rfl

/-- No character of an id means anything special, and none is a dot. -/
theorem isPlain
    (form : HasForm id)
    {character : Char}
    (member : character ∈ id) :
    TaskId.isPlain character = true ∧ character ≠ '.' := by
  obtain ⟨digits, shape, _, hexadecimal⟩ := form
  rw [shape, List.mem_append] at member
  rcases member with inStart | inDigits
  · have allStart : (start.all fun character =>
        TaskId.isPlain character && character != '.') = true := by
      decide
    have here := List.all_eq_true.mp allStart character inStart
    rwa [Bool.and_eq_true, bne_iff_ne] at here
  · have bounds := bounds_of_digitValue (hexadecimal character inDigits)
    have different : ∀ other : Char, other.toNat < 0x30 → character ≠ other := by
      rintro other small rfl
      omega
    refine ⟨?_, different '.' (by decide)⟩
    rw [TaskId.isPlain, Bool.and_eq_true, decide_eq_true_eq, bne_iff_ne]
    exact ⟨by omega, different '/' (by decide)⟩

/-- An id is a plain name. -/
theorem isName
    (form : HasForm id) :
    Path.IsName (Utf8.encode id) := by
  have long : id.length = 16 := by
    obtain ⟨digits, shape, long, _⟩ := form
    rw [shape, List.length_append, long]
    rfl
  apply Path.IsFileName.toIsName
  apply isFileName_of_isPlain (fun _ member => (form.isPlain member).1) form.head?
  rw [long]
  decide

/-- An id has no dot, and what is named after a task has one. -/
theorem ne_saved
    (form : HasForm id)
    (other : Text) :
    id ≠ other ++ ".toml".toList := by
  intro same
  have dotted : '.' ∈ id := by
    rw [same]
    exact List.mem_append_right other (by decide)
  exact (form.isPlain dotted).2 rfl

/-- A file in a control directory is not named after a task. -/
theorem append_not_mem_fileNames
    (form : HasForm id)
    (rest : Text) :
    id ++ rest ∉ Handle.fileNames := by
  intro member
  have others : ∀ name ∈ Handle.fileNames, name.head? ≠ some 'd' := by decide
  apply others _ member
  rw [List.head?_append, form.head?]
  rfl

/-- No id is the name of a file in a control directory. -/
theorem not_mem_fileNames
    (form : HasForm id) :
    id ∉ Handle.fileNames := by
  have apart := form.append_not_mem_fileNames []
  rwa [List.append_nil] at apart

end HasForm

end TaskId

/-! ## The directory of all tasks -/

/-- Where the directory of all tasks lies for a root at a place. -/
def Workspace.placeBeside (root : Location) : Location :=
  match root.getLast? with
  | some (.name name) => root.dropLast ++ [.name (name ++ Utf8.encode suffix)]
  | _ => root ++ [.name (Utf8.encode suffix)]

namespace Workspace

/-- The directory for tasks lies beside the root. -/
theorem location_tasksDirectory (workspace : Workspace) :
    workspace.tasksDirectory.location = placeBeside workspace.root.location := by
  cases named : workspace.root.fileName? with
  | some name =>
      have isLast := Path.fileName?_eq_some_iff.mp named
      obtain ⟨parent, isParent⟩ := Path.exists_parent (List.mem_of_getLast? isLast)
      obtain ⟨root, tasks⟩ := location_of_named isParent named
      rw [tasks, root, placeBeside, List.getLast?_concat, List.dropLast_concat]
  | none =>
      rw [location_of_unnamed named, placeBeside]
      split
      · rename_i name isLast
        rw [Path.fileName?_eq_some_iff.mpr isLast] at named
        cases named
      · rfl

/-- A name that is continued by the suffix is more than the suffix, so the two ways do not
meet. -/
theorem placeBeside_injective
    {first second : Location}
    (namedFirst : ∀ name, .name name ∈ first → name ≠ [])
    (namedSecond : ∀ name, .name name ∈ second → name ≠ [])
    (same : placeBeside first = placeBeside second) :
    first = second := by
  have noName : ∀ {name : Bytes} {root : Location}, root.getLast? = some (.name name) →
      (∀ name, .name name ∈ root → name ≠ []) →
      name ++ Utf8.encode suffix ≠ Utf8.encode suffix := by
    intro name root isLast named isSuffix
    exact named name (List.mem_of_getLast? isLast) (List.append_left_eq_self.mp isSuffix)
  rw [placeBeside, placeBeside] at same
  split at same
  · rename_i name isLast
    split at same
    · rename_i other isLastSecond
      obtain ⟨above, sameName⟩ := List.append_inj' same rfl
      have sameBytes : name = other := by simpa using sameName
      rw [← List.dropLast_append_getLast? _ isLast,
        ← List.dropLast_append_getLast? _ isLastSecond, above, sameBytes]
    · obtain ⟨_, sameName⟩ := List.append_inj' same rfl
      exact absurd (by simpa using sameName) (noName isLast namedFirst)
  · split at same
    · rename_i other isLastSecond
      obtain ⟨_, sameName⟩ := List.append_inj' same rfl
      exact absurd (by simpa using sameName.symm) (noName isLastSecond namedSecond)
    · exact List.append_cancel_right same

/-- Two workspaces have the same directory of all tasks exactly if their roots are one
place. -/
theorem samePlace_tasksDirectory_iff
    {first second : Workspace} :
    first.tasksDirectory.SamePlace second.tasksDirectory ↔
      first.root.SamePlace second.root := by
  rw [Path.SamePlace, Path.SamePlace, location_tasksDirectory, location_tasksDirectory]
  constructor
  · apply placeBeside_injective
    · exact fun name member => (Path.mem_segments_of_mem_location member).2.ne_nil
    · exact fun name member => (Path.mem_segments_of_mem_location member).2.ne_nil
  · exact congrArg placeBeside

end Workspace

/-! ## The paths of a task -/

namespace Handle

/-- The eight paths of a task. -/
def layout
    (handle : Handle)
    (workspace : Workspace) : List Path :=
  [handle.directory workspace, workspace.handleFile handle.id, handle.scriptFile workspace,
    handle.helperFile workspace, handle.wrapperFile workspace, handle.logFile workspace,
    handle.outputFile workspace, handle.resultFile workspace]

/-- How the paths of a task are reached from the directory of all tasks: through some names,
and by a last one. -/
def trails (id : Text) : List (List Text × Text) :=
  ([], id) :: ([], id ++ ".toml".toList) :: fileNames.map fun name => ([id], name)

/-- The place that some names lead to. -/
def placeAt
    (base : Location)
    (names : List Text) : Location :=
  base ++ names.map fun name => .name (Utf8.encode name)

variable {workspace other : Workspace} {handle second : Handle} {path : Path}

/-- All paths of a task lie below the directory for tasks, at the ends of its trails. -/
theorem location_layout
    (form : TaskId.HasForm handle.id)
    (workspace : Workspace) :
    (handle.layout workspace).map Path.location =
      (trails handle.id).map fun trail =>
        placeAt workspace.tasksDirectory.location (trail.1 ++ [trail.2]) := by
  have directory : (handle.directory workspace).location =
      workspace.tasksDirectory.location ++ [.name (Utf8.encode handle.id)] :=
    location_controlDirectory_of_isName form.isName
  have file : ∀ name ∈ fileNames, (handle.file workspace name).location =
      workspace.tasksDirectory.location ++
        [.name (Utf8.encode handle.id), .name (Utf8.encode name)] := by
    intro name member
    have below := Path.location_join (isName_of_mem_fileNames name member)
      (handle.directory workspace)
    rw [directory, List.append_assoc] at below
    exact below
  have files : (fileNames.map (handle.file workspace)).map Path.location =
      (fileNames.map fun name => (([handle.id], name) : List Text × Text)).map fun trail =>
        placeAt workspace.tasksDirectory.location (trail.1 ++ [trail.2]) := by
    rw [List.map_map, List.map_map]
    exact List.map_congr_left file
  change (handle.directory workspace).location :: (workspace.handleFile handle.id).location ::
    (fileNames.map (handle.file workspace)).map Path.location = _
  rw [files, directory, location_handleFile_of_isName form.isName]
  rfl

/-- Every path of a task lies at the end of one of its trails. -/
theorem exists_trail
    (form : TaskId.HasForm handle.id)
    (member : path ∈ handle.layout workspace) :
    ∃ trail ∈ trails handle.id,
      path.location = placeAt workspace.tasksDirectory.location (trail.1 ++ [trail.2]) := by
  have inPlaces := List.mem_map_of_mem (f := Path.location) member
  rw [location_layout form, List.mem_map] at inPlaces
  obtain ⟨trail, isTrail, same⟩ := inPlaces
  exact ⟨trail, isTrail, same.symm⟩

/-- The trails of a task lead to its directory, to its saved handle and to its files. -/
theorem mem_trails
    {id : Text}
    {trail : List Text × Text} :
    trail ∈ trails id ↔
      trail = ([], id) ∨ trail = ([], id ++ ".toml".toList) ∨
        ∃ name ∈ fileNames, trail = ([id], name) := by
  simp only [trails, List.mem_cons, List.mem_map, eq_comm]

/-- A component tells the name that it was made from. -/
theorem named_injective :
    Function.Injective fun name : Text => Component.name (Utf8.encode name) := by
  intro first second same
  injection same with sameBytes
  exact Utf8.encode_injective sameBytes

/-- The last name tells which path of a task it is. -/
theorem same_of_last
    {id another : Text}
    (form : TaskId.HasForm id)
    (otherForm : TaskId.HasForm another)
    {trail otherTrail : List Text × Text}
    (isTrail : trail ∈ trails id)
    (isOther : otherTrail ∈ trails another)
    (same : trail.2 = otherTrail.2) :
    trail.1.length = otherTrail.1.length ∧ (trail.1 = otherTrail.1 → id = another) := by
  rcases mem_trails.mp isTrail with rfl | rfl | ⟨name, isFile, rfl⟩ <;>
    rcases mem_trails.mp isOther with rfl | rfl | ⟨otherName, isOtherFile, rfl⟩ <;>
    dsimp only at same ⊢
  · exact ⟨rfl, fun _ => same⟩
  · exact absurd same (form.ne_saved another)
  · exact absurd (same ▸ isOtherFile) form.not_mem_fileNames
  · exact absurd same.symm (otherForm.ne_saved id)
  · exact ⟨rfl, fun _ => List.append_cancel_right same⟩
  · exact absurd (same ▸ isOtherFile) (form.append_not_mem_fileNames _)
  · exact absurd (same ▸ isFile) otherForm.not_mem_fileNames
  · exact absurd (same ▸ isFile) (otherForm.append_not_mem_fileNames _)
  · refine ⟨rfl, ?_⟩
    intro sameAbove
    exact (List.cons.inj sameAbove).1

/-- Tasks that share a path are one task of one workspace. -/
theorem same_of_samePlace
    (form : TaskId.HasForm handle.id)
    (secondForm : TaskId.HasForm second.id)
    (member : path ∈ handle.layout workspace)
    {otherPath : Path}
    (otherMember : otherPath ∈ second.layout other)
    (same : path.SamePlace otherPath) :
    workspace.root.SamePlace other.root ∧ handle.id = second.id := by
  obtain ⟨trail, isTrail, place⟩ := exists_trail form member
  obtain ⟨otherTrail, isOther, otherPlace⟩ := exists_trail secondForm otherMember
  rw [Path.SamePlace, place, otherPlace, placeAt, placeAt, List.map_append, List.map_append,
    ← List.append_assoc, ← List.append_assoc] at same
  obtain ⟨above, last⟩ := List.append_inj' same rfl
  have sameLast : trail.2 = otherTrail.2 := named_injective (List.cons.inj last).1
  obtain ⟨sameLength, tells⟩ := same_of_last form secondForm isTrail isOther sameLast
  obtain ⟨sameBase, sameNames⟩ := List.append_inj' above (by simpa using sameLength)
  exact ⟨Workspace.samePlace_tasksDirectory_iff.mp sameBase,
    tells (List.map_injective_iff.mpr named_injective sameNames)⟩

/-- No two trails of a task are the same. -/
theorem trails_nodup
    {id : Text}
    (form : TaskId.HasForm id) :
    (trails id).Nodup := by
  have files : (fileNames.map fun name => (([id], name) : List Text × Text)).Nodup :=
    List.Nodup.map (fun _ _ same => (Prod.mk.inj same).2) (by decide)
  refine List.nodup_cons.mpr ⟨?_, List.nodup_cons.mpr ⟨?_, files⟩⟩
  · intro member
    rcases List.mem_cons.mp member with same | isFile
    · exact form.ne_saved id (Prod.mk.inj same).2
    · obtain ⟨name, _, same⟩ := List.mem_map.mp isFile
      cases same
  · intro isFile
    obtain ⟨name, _, same⟩ := List.mem_map.mp isFile
    cases same

/-- Below one directory different trails lead to different places. -/
theorem placeAt_injective (base : Location) :
    Function.Injective (placeAt base) := by
  intro first second same
  exact List.map_injective_iff.mpr named_injective (List.append_cancel_left same)

/-- No two paths of a task are one place. -/
theorem layout_pairwise
    (form : TaskId.HasForm handle.id)
    (workspace : Workspace) :
    (handle.layout workspace).Pairwise fun path other => ¬ path.SamePlace other := by
  have distinct : ((handle.layout workspace).map Path.location).Nodup := by
    rw [location_layout form]
    apply (trails_nodup form).map
    intro trail other same
    obtain ⟨above, last⟩ := List.append_inj' (placeAt_injective _ same) rfl
    exact Prod.ext above (List.cons.inj last).1
  exact List.pairwise_map.mp distinct

/-- What lies within a control directory is reached through its id. -/
theorem head?_of_isWithin
    (secondForm : TaskId.HasForm second.id)
    (sameRoot : workspace.root.SamePlace other.root)
    {names : List Text}
    (place : path.location = placeAt workspace.tasksDirectory.location names)
    (within : path.isWithin (second.directory other) = true) :
    names.head? = some second.id := by
  have sameTasks : workspace.tasksDirectory.location = other.tasksDirectory.location :=
    Workspace.samePlace_tasksDirectory_iff.mpr sameRoot
  have directory : (second.directory other).location =
      other.tasksDirectory.location ++ [.name (Utf8.encode second.id)] :=
    location_controlDirectory_of_isName secondForm.isName
  obtain ⟨below, shape⟩ := Path.isWithin_iff.mp within
  rw [place, placeAt, sameTasks, directory, List.append_assoc, List.append_cancel_left_eq]
    at shape
  cases names with
  | nil => cases shape
  | cons name names =>
      rw [named_injective (List.cons.inj shape).1]
      rfl

/-- Nothing of a task lies within the control directory of another one. -/
theorem not_isWithin_directory
    (form : TaskId.HasForm handle.id)
    (secondForm : TaskId.HasForm second.id)
    (sameRoot : workspace.root.SamePlace other.root)
    (different : handle.id ≠ second.id)
    (member : path ∈ handle.layout workspace) :
    path.isWithin (second.directory other) = false := by
  rw [Bool.eq_false_iff]
  intro within
  obtain ⟨trail, isTrail, place⟩ := exists_trail form member
  have first := head?_of_isWithin secondForm sameRoot place within
  rcases mem_trails.mp isTrail with rfl | rfl | ⟨name, _, rfl⟩
  · exact different (Option.some.inj first)
  · exact secondForm.ne_saved handle.id (Option.some.inj first).symm
  · exact different (Option.some.inj first)

/-- The saved handle of a task lies outside its control directory. -/
theorem handleFile_not_isWithin
    (form : TaskId.HasForm handle.id)
    (workspace : Workspace) :
    (workspace.handleFile handle.id).isWithin (handle.directory workspace) = false := by
  rw [Bool.eq_false_iff]
  intro within
  have place : (workspace.handleFile handle.id).location =
      placeAt workspace.tasksDirectory.location [handle.id ++ ".toml".toList] :=
    location_handleFile_of_isName form.isName
  have first := head?_of_isWithin form rfl place within
  exact form.ne_saved handle.id (Option.some.inj first).symm

/-- Two tasks that differ in the place of the root or in the id share no path.  The directory
of all tasks tells the root, the paths of one task are all different, and in one workspace
nothing of a task lies in the control directory of the other, nor its own saved handle in its
own control directory. -/
theorem layout_injective
    (first second : Workspace)
    (one two : Handle)
    (form : TaskId.HasForm one.id)
    (secondForm : TaskId.HasForm two.id)
    (different : ¬ (first.root.SamePlace second.root ∧ one.id = two.id)) :
    (first.tasksDirectory.SamePlace second.tasksDirectory →
      first.root.SamePlace second.root) ∧
    ((one.layout first).Pairwise fun path other => ¬ path.SamePlace other) ∧
    (∀ path ∈ one.layout first, ∀ other ∈ two.layout second, ¬ path.SamePlace other) ∧
    (first.root.SamePlace second.root →
      (∀ path ∈ one.layout first, path.isWithin (two.directory second) = false) ∧
      ∀ path ∈ two.layout second, path.isWithin (one.directory first) = false) ∧
    (first.handleFile one.id).isWithin (one.directory first) = false := by
  refine ⟨Workspace.samePlace_tasksDirectory_iff.mp, layout_pairwise form first, ?_, ?_,
    handleFile_not_isWithin form first⟩
  · intro path member other otherMember same
    exact different (same_of_samePlace form secondForm member otherMember same)
  · intro sameRoot
    have differentIds : one.id ≠ two.id := fun sameId => different ⟨sameRoot, sameId⟩
    exact ⟨fun path member =>
        not_isWithin_directory form secondForm sameRoot differentIds member,
      fun path member =>
        not_isWithin_directory secondForm form sameRoot.symm differentIds.symm member⟩

/-- Two spellings of one root that ends in the suffix, with a generated id and one that differs
from it in capital letters; and another root, whose directory for tasks is the first root
itself, with the same id. -/
theorem layout_injective_sample :
    let first : Workspace := ⟨Path.ofText "../jobs@tmp".toList⟩
    let second : Workspace := ⟨Path.ofText "..//jobs@tmp/.".toList⟩
    let third : Workspace := ⟨Path.ofText "../jobs".toList⟩
    let one := Handle.attach (TaskId.ofWord 0x00C0FFEE) true
    let two := Handle.attach "durable-00C0FFEE".toList false
    (first.root.SamePlace second.root ∧
      (∀ path ∈ one.layout first, ∀ other ∈ two.layout second, ¬ path.SamePlace other) ∧
      ∀ path ∈ one.layout first, path.isWithin (two.directory second) = false) ∧
    third.tasksDirectory.SamePlace first.root ∧
      ¬ first.tasksDirectory.SamePlace third.tasksDirectory ∧
      ∀ path ∈ one.layout first, ∀ other ∈ one.layout third, ¬ path.SamePlace other := by
  have sameRoot : (Path.ofText "../jobs@tmp".toList).SamePlace
      (Path.ofText "..//jobs@tmp/.".toList) := by
    rw [Path.SamePlace]
    decide +kernel
  have otherRoot : ¬ (Path.ofText "../jobs@tmp".toList).SamePlace
      (Path.ofText "../jobs".toList) := by
    rw [Path.SamePlace]
    decide +kernel
  have beside : (Workspace.mk (Path.ofText "../jobs".toList)).tasksDirectory.SamePlace
      (Path.ofText "../jobs@tmp".toList) := by
    rw [Path.SamePlace]
    decide +kernel
  have different : TaskId.ofWord 0x00C0FFEE ≠ "durable-00C0FFEE".toList := by decide
  have hexadecimal : ("00C0FFEE".toList.all fun character =>
      (Text.digitValue? 16 character).isSome) = true := by
    decide
  have generated := TaskId.hasForm_of_isWellFormed (TaskId.isWellFormed_ofWord 0x00C0FFEE)
  have apart := layout_injective ⟨Path.ofText "../jobs@tmp".toList⟩
    ⟨Path.ofText "..//jobs@tmp/.".toList⟩ (Handle.attach (TaskId.ofWord 0x00C0FFEE) true)
    (Handle.attach "durable-00C0FFEE".toList false) generated
    ⟨"00C0FFEE".toList, rfl, rfl, List.all_eq_true.mp hexadecimal⟩ (fun same => different same.2)
  have elsewhere := layout_injective ⟨Path.ofText "../jobs@tmp".toList⟩
    ⟨Path.ofText "../jobs".toList⟩ (Handle.attach (TaskId.ofWord 0x00C0FFEE) true)
    (Handle.attach (TaskId.ofWord 0x00C0FFEE) true) generated generated
    (fun same => otherRoot same.1)
  exact ⟨⟨sameRoot, apart.2.2.1, (apart.2.2.2.1 sameRoot).1⟩, beside,
    fun same => otherRoot (elsewhere.1 same), elsewhere.2.2.1⟩

end Handle

end DetachedTasks
