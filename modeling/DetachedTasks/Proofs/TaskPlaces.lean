import DetachedTasks.Proofs.ChildDeeds
import DetachedTasks.Proofs.MemoryFrames
import DetachedTasks.Proofs.Utf8RoundTrip

/-!
# The places of a task

The id of a task is a plain name, and so is the name of the file with its saved handle.  So
the control directories of different tasks lie side by side in the directory of a workspace,
and beside all saved handles.
-/

namespace DetachedTasks

/-! ## Ids -/

namespace TaskId

/-- As many digits are written as were asked for. -/
theorem length_digits
    (count number : Nat) :
    (digits count number).length = count := by
  induction count generalizing number with
  | zero => rfl
  | succ count inductionHypothesis =>
      rw [digits, List.length_append, inductionHypothesis]
      rfl

/-- A number below sixteen is written as a hexadecimal digit. -/
theorem isDigit_digit
    {value : Nat}
    (small : value < 16) :
    isDigit (digit value) = true := by
  have allValues : ∀ value < 16, isDigit (digit value) = true := by decide
  exact allValues value small

theorem digits_all_isDigit
    (count number : Nat) :
    (digits count number).all isDigit = true := by
  induction count generalizing number with
  | zero => rfl
  | succ count inductionHypothesis =>
      have last := isDigit_digit (Nat.mod_lt number (by decide : 0 < 16))
      rw [digits, List.all_append, inductionHypothesis, List.all_cons, last]
      rfl

/-- A well-formed id is the fixed beginning and eight hexadecimal digits. -/
theorem isWellFormed_iff
    {text : Text} :
    isWellFormed text = true ↔
      ∃ rest, text = start ++ rest ∧ rest.length = 8 ∧ rest.all isDigit = true := by
  rw [isWellFormed]
  cases found : Text.afterPrefix? start text with
  | none =>
      constructor
      · intro impossible
        cases impossible
      · rintro ⟨rest, shape, _⟩
        rw [Text.afterPrefix?_eq_some_iff.mpr shape] at found
        cases found
  | some rest =>
      have shape := Text.afterPrefix?_eq_some_iff.mp found
      constructor
      · intro wellFormed
        simp only [Bool.and_eq_true, decide_eq_true_eq] at wellFormed
        exact ⟨rest, shape, wellFormed⟩
      · rintro ⟨other, otherShape, wellFormed⟩
        rw [shape, List.append_cancel_left_eq] at otherShape
        subst otherShape
        simpa using wellFormed

/-- Every generated id has the form of one. -/
theorem isWellFormed_ofWord (word : UInt32) :
    isWellFormed (ofWord word) = true :=
  isWellFormed_iff.mpr
    ⟨digits 8 word.toNat, rfl, length_digits 8 _, digits_all_isDigit 8 _⟩

/-- All well-formed ids are of the same length, so none of them begins another. -/
theorem length_of_isWellFormed
    {id : Text}
    (wellFormed : isWellFormed id = true) :
    id.length = 16 := by
  obtain ⟨rest, shape, long, _⟩ := isWellFormed_iff.mp wellFormed
  rw [shape, List.length_append, long]
  rfl

/-- A character that ids and the names of their files are made of. -/
def isPlain (character : Char) : Bool :=
  character.toNat < 0x80 && character != '/'

/-- A hexadecimal digit means nothing special to any file system. -/
theorem isPlain_of_isDigit
    {character : Char}
    (hexadecimal : isDigit character = true) :
    isPlain character = true := by
  rw [isDigit, Bool.or_eq_true, Bool.and_eq_true, decide_eq_true_eq, decide_eq_true_eq]
    at hexadecimal
  rw [isPlain, Bool.and_eq_true, decide_eq_true_eq, bne_iff_ne]
  rcases hexadecimal with decimal | ⟨fromA, toF⟩
  · rw [Char.isDigit_iff_toNat] at decimal
    refine ⟨Nat.lt_of_le_of_lt decimal.2 (by decide), ?_⟩
    intro same
    subst same
    exact absurd decimal.1 (by decide)
  · refine ⟨Nat.lt_of_le_of_lt toF (by decide), ?_⟩
    intro same
    subst same
    exact absurd fromA (by decide)

/-- No character of a well-formed id means anything special to a file system. -/
theorem isPlain_of_isWellFormed
    {id : Text}
    (wellFormed : isWellFormed id = true)
    {character : Char}
    (member : character ∈ id) :
    isPlain character = true := by
  obtain ⟨rest, shape, _, hexadecimal⟩ := isWellFormed_iff.mp wellFormed
  rw [shape, List.mem_append] at member
  rcases member with inStart | inRest
  · have allStart : start.all isPlain = true := by decide
    exact List.all_eq_true.mp allStart character inStart
  · exact isPlain_of_isDigit (List.all_eq_true.mp hexadecimal character inRest)

/-- There are only hexadecimal digits in an id behind what all ids begin with. -/
theorem not_mem_of_isWellFormed
    {id : Text}
    (wellFormed : isWellFormed id = true)
    {character : Char}
    (notStart : character ∉ start)
    (notDigit : isDigit character = false) :
    character ∉ id := by
  obtain ⟨rest, shape, _, hexadecimal⟩ := isWellFormed_iff.mp wellFormed
  rw [shape, List.mem_append, not_or]
  refine ⟨notStart, ?_⟩
  intro inRest
  rw [List.all_eq_true.mp hexadecimal character inRest] at notDigit
  cases notDigit

/-- A text of plain characters is the name of a file, if it begins with a letter and is not
too long. -/
theorem isFileName_of_isPlain
    {text : Text}
    (plain : ∀ character ∈ text, isPlain character = true)
    (begins : text.head? = some 'd')
    (short : text.length ≤ Posix.longestName) :
    Path.IsFileName (Utf8.encode text) := by
  have ascii : ∀ character ∈ text, character.toNat < 0x80 := by
    intro character member
    have isPlain := plain character member
    rw [TaskId.isPlain, Bool.and_eq_true, decide_eq_true_eq] at isPlain
    exact isPlain.1
  have encoded := Utf8.encode_of_ascii ascii
  have first : (Utf8.encode text).head? = some 0x64 := by
    rw [encoded, List.head?_map, begins]
    rfl
  refine ⟨⟨?_, ?_, ?_⟩, ?_⟩
  · rw [Path.isVoid, Bool.or_eq_false_iff]
    constructor
    · cases empty : Utf8.encode text with
      | nil =>
          rw [empty] at first
          cases first
      | cons byte rest => rfl
    · rw [beq_eq_false_iff_ne]
      intro here
      rw [here] at first
      cases first
  · intro up
    rw [up] at first
    cases first
  · intro member
    rw [encoded, List.mem_map] at member
    obtain ⟨character, isThere, isSlash⟩ := member
    have isPlain := plain character isThere
    rw [TaskId.isPlain, Bool.and_eq_true, bne_iff_ne] at isPlain
    apply isPlain.2
    apply Char.toNat_inj.mp
    have small := ascii character isThere
    have value := congrArg UInt8.toNat isSlash
    rw [Utf8.asciiByte, UInt8.toNat_ofNat', Nat.mod_eq_of_lt (Nat.lt_trans small (by decide))]
      at value
    exact value
  · rw [encoded, List.length_map]
    exact short

/-- A well-formed id names a file of its own in whatever directory it is put. -/
theorem isFileName
    {id : Text}
    (wellFormed : isWellFormed id = true) :
    Path.IsFileName (Utf8.encode id) := by
  apply isFileName_of_isPlain
  · intro character member
    exact isPlain_of_isWellFormed wellFormed member
  · obtain ⟨rest, shape, _⟩ := isWellFormed_iff.mp wellFormed
    rw [shape]
    rfl
  · rw [length_of_isWellFormed wellFormed]
    decide

/-- The name that the handle of a well-formed id is saved under is a file name of its own. -/
theorem isFileName_saved
    {id : Text}
    (wellFormed : isWellFormed id = true) :
    Path.IsFileName (Utf8.encode (id ++ ".toml".toList)) := by
  apply isFileName_of_isPlain
  · intro character member
    rcases List.mem_append.mp member with inId | inSuffix
    · exact isPlain_of_isWellFormed wellFormed inId
    · have allSuffix : ".toml".toList.all isPlain = true := by decide
      exact List.all_eq_true.mp allSuffix character inSuffix
  · obtain ⟨rest, shape, _⟩ := isWellFormed_iff.mp wellFormed
    rw [shape]
    rfl
  · rw [List.length_append, length_of_isWellFormed wellFormed]
    decide

/-- The name that a handle is saved under is plain if the id is. -/
theorem isName_saved
    {id : Text}
    (plain : Path.IsName (Utf8.encode id)) :
    Path.IsName (Utf8.encode (id ++ ".toml".toList)) := by
  rw [Utf8.encode_append]
  exact plain.append (by decide) (by decide)

/-- No id is the name of a saved handle. -/
theorem saved_ne
    {id : Text}
    (wellFormed : isWellFormed id = true)
    (other : Text) :
    Utf8.encode (other ++ ".toml".toList) ≠ Utf8.encode id := by
  intro same
  have dotted : '.' ∈ other ++ ".toml".toList :=
    List.mem_append_right other (by decide)
  rw [Utf8.encode_injective same] at dotted
  exact not_mem_of_isWellFormed wellFormed (by decide) (by decide) dotted

end TaskId

/-! ## Places -/

/-- The place of the control directory of a task. -/
def Workspace.placeOf
    (workspace : Workspace)
    (id : Text) : Location :=
  workspace.tasksDirectory.location ++ [.name (Utf8.encode id)]

/-- The names of the files in a control directory. -/
def Handle.fileNames : List Text :=
  [scriptName, helperName, wrapperName, logName, outputName, resultName]

/-- The place of a file in the control directory of a task. -/
def Workspace.placeOfFile
    (workspace : Workspace)
    (id name : Text) : Location :=
  workspace.placeOf id ++ [.name (Utf8.encode name)]

section Places

variable {workspace : Workspace} {id other name : Text}

theorem location_controlDirectory_of_isName
    (plain : Path.IsName (Utf8.encode id)) :
    (workspace.controlDirectory id).location = workspace.placeOf id :=
  Path.location_join plain _

theorem location_handleFile_of_isName
    (plain : Path.IsName (Utf8.encode id)) :
    (workspace.handleFile id).location =
      workspace.tasksDirectory.location ++ [.name (Utf8.encode (id ++ ".toml".toList))] :=
  Path.location_join (TaskId.isName_saved plain) _

/-- The control directory lies right below the directory for tasks. -/
theorem location_controlDirectory
    (wellFormed : TaskId.isWellFormed id = true) :
    (workspace.controlDirectory id).location = workspace.placeOf id :=
  location_controlDirectory_of_isName (TaskId.isFileName wellFormed).toIsName

/-- The saved handle lies beside the control directory. -/
theorem location_handleFile
    (wellFormed : TaskId.isWellFormed id = true) :
    (workspace.handleFile id).location =
      workspace.tasksDirectory.location ++ [.name (Utf8.encode (id ++ ".toml".toList))] :=
  location_handleFile_of_isName (TaskId.isFileName wellFormed).toIsName

/-- A file of a task lies right below its control directory. -/
theorem location_file
    {handle : Handle}
    (wellFormed : TaskId.isWellFormed handle.id = true)
    (plain : Path.IsName (Utf8.encode name)) :
    (handle.file workspace name).location = workspace.placeOfFile handle.id name := by
  rw [Handle.file, Path.joinText, Path.ofText, Path.location_join plain, Handle.directory,
    location_controlDirectory wellFormed, Workspace.placeOfFile]

/-- The names of the files of a task are plain. -/
theorem isName_of_mem_fileNames :
    ∀ name ∈ Handle.fileNames, Path.IsName (Utf8.encode name) := by
  have plain : ∀ name ∈ Handle.fileNames,
      Path.isVoid (Utf8.encode name) = false ∧
        Utf8.encode name ≠ [Path.dot, Path.dot] ∧
        Path.slash ∉ Utf8.encode name := by decide
  intro name member
  obtain ⟨notVoid, notUp, noSlash⟩ := plain name member
  exact ⟨notVoid, notUp, noSlash⟩

/-- The three scripts have plain names. -/
theorem isName_of_mem_scripts :
    ∀ name ∈ [Handle.helperName, Handle.scriptName, Handle.wrapperName],
      Path.IsName (Utf8.encode name) := by
  have among : ∀ name ∈ [Handle.helperName, Handle.scriptName, Handle.wrapperName],
      name ∈ Handle.fileNames := by decide
  intro name member
  exact isName_of_mem_fileNames name (among name member)

/-- Two ids never share a control directory. -/
theorem placeOf_ne
    (different : other ≠ id) :
    workspace.placeOf other ≠ workspace.placeOf id := by
  intro same
  rw [Workspace.placeOf, Workspace.placeOf, List.append_cancel_left_eq] at same
  injection same with sameName
  injection sameName with sameBytes
  exact different (Utf8.encode_injective sameBytes)

/-- What lies below the control directory of another task does not lie below this one. -/
theorem not_placeOf_below
    (different : other ≠ id)
    (below : Location) :
    ¬ workspace.placeOf other <+: workspace.placeOf id ++ below := by
  rintro ⟨rest, shape⟩
  rw [Workspace.placeOf, Workspace.placeOf, List.append_assoc, List.append_assoc,
    List.append_cancel_left_eq] at shape
  injection shape with sameName
  injection sameName with sameBytes
  exact different (Utf8.encode_injective sameBytes)

/-- Nothing in a control directory lies above the directory for tasks. -/
theorem not_above_tasksDirectory
    (below : Location) :
    ¬ workspace.placeOf id ++ below <+: workspace.tasksDirectory.location := by
  intro above
  have longer := above.length_le
  rw [Workspace.placeOf, List.length_append, List.length_append, List.length_singleton]
    at longer
  omega

end Places

/-! ## Calls that leave a task alone -/

/-- A call that changes neither the control directory of a task nor its result. -/
def FileCall.SparesTask
    (workspace : Workspace)
    (id : Text)
    (call : FileCall) : Prop :=
  call.Spares (workspace.placeOf id) ∧
    call.Spares (workspace.placeOfFile id Handle.resultName)

namespace FileCall

variable {workspace : Workspace} {id other name : Text}

/-- To make the control directory of another task. -/
theorem sparesTask_createDirectory
    (otherWellFormed : TaskId.isWellFormed other = true)
    (different : other ≠ id) :
    (FileCall.createDirectory (workspace.controlDirectory other)).SparesTask workspace id := by
  constructor
  · rw [Spares, location_controlDirectory otherWellFormed]
    exact placeOf_ne different
  · rw [Spares, location_controlDirectory otherWellFormed]
    intro same
    have apart : ¬ workspace.placeOf other <+: workspace.placeOfFile id Handle.resultName :=
      not_placeOf_below different _
    rw [← same] at apart
    exact apart (List.prefix_refl _)

/-- To write a file in the control directory of another task, or one of this task that is
not the result. -/
theorem sparesTask_write_file
    {handle : Handle}
    (wellFormed : TaskId.isWellFormed handle.id = true)
    (plain : Path.IsName (Utf8.encode name))
    (different : handle.id ≠ id ∨ name ≠ Handle.resultName)
    (content : Bytes) :
    (FileCall.write (handle.file workspace name) content).SparesTask workspace id := by
  rw [SparesTask, Spares, Spares, location_file wellFormed plain]
  constructor
  · intro same
    have lengths := congrArg List.length same
    simp [Workspace.placeOfFile, Workspace.placeOf] at lengths
  · intro same
    simp only [Workspace.placeOfFile, Workspace.placeOf, List.append_assoc,
      List.append_cancel_left_eq, List.cons_append, List.nil_append, List.cons.injEq,
      Component.name.injEq, and_true] at same
    rcases different with otherTask | otherFile
    · exact otherTask (Utf8.encode_injective same.1)
    · exact otherFile (Utf8.encode_injective same.2)

/-- The saved handle of any task stands apart from a task and its result. -/
theorem handleFile_apart
    (workspace : Workspace)
    (wellFormed : TaskId.isWellFormed id = true)
    (otherWellFormed : TaskId.isWellFormed other = true) :
    (workspace.handleFile other).location ≠ workspace.placeOf id ∧
      (workspace.handleFile other).location ≠
        workspace.placeOfFile id Handle.resultName := by
  rw [location_handleFile otherWellFormed]
  constructor
  · rw [Workspace.placeOf]
    intro same
    rw [List.append_cancel_left_eq] at same
    injection same with sameName
    injection sameName with sameBytes
    exact TaskId.saved_ne wellFormed _ sameBytes
  · intro same
    have lengths := congrArg List.length same
    simp [Workspace.placeOfFile, Workspace.placeOf] at lengths

/-- To save the handle of any task is no write into a control directory. -/
theorem sparesTask_write_handleFile
    (workspace : Workspace)
    (wellFormed : TaskId.isWellFormed id = true)
    (otherWellFormed : TaskId.isWellFormed other = true)
    (content : Bytes) :
    (FileCall.write (workspace.handleFile other) content).SparesTask workspace id :=
  handleFile_apart workspace wellFormed otherWellFormed

/-- To remove the saved handle of any task leaves all control directories alone. -/
theorem sparesTask_removeFile_handleFile
    (workspace : Workspace)
    (wellFormed : TaskId.isWellFormed id = true)
    (otherWellFormed : TaskId.isWellFormed other = true) :
    (FileCall.removeFile (workspace.handleFile other)).SparesTask workspace id :=
  handleFile_apart workspace wellFormed otherWellFormed

/-- To remove the control directory of another task. -/
theorem sparesTask_removeTree
    (otherWellFormed : TaskId.isWellFormed other = true)
    (different : other ≠ id) :
    (FileCall.removeTree (workspace.controlDirectory other)).SparesTask workspace id := by
  constructor
  · rw [Spares, location_controlDirectory otherWellFormed]
    have apart : ¬ workspace.placeOf other <+: workspace.placeOf id ++ [] :=
      not_placeOf_below different []
    rwa [List.append_nil] at apart
  · rw [Spares, location_controlDirectory otherWellFormed]
    exact not_placeOf_below different _

end FileCall

end DetachedTasks
