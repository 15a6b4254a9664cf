import DetachedTasks.Proofs.RemovedDirectory

/-!
# What is found at a path

What a path shows depends on what stands at its spot and on the way there.  A file that is
written where no directory was opens no way and bars none, so every other path shows what it
showed before.  Whoever has come to a directory finds at a name in it what stands there, and
whoever has written a file has come to its directory.
-/

namespace DetachedTasks

namespace Posix

variable {system later : Posix} {place next last : Place} {path : Path}

/-! ## Ways through a tree -/

/-- Two trees with the same directories. -/
structure SameWays
    (system later : Posix) : Prop where
  currentDirectory : later.currentDirectory = system.currentDirectory
  stranded : later.stranded = system.stranded
  directories : ∀ names,
    later.entries.lookup names = some .directory ↔
      system.entries.lookup names = some .directory

theorem SameWays.symm
    (ways : system.SameWays later) :
    later.SameWays system where
  currentDirectory := ways.currentDirectory.symm
  stranded := ways.stranded.symm
  directories := fun names => (ways.directories names).symm

theorem enter_of_sameWays
    (ways : system.SameWays later)
    {segment : Bytes}
    (entered : system.enter place segment = .ok next)
    (stands : ∀ names, next = .named names → later.entries.lookup names ≠ none) :
    later.enter place segment = .ok next := by
  refine Enters.enter_eq ((enters_of_enter entered).transfer ways.currentDirectory ?_ ?_)
  · exact fun names => (ways.directories names).mpr
  · exact fun names _ same _ => stands names same

/-- All places on the way but the last one are directories, so what stands at the last one is
all that may differ. -/
theorem walk_of_sameWays
    (ways : system.SameWays later)
    {segments : List Bytes}
    (walked : system.walk place segments = .ok last)
    (stands : ∀ names, last = .named names → later.entries.lookup names ≠ none) :
    later.walk place segments = .ok last := by
  induction segments generalizing place with
  | nil => exact walked
  | cons segment segments inductionHypothesis =>
      rw [walk, List.foldlM_cons] at walked ⊢
      obtain ⟨middle, entered, walked⟩ := ok_of_bind walked
      have enteredLater : later.enter place segment = .ok middle := by
        apply enter_of_sameWays ways entered
        rintro names rfl
        cases segments with
        | nil =>
            cases walked
            exact stands names rfl
        | cons following segments =>
            rw [List.foldlM_cons] at walked
            obtain ⟨_, onwards, _⟩ := ok_of_bind walked
            rw [(ways.directories names).mpr (isDirectory_of_enter onwards)]
            exact Option.some_ne_none _
      rw [enteredLater]
      exact inductionHypothesis walked

theorem entryAt_of_sameWays
    (ways : system.SameWays later)
    (same : later.entries.lookup (system.namesAt path) =
      system.entries.lookup (system.namesAt path))
    {entry : Entry}
    (found : system.entryAt path = .ok (place, entry)) :
    later.entryAt path = .ok (place, entry) := by
  obtain ⟨resolved, cases⟩ := entryAt_ok found
  rw [resolve] at resolved
  cases refused : refusal? path with
  | some fault => rw [refused] at resolved; cases resolved
  | none =>
      rw [refused] at resolved
      have sameStart : later.start path = system.start path := by
        rw [start, start, ways.currentDirectory, ways.stranded]
      have resolvedLater : later.resolve path = .ok place := by
        rw [resolve, refused, sameStart]
        apply walk_of_sameWays ways resolved
        rintro names rfl
        rcases cases with ⟨impossible, _⟩ | ⟨spelled, stands⟩
        · cases impossible
        · injection spelled with spelled
          rw [spelled, same, stands]
          exact Option.some_ne_none _
      rw [entryAt, resolvedLater]
      rcases cases with ⟨rfl, rfl⟩ | ⟨rfl, stands⟩
      · rfl
      · simp only [bind, Except.bind, same, stands]

/-- A file where no directory was leaves the directories as they are. -/
theorem sameWays_storeFile
    {names : List Bytes}
    (noDirectory : system.entries.lookup names ≠ some .directory)
    (content : Bytes) :
    system.SameWays (system.storeFile names content) where
  currentDirectory := rfl
  stranded := rfl
  directories := by
    intro others
    rw [lookup_storeFile]
    by_cases same : others = names
    · subst same
      simp [noDirectory]
    · rw [if_neg same]

/-- No call moves the current directory. -/
theorem currentDirectory_answer
    (system : Posix)
    (call : FileCall) :
    (system.answer call).2.currentDirectory = system.currentDirectory := by
  cases call with
  | write path content =>
      simp only [answer]
      cases outcome : system.rewriteFile path fun _ => content with
      | error fault => rfl
      | ok next =>
          rw [(rewriteFile_ok outcome).1]
          rfl
  | createDirectories path => exact (grows_makeDirectories system path).currentDirectory
  | createDirectory path =>
      simp only [answer]
      cases outcome : system.makeDirectory path with
      | error fault => cases fault <;> rfl
      | ok next =>
          rw [(makeDirectory_ok outcome).stored]
          rfl
  | removeTree path => exact (prunes_removeTree system path).currentDirectory
  | removeFile path =>
      simp only [answer]
      cases removed : system.removeFile path with
      | error fault => rfl
      | ok next =>
          rw [(removeFile_ok removed).2]
          rfl
  | _ => rfl

/-- The steps into a directory lead to the name that the directory spells. -/
theorem IsBase.names_eq
    {directory : Path}
    {names : List Bytes}
    (base : system.IsBase directory names) :
    names = system.namesAt directory := by
  have spelled := nameOf_walk base.walked
  have sameSegments :
      directory.steps.filter (!Path.isVoid ·) = Path.segments directory.bytes := by
    rw [Path.segments]
    by_cases empty : directory.bytes = []
    · simp [Path.steps, Path.lead, empty, Text.splitOn, Path.isVoid]
    · rcases Path.splitOn_directory empty with same | slashed
      · rw [same]
      · rw [slashed, List.filter_append]
        simp [Path.isVoid]
  rw [sameSegments] at spelled
  rw [namesAt_eq]
  exact spelled

/-- A name behind a path whose directory is found lies in this directory. -/
theorem isBase_of_entryAt
    {directory : Path}
    {names : List Bytes}
    (found : system.entryAt directory = .ok (.named names, .directory)) :
    system.IsBase directory names := by
  obtain ⟨resolved, ⟨impossible, _⟩ | ⟨spelled, stands⟩⟩ := entryAt_ok found
  · cases impossible
  · injection spelled with spelled
    rw [← spelled] at stands
    rw [resolve] at resolved
    cases refused : refusal? directory with
    | some fault => rw [refused] at resolved; cases resolved
    | none =>
        rw [refused] at resolved
        have notEmpty : directory.bytes ≠ [] := by
          intro empty
          simp [refusal?, empty] at refused
        refine ⟨?_, stands⟩
        rcases Path.splitOn_directory notEmpty with same | slashed
        · rw [same] at resolved
          exact resolved
        · rw [slashed, walk_concat] at resolved
          obtain ⟨middle, walked, entered⟩ := ok_of_bind resolved
          obtain ⟨rfl, _⟩ := enter_empty entered
          exact walked

end Posix

namespace Sandbox.Storage

variable {storage later : Storage} {path : Path}

/-! ## Ways through a storage -/

/-- Two storages in which the same directories can be entered.  In memory nothing is
entered. -/
def SameWays : Storage → Storage → Prop
  | .inMemory _, .inMemory _ => True
  | .tree system, .tree later => system.SameWays later
  | _, _ => False

theorem SameWays.refl (storage : Storage) :
    storage.SameWays storage := by
  cases storage with
  | inMemory memory => trivial
  | tree system => exact ⟨rfl, rfl, fun _ => Iff.rfl⟩

/-- A path shows the same as before if the same stands at its spot. -/
theorem look_of_sameWays
    (ways : storage.SameWays later)
    (same : later.standing path = storage.standing path) :
    later.look path = storage.look path := by
  cases storage with
  | inMemory memory =>
      cases later with
      | inMemory next => exact same
      | tree system => exact False.elim ways
  | tree system =>
      cases later with
      | inMemory next => exact False.elim ways
      | tree next =>
          have sameNames := Posix.namesAt_congr ways.currentDirectory path
          simp only [standing, sameNames] at same
          simp only [look]
          cases found : system.entryAt path with
          | ok pair => rw [Posix.entryAt_of_sameWays ways same found]
          | error fault =>
              cases foundLater : next.entryAt path with
              | error other => rfl
              | ok pair =>
                  rw [← sameNames] at same
                  rw [Posix.entryAt_of_sameWays ways.symm same.symm foundLater] at found
                  cases found

/-- A file that is written opens no way and bars none. -/
theorem sameWays_write
    (storage : Storage)
    (path : Path)
    (content : Bytes) :
    storage.SameWays (storage.answer (.write path content)).2 := by
  cases storage with
  | inMemory memory => trivial
  | tree system =>
      simp only [answer, Posix.answer]
      cases outcome : system.rewriteFile path fun _ => content with
      | error fault => exact SameWays.refl (.tree system)
      | ok next =>
          obtain ⟨rfl, noDirectory⟩ := Posix.rewriteFile_ok outcome
          exact Posix.sameWays_storeFile noDirectory content

/-! ## Absolute forms -/

/-- The absolute form of a path, if it has one.  Nothing is looked up for it. -/
def absolute?
    (storage : Storage)
    (path : Path) : Option Path :=
  match storage with
  | .inMemory _ => some path
  | .tree system => Path.absoluteFrom? system.currentDirectory path

/-- No call changes the absolute form of a path. -/
theorem absolute?_answer
    (storage : Storage)
    (call : FileCall) :
    (storage.answer call).2.absolute? = storage.absolute? := by
  funext path
  cases storage with
  | inMemory memory => rfl
  | tree system =>
      exact congrArg (Path.absoluteFrom? · path) (Posix.currentDirectory_answer system call)

/-- Whoever asks for an absolute form gets it, or a fault. -/
theorem absolute?_of_answer
    {full : Path}
    (answered : (storage.answer (.absolute path)).1 = .ok full) :
    storage.absolute? path = some full := by
  cases storage with
  | inMemory memory =>
      cases answered
      rfl
  | tree system =>
      simp only [answer, Posix.answer, Posix.absolute] at answered
      rw [absolute?]
      split at answered
      · cases answered
      · cases form : Path.absoluteFrom? system.currentDirectory path with
        | none => rw [form] at answered; cases answered
        | some other =>
            rw [form] at answered
            cases answered
            rfl

/-! ## Names in a directory -/

/-- What whoever has come to the directory of a path finds at the path. -/
def found
    (storage : Storage)
    (path : Path) : Option Entry :=
  match storage with
  | .inMemory _ => storage.standing path
  | .tree _ => if Posix.refusal? path = none then storage.standing path else none

/-- The content of the file that is found at a path. -/
def held?
    (storage : Storage)
    (path : Path) : Option Bytes :=
  match storage.found path with
  | some (.file content) => some content
  | _ => none

theorem held?_eq_some_iff
    {content : Bytes} :
    storage.held? path = some content ↔ storage.found path = some (.file content) := by
  rw [held?]
  cases storage.found path with
  | none => simp
  | some entry => cases entry <;> simp

/-- What is found at a path stands there. -/
theorem standing_of_found
    {entry : Entry}
    (isThere : storage.found path = some entry) :
    storage.standing path = some entry := by
  cases storage with
  | inMemory memory => exact isThere
  | tree system =>
      rw [found] at isThere
      split at isThere
      · exact isThere
      · cases isThere

/-- What is found at a path depends on what stands at its spot. -/
theorem found_answer
    {call : FileCall}
    (same : (storage.answer call).2.standing path = storage.standing path) :
    (storage.answer call).2.found path = storage.found path := by
  cases storage with
  | inMemory memory => exact same
  | tree system =>
      show (if Posix.refusal? path = none then _ else none) = _
      rw [same]
      rfl

theorem held?_answer
    {call : FileCall}
    (same : (storage.answer call).2.standing path = storage.standing path) :
    (storage.answer call).2.held? path = storage.held? path := by
  rw [held?, found_answer same, held?]

/-- Where no file stands nothing is held. -/
theorem held?_of_standing
    (noFile : ∀ content, storage.standing path ≠ some (.file content)) :
    storage.held? path = none := by
  rw [Option.eq_none_iff_forall_ne_some]
  intro content isHeld
  exact noFile content (standing_of_found (held?_eq_some_iff.mp isHeld))

/-- A directory that comes to be where nothing stood holds nothing. -/
theorem held?_of_directory
    {later : Storage}
    (vacant : storage.standing path = none)
    (stands : later.standing path = some .directory) :
    later.held? path = storage.held? path := by
  rw [held?_of_standing, held?_of_standing]
  · simp [vacant]
  · simp [stands]

/-- A file that is seen at a path is what is found there. -/
theorem found_of_look
    {content : Bytes}
    (seen : storage.look path = some (.file content)) :
    storage.found path = some (.file content) := by
  cases storage with
  | inMemory memory => exact seen
  | tree system =>
      obtain ⟨place, stands⟩ := entryAt_of_look seen
      obtain ⟨resolved, ⟨_, impossible⟩ | ⟨_, spelled⟩⟩ := Posix.entryAt_ok stands
      · cases impossible
      · have accepted : Posix.refusal? path = none := by
          rw [Posix.resolve] at resolved
          cases refused : Posix.refusal? path with
          | none => rfl
          | some fault => rw [refused] at resolved; cases resolved
        rw [found, if_pos accepted]
        exact spelled

/-- What was read stands there as a file. -/
theorem look_of_read
    {content : Bytes}
    (answered : (storage.answer (.read path)).1 = .ok content) :
    storage.look path = some (.file content) := by
  by_cases isFile : ∃ held, storage.look path = some (.file held)
  · obtain ⟨held, seen⟩ := isFile
    rw [answer_read_file seen] at answered
    cases answered
    exact seen
  · obtain ⟨fault, failed⟩ := answer_read_other (not_exists.mp isFile)
    rw [failed] at answered
    cases answered

section Directories

variable {base : Path} {segment : Bytes}

theorem found_tree
    {system : Posix}
    (plain : Path.IsFileName segment)
    {names : List Bytes}
    (isBase : system.IsBase base names) :
    (tree system).look (base.join ⟨segment⟩) =
      (tree system).found (base.join ⟨segment⟩) := by
  rw [look_tree plain isBase, isBase.names_eq, found, standing,
    Posix.namesAt_join plain.toIsName]

/-- Where a directory is seen that is a name in another one, the names in it show what is
found there. -/
theorem look_eq_found
    {name : Bytes}
    (plainName : Path.IsName name)
    (seen : storage.look (base.join ⟨name⟩) = some .directory)
    (plain : Path.IsFileName segment) :
    storage.look ((base.join ⟨name⟩).join ⟨segment⟩) =
      storage.found ((base.join ⟨name⟩).join ⟨segment⟩) := by
  cases storage with
  | inMemory memory => rfl
  | tree system =>
      obtain ⟨place, stands⟩ := entryAt_of_look seen
      cases place with
      | removed =>
          have resolved := (Posix.entryAt_ok stands).1
          exact absurd rfl (Posix.named_of_resolve_join plainName resolved)
      | named names => exact found_tree plain (Posix.isBase_of_entryAt stands)

/-- A directory cannot be read from its beginning. -/
theorem answer_readFrom_directory
    (plain : Path.IsName segment)
    (seen : storage.look (base.join ⟨segment⟩) = some .directory) :
    ∃ fault, (storage.answer (.readFrom (base.join ⟨segment⟩) 0)).1 = .error fault := by
  cases storage with
  | inMemory memory =>
      rw [look] at seen
      simp only [answer, Memory.answer, Memory.readFrom_eq, Memory.read, seen]
      exact ⟨_, rfl⟩
  | tree system =>
      obtain ⟨place, stands⟩ := entryAt_of_look seen
      cases place with
      | removed =>
          have resolved := (Posix.entryAt_ok stands).1
          exact absurd rfl (Posix.named_of_resolve_join plain resolved)
      | named names =>
          simp only [answer, Posix.answer, Posix.readFrom_eq, stands]
          exact ⟨_, rfl⟩

/-- Where a file was written, its path showed what was found there, and what was written is
found there afterwards. -/
theorem found_of_written
    {content : Bytes}
    (plain : Path.IsFileName segment)
    (written : (storage.answer (.write (base.join ⟨segment⟩) content)).1 = .ok ())
    (stands : (storage.answer (.write (base.join ⟨segment⟩) content)).2.standing
      (base.join ⟨segment⟩) = some (.file content)) :
    storage.look (base.join ⟨segment⟩) = storage.found (base.join ⟨segment⟩) ∧
      (storage.answer (.write (base.join ⟨segment⟩) content)).2.found
        (base.join ⟨segment⟩) = some (.file content) := by
  cases storage with
  | inMemory memory => exact ⟨rfl, stands⟩
  | tree system =>
      simp only [answer, Posix.answer] at written
      cases outcome : system.rewriteFile (base.join ⟨segment⟩) fun _ => content with
      | error fault => rw [outcome] at written; cases written
      | ok next =>
          obtain ⟨accepted, names, isBase, _⟩ := Posix.rewriteFile_join_ok plain outcome
          exact ⟨found_tree plain isBase, (if_pos accepted).trans stands⟩

end Directories

end Sandbox.Storage

end DetachedTasks
