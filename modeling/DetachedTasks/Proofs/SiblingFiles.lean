import DetachedTasks.Proofs.PathPlaces
import DetachedTasks.FileSystem.Posix

/-!
# Files side by side in a POSIX tree

The names in one directory are resolved alike: first the steps into the directory, then the
name.  A file that is put where no directory stands bars no way that was open before, so what
is said of one name in a directory still holds after another one was written.
-/

namespace DetachedTasks

namespace Path

/-- A segment that can be the name of a file. -/
structure IsFileName (segment : Bytes) : Prop extends IsName segment where
  short : segment.length ≤ Posix.longestName

/-- What is written before a name in a directory. -/
def lead (directory : Path) : Bytes :=
  if directory.bytes.isEmpty || directory.bytes.getLast? == some slash then directory.bytes
  else directory.bytes ++ [slash]

/-- The segments that lead into a directory. -/
def steps (directory : Path) : List Bytes :=
  (Text.splitOn slash directory.lead).dropLast

theorem IsName.ne_dot
    {segment : Bytes}
    (plain : IsName segment) :
    segment ≠ [dot] := by
  intro here
  have notVoid := plain.notVoid
  rw [here] at notVoid
  exact absurd notVoid (by decide)

/-- What is joined to a directory is written behind what leads into it. -/
theorem join_relative
    {path : Path}
    (relative : path.isAbsolute = false)
    (directory : Path) :
    directory.join path = ⟨directory.lead ++ path.bytes⟩ := by
  rw [join, relative, lead]
  simp only [Bool.false_eq_true, if_false]
  split
  · rfl
  · rw [List.append_assoc, List.singleton_append]

/-- A name in a directory is written behind what leads into it. -/
theorem join_name
    {segment : Bytes}
    (plain : IsName segment)
    (directory : Path) :
    directory.join ⟨segment⟩ = ⟨directory.lead ++ segment⟩ :=
  join_relative plain.isRelative directory

/-- What leads into a directory is empty or ends in a slash. -/
theorem lead_cases (directory : Path) :
    directory.lead = [] ∨ ∃ before, directory.lead = before ++ [slash] := by
  rw [lead]
  split
  · rename_i closed
    rw [Bool.or_eq_true, List.isEmpty_iff, beq_iff_eq] at closed
    rcases closed with empty | slashed
    · exact Or.inl empty
    · exact Or.inr (List.getLast?_eq_some_iff.mp slashed)
  · exact Or.inr ⟨directory.bytes, rfl⟩

/-- The segments of a name in a directory are the steps into it and the name. -/
theorem splitOn_lead_append
    {segment : Bytes}
    (noSlash : slash ∉ segment)
    (directory : Path) :
    Text.splitOn slash (directory.lead ++ segment) = directory.steps ++ [segment] := by
  rcases directory.lead_cases with empty | ⟨before, slashed⟩
  · rw [steps, empty, List.nil_append, Text.splitOn_of_not_mem noSlash]
    rfl
  · rw [steps, slashed, Text.splitOn_append_cons, List.append_assoc, List.singleton_append,
      Text.splitOn_append_cons, Text.splitOn_of_not_mem noSlash]
    simp [Text.splitOn]

/-- The segments of a directory are the steps into it, and maybe an empty one. -/
theorem splitOn_directory
    {directory : Path}
    (notEmpty : directory.bytes ≠ []) :
    Text.splitOn slash directory.bytes = directory.steps ∨
      Text.splitOn slash directory.bytes = directory.steps ++ [[]] := by
  by_cases slashed : directory.bytes.getLast? = some slash
  · right
    have whole : directory.lead = directory.bytes := by
      simp [lead, slashed]
    have pieces :
        Text.splitOn slash (directory.lead ++ []) = directory.steps ++ [[]] :=
      splitOn_lead_append List.not_mem_nil directory
    rwa [List.append_nil, whole] at pieces
  · left
    have open? :
        (directory.bytes.isEmpty || directory.bytes.getLast? == some slash) = false := by
      simpa [List.isEmpty_iff] using ⟨notEmpty, slashed⟩
    rw [steps, lead, open?, if_neg (by decide), Text.splitOn_append_cons]
    simp [Text.splitOn]

/-- No segment is dropped behind a name. -/
theorem dropEndWhile_steps
    {segment : Bytes}
    (plain : IsName segment)
    (directory : Path) :
    Text.dropEndWhile List.isEmpty (directory.steps ++ [segment]) =
      directory.steps ++ [segment] := by
  have notEmpty : segment.isEmpty = false := by
    simpa [List.isEmpty_iff] using plain.ne_nil
  simp [Text.dropEndWhile, notEmpty]

end Path

/-! ## Walking -/

namespace Posix

/-- Put a file at an absolute name. -/
def storeFile
    (system : Posix)
    (names : List Bytes)
    (content : Bytes) : Posix :=
  { system with entries := system.entries.insert names (.file content) }

@[simp]
theorem lookup_storeFile
    (system : Posix)
    (names others : List Bytes)
    (content : Bytes) :
    (system.storeFile names content).entries.lookup others =
      if others = names then some (.file content) else system.entries.lookup others :=
  EntryMap.lookup_insert _ _ _ _

/-- How a path goes from one place to another through a segment. -/
inductive Enters (system : Posix) : Place → Bytes → Place → Prop where
  /-- A removed directory is still there for whoever is in it. -/
  | remain
      {segment : Bytes}
      (void : Path.isVoid segment = true) :
      Enters system .removed segment .removed
  | leave :
      Enters system .removed [Path.dot, Path.dot]
        (.named (namesOf system.currentDirectory).dropLast)
  | stay
      {names : List Bytes}
      {segment : Bytes}
      (isDirectory : system.entries.lookup names = some .directory)
      (void : Path.isVoid segment = true) :
      Enters system (.named names) segment (.named names)
  | up
      {names : List Bytes}
      (isDirectory : system.entries.lookup names = some .directory) :
      Enters system (.named names) [Path.dot, Path.dot] (.named names.dropLast)
  | down
      {names : List Bytes}
      {segment : Bytes}
      {entry : Entry}
      (isDirectory : system.entries.lookup names = some .directory)
      (notVoid : Path.isVoid segment = false)
      (notUp : segment ≠ [Path.dot, Path.dot])
      (short : segment.length ≤ longestName)
      (stands : system.entries.lookup (names ++ [segment]) = some entry) :
      Enters system (.named names) segment (.named (names ++ [segment]))

section Entering

variable {system later : Posix} {place next last : Place} {segment : Bytes}

theorem Enters.enter_eq
    (enters : system.Enters place segment next) :
    system.enter place segment = .ok next := by
  have upNotVoid : Path.isVoid [Path.dot, Path.dot] = false := rfl
  cases enters with
  | remain void => simp [enter, void]
  | leave => rfl
  | stay isDirectory void => simp [enter, isDirectory, void]
  | up isDirectory => simp [enter, isDirectory, upNotVoid]
  | down isDirectory notVoid notUp short stands =>
      simp [enter, lookupIn, isDirectory, notVoid, notUp, Nat.not_lt.mpr short, stands,
        bind, Except.bind]

theorem enters_of_enter
    (entered : system.enter place segment = .ok next) :
    system.Enters place segment next := by
  cases place with
  | removed =>
      rw [enter] at entered
      split at entered
      · rename_i void
        cases entered
        exact .remain void
      · split at entered
        · rename_i up
          subst up
          cases entered
          exact .leave
        · cases entered
  | named names =>
      simp only [enter, lookupIn] at entered
      cases isDirectory : system.entries.lookup names with
      | none => rw [isDirectory] at entered; cases entered
      | some entry =>
          cases entry with
          | file held => rw [isDirectory] at entered; cases entered
          | directory =>
              rw [isDirectory] at entered
              simp only at entered
              split at entered
              · rename_i void
                cases entered
                exact .stay isDirectory void
              · rename_i notVoid
                split at entered
                · rename_i up
                  subst up
                  cases entered
                  exact .up isDirectory
                · rename_i notUp
                  split at entered
                  · cases entered
                  · rename_i short
                    cases stands : system.entries.lookup (names ++ [segment]) with
                    | none => rw [stands] at entered; cases entered
                    | some entry =>
                        rw [stands] at entered
                        cases entered
                        exact .down isDirectory (Bool.eq_false_iff.mpr notVoid) notUp
                          (Nat.not_lt.mp short) stands

/-- Only in a directory there is anything to enter. -/
theorem isDirectory_of_enter
    {above : List Bytes}
    (entered : system.enter (.named above) segment = .ok next) :
    system.entries.lookup above = some .directory := by
  cases enters_of_enter entered with
  | stay isDirectory => exact isDirectory
  | up isDirectory => exact isDirectory
  | down isDirectory => exact isDirectory

/-- What is entered in one tree is entered in another one with the same directories, if what
it leads to still stands. -/
theorem Enters.transfer
    (enters : system.Enters place segment next)
    (currentDirectory : later.currentDirectory = system.currentDirectory)
    (directories : ∀ names, system.entries.lookup names = some .directory →
      later.entries.lookup names = some .directory)
    (stands : ∀ names entry, next = .named names →
      system.entries.lookup names = some entry → later.entries.lookup names ≠ none) :
    later.Enters place segment next := by
  cases enters with
  | remain void => exact .remain void
  | leave => exact currentDirectory ▸ .leave
  | stay isDirectory void => exact .stay (directories _ isDirectory) void
  | up isDirectory => exact .up (directories _ isDirectory)
  | down isDirectory notVoid notUp short stood =>
      obtain ⟨entry, standsLater⟩ := Option.ne_none_iff_exists'.mp (stands _ _ rfl stood)
      exact .down (directories _ isDirectory) notVoid notUp short standsLater

theorem walk_of_enter
    (enters : ∀ place segment next,
      system.enter place segment = .ok next → later.enter place segment = .ok next)
    {segments : List Bytes}
    (walked : system.walk place segments = .ok last) :
    later.walk place segments = .ok last := by
  induction segments generalizing place with
  | nil => exact walked
  | cons segment segments inductionHypothesis =>
      rw [walk, List.foldlM_cons] at walked ⊢
      cases entered : system.enter place segment with
      | error fault => rw [entered] at walked; cases walked
      | ok next =>
          rw [entered] at walked
          rw [enters _ _ _ entered]
          exact inductionHypothesis walked

/-- What could be walked before can be walked after a file was put where no directory was. -/
theorem walk_storeFile
    {names : List Bytes}
    (noDirectory : system.entries.lookup names ≠ some .directory)
    (content : Bytes)
    {segments : List Bytes}
    (walked : system.walk place segments = .ok last) :
    (system.storeFile names content).walk place segments = .ok last := by
  refine walk_of_enter (fun place segment next entered => ?_) walked
  refine Enters.enter_eq ((enters_of_enter entered).transfer rfl ?_ ?_)
  · intro others isDirectory
    have different : others ≠ names := by
      rintro rfl
      exact noDirectory isDirectory
    rw [lookup_storeFile, if_neg different]
    exact isDirectory
  · intro others entry _ stood
    rw [lookup_storeFile]
    split
    · exact Option.some_ne_none _
    · rw [stood]
      exact Option.some_ne_none _

end Entering

theorem walk_concat
    (system : Posix)
    (place : Place)
    (segments : List Bytes)
    (segment : Bytes) :
    system.walk place (segments ++ [segment]) =
      (system.walk place segments).bind fun last => system.enter last segment := by
  rw [walk, List.foldlM_append]
  simp only [List.foldlM_cons, List.foldlM_nil, walk]
  congr 1
  funext last
  exact bind_pure _

/-- An absolute name is what the steps into a directory lead to. -/
structure IsBase
    (system : Posix)
    (directory : Path)
    (names : List Bytes) : Prop where
  walked : system.walk (system.start directory) directory.steps = .ok (.named names)
  isDirectory : system.entries.lookup names = some .directory

theorem start_join
    {segment : Bytes}
    (plain : Path.IsName segment)
    (system : Posix)
    (directory : Path) :
    system.start ⟨directory.lead ++ segment⟩ = system.start directory := by
  have same : (Path.mk (directory.lead ++ segment)).isAbsolute = directory.isAbsolute := by
    rcases directory with ⟨bytes⟩
    cases bytes with
    | nil => exact plain.isRelative
    | cons first rest =>
        rw [Path.lead]
        split <;> simp [Path.isAbsolute]
  rw [start, start, same]

end Posix

end DetachedTasks

namespace DetachedTasks

namespace Posix

variable {system : Posix} {directory : Path} {names : List Bytes}

/-- A directory is found at one absolute name only. -/
theorem IsBase.unique
    {others : List Bytes}
    (base : system.IsBase directory names)
    (second : system.IsBase directory others) :
    names = others := by
  have walked := base.walked
  rw [second.walked] at walked
  cases walked
  rfl

/-- What the resolution of a name in a directory comes to, once the directory is found. -/
theorem IsBase.entryAt_join
    (base : system.IsBase directory names)
    {segment : Bytes}
    (plain : Path.IsFileName segment)
    (accepted : refusal? (directory.join ⟨segment⟩) = none) :
    system.entryAt (directory.join ⟨segment⟩) =
      match system.entries.lookup (names ++ [segment]) with
      | some entry => .ok (.named (names ++ [segment]), entry)
      | none => .error .noEntry := by
  have notLong : ¬ longestName < segment.length := Nat.not_lt.mpr plain.short
  rw [Path.join_name plain.toIsName] at accepted ⊢
  rw [entryAt, resolve, accepted]
  simp only [start_join plain.toIsName, Path.splitOn_lead_append plain.noSlash,
    walk_concat, base.walked, Except.bind, enter, base.isDirectory, lookupIn]
  simp only [plain.notVoid, plain.notUp, notLong, Bool.false_eq_true, if_false]
  cases held : system.entries.lookup (names ++ [segment]) with
  | none => simp [bind, Except.bind]
  | some entry => simp [bind, Except.bind, held]

/-- The directory itself stands at its absolute name. -/
theorem IsBase.entryAt_directory
    (base : system.IsBase directory names)
    (accepted : refusal? directory = none) :
    system.entryAt directory = .ok (.named names, .directory) := by
  have notEmpty : directory.bytes ≠ [] := by
    intro empty
    simp [refusal?, empty] at accepted
  have found :
      system.walk (system.start directory) (Text.splitOn Path.slash directory.bytes) =
        .ok (.named names) := by
    rcases Path.splitOn_directory notEmpty with same | slashed
    · rw [same, base.walked]
    · rw [slashed, walk_concat, base.walked]
      simp [Except.bind, enter, base.isDirectory, Path.isVoid]
  rw [entryAt, resolve, accepted]
  simp only [found, bind, Except.bind, base.isDirectory]

/-- A file in the directory does not take the directory away. -/
theorem IsBase.storeFile
    (base : system.IsBase directory names)
    {segment : Bytes}
    (noDirectory : system.entries.lookup (names ++ [segment]) ≠ some .directory)
    (content : Bytes) :
    (system.storeFile (names ++ [segment]) content).IsBase directory names where
  walked := walk_storeFile noDirectory content base.walked
  isDirectory := by
    have different : names ≠ names ++ [segment] := by simp
    rw [lookup_storeFile, if_neg different, base.isDirectory]

/-- To enter an empty segment is to stay, in a directory. -/
theorem enter_empty
    {place next : Place}
    (entered : system.enter place [] = .ok next) :
    place = next ∧
      ∀ names, place = .named names → system.entries.lookup names = some .directory := by
  cases enters_of_enter entered with
  | remain => exact ⟨rfl, nofun⟩
  | stay isDirectory =>
      refine ⟨rfl, ?_⟩
      intro names same
      cases same
      exact isDirectory
  | down _ notVoid => cases notVoid

/-- What the last segment of a name in a directory is seen as, once the directory is
found. -/
theorem IsBase.target_join
    (base : system.IsBase directory names)
    {segment : Bytes}
    (plain : Path.IsFileName segment)
    (accepted : refusal? (directory.join ⟨segment⟩) = none) :
    system.target (directory.join ⟨segment⟩) = .ok (.name (.named names) segment false) := by
  rw [Path.join_name plain.toIsName] at accepted ⊢
  rw [target, accepted]
  simp only [start_join plain.toIsName, Path.splitOn_lead_append plain.noSlash,
    Path.dropEndWhile_steps plain.toIsName, List.reverse_append, List.reverse_singleton,
    List.singleton_append, List.reverse_reverse, walk_concat, base.walked]
  simp [bind, Except.bind, enter, base.isDirectory, Path.isVoid, plain.toIsName.ne_dot,
    plain.notUp]

/-- A name in a directory is seen as such only if the directory is found, or if it is the
current directory and was removed. -/
theorem target_join_ok
    {segment : Bytes}
    (plain : Path.IsFileName segment)
    {seen : Target}
    (resolved : system.target (directory.join ⟨segment⟩) = .ok seen) :
    refusal? (directory.join ⟨segment⟩) = none ∧
      (seen = .name .removed segment false ∨
        ∃ names, system.IsBase directory names ∧
          seen = .name (.named names) segment false) := by
  rw [Path.join_name plain.toIsName] at resolved ⊢
  rw [target] at resolved
  cases refused : refusal? ⟨directory.lead ++ segment⟩ with
  | some fault => rw [refused] at resolved; cases resolved
  | none =>
      refine ⟨rfl, ?_⟩
      rw [refused] at resolved
      simp only [start_join plain.toIsName, Path.splitOn_lead_append plain.noSlash,
        Path.dropEndWhile_steps plain.toIsName, List.reverse_append, List.reverse_singleton,
        List.singleton_append, List.reverse_reverse, walk_concat] at resolved
      cases walked : system.walk (system.start directory) directory.steps with
      | error fault => rw [walked] at resolved; cases resolved
      | ok place =>
          rw [walked] at resolved
          simp only [Except.bind] at resolved
          cases entered : system.enter place [] with
          | error fault => rw [entered] at resolved; cases resolved
          | ok next =>
              obtain ⟨same, stands⟩ := enter_empty entered
              subst same
              simp [entered, bind, Except.bind, plain.toIsName.ne_dot, plain.notUp]
                at resolved
              subst resolved
              cases place with
              | removed => exact Or.inl rfl
              | named names =>
                  exact Or.inr ⟨names, ⟨walked, stands names rfl⟩, rfl⟩

/-- In a directory that is found a file is written unless a directory has its name. -/
theorem IsBase.rewriteFile_join
    (base : system.IsBase directory names)
    {segment : Bytes}
    (plain : Path.IsFileName segment)
    (accepted : refusal? (directory.join ⟨segment⟩) = none)
    (noDirectory : system.entries.lookup (names ++ [segment]) ≠ some .directory)
    (content : Bytes) :
    system.rewriteFile (directory.join ⟨segment⟩) (fun _ => content) =
      .ok (system.storeFile (names ++ [segment]) content) := by
  have notLong : ¬ longestName < segment.length := Nat.not_lt.mpr plain.short
  rw [rewriteFile, base.target_join plain accepted]
  simp only [bind, Except.bind, lookupIn, notLong, Bool.false_eq_true, if_false]
  cases held : system.entries.lookup (names ++ [segment]) with
  | none => rfl
  | some entry =>
      cases entry with
      | directory => exact absurd held noDirectory
      | file before => rfl

/-- A file is written in a directory only if the directory is found and no directory has the
name. -/
theorem rewriteFile_join_ok
    {segment : Bytes}
    (plain : Path.IsFileName segment)
    {content : Bytes}
    {next : Posix}
    (written : system.rewriteFile (directory.join ⟨segment⟩) (fun _ => content) = .ok next) :
    refusal? (directory.join ⟨segment⟩) = none ∧
      ∃ names, system.IsBase directory names ∧
        system.entries.lookup (names ++ [segment]) ≠ some .directory ∧
        next = system.storeFile (names ++ [segment]) content := by
  have notLong : ¬ longestName < segment.length := Nat.not_lt.mpr plain.short
  rw [rewriteFile] at written
  cases resolved : system.target (directory.join ⟨segment⟩) with
  | error fault => rw [resolved] at written; cases written
  | ok seen =>
      obtain ⟨accepted, removed | ⟨names, base, found⟩⟩ := target_join_ok plain resolved
      · subst removed
        rw [resolved] at written
        cases written
      · subst found
        refine ⟨accepted, names, base, ?_⟩
        rw [resolved] at written
        simp only [bind, Except.bind, lookupIn, notLong, Bool.false_eq_true, if_false]
          at written
        cases held : system.entries.lookup (names ++ [segment]) with
        | none =>
            rw [held] at written
            cases written
            exact ⟨by simp, rfl⟩
        | some entry =>
            rw [held] at written
            cases entry with
            | directory => cases written
            | file before =>
                cases written
                exact ⟨by simp, rfl⟩

end Posix

end DetachedTasks
