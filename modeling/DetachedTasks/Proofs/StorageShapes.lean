import DetachedTasks.Proofs.StorageSpots

/-!
# Storages of one shape

Whether a file can be written is decided by where files and directories stand, never by what
the files hold.  So in two storages that differ only in contents every write comes to the same,
also if different contents are written, and the storages still differ only in contents.
-/

namespace DetachedTasks

/-- Whether an entry is a directory. -/
def Entry.isDirectory : Entry → Bool
  | .file _ => false
  | .directory => true

/-- Files and directories stand at the same places. -/
def EntryMap.SameKinds
    {Place : Type}
    [DecidableEq Place]
    (map other : EntryMap Place) : Prop :=
  ∀ place, (map.lookup place).map Entry.isDirectory = (other.lookup place).map Entry.isDirectory

namespace EntryMap.SameKinds

variable {Place : Type} [DecidableEq Place] {map other : EntryMap Place} {place : Place}

/-- What stands at a place of two maps: nothing, a directory, or two files. -/
theorem cases
    (same : map.SameKinds other)
    (place : Place) :
    (map.lookup place = none ∧ other.lookup place = none) ∨
      (map.lookup place = some .directory ∧ other.lookup place = some .directory) ∨
      ∃ first second, map.lookup place = some (.file first) ∧
        other.lookup place = some (.file second) := by
  have kinds := same place
  rcases stands : map.lookup place with _ | ⟨first | _⟩ <;>
    rcases standsOther : other.lookup place with _ | ⟨second | _⟩ <;>
    rw [stands, standsOther] at kinds
  · exact Or.inl ⟨rfl, rfl⟩
  · cases kinds
  · cases kinds
  · cases kinds
  · exact Or.inr (Or.inr ⟨first, second, rfl, rfl⟩)
  · cases kinds
  · cases kinds
  · cases kinds
  · exact Or.inr (Or.inl ⟨rfl, rfl⟩)

theorem insert_file
    (same : map.SameKinds other)
    (place : Place)
    (first second : Bytes) :
    (map.insert place (.file first)).SameKinds (other.insert place (.file second)) := by
  intro another
  rw [lookup_insert, lookup_insert]
  split
  · rfl
  · exact same another

end EntryMap.SameKinds

namespace Posix

variable {system other : Posix}

/-- Two trees that differ only in what their files hold. -/
structure SameShape
    (system other : Posix) : Prop where
  currentDirectory : other.currentDirectory = system.currentDirectory
  stranded : other.stranded = system.stranded
  kinds : system.entries.SameKinds other.entries

/-- Which name is looked up does not depend on the tree. -/
theorem lookupIn_cases
    (system other : Posix)
    (directory : Place)
    (name : Bytes) :
    (∃ names, system.lookupIn directory name = .ok (names, system.entries.lookup names) ∧
      other.lookupIn directory name = .ok (names, other.entries.lookup names)) ∨
    ∃ fault, system.lookupIn directory name = .error fault ∧
      other.lookupIn directory name = .error fault := by
  cases directory with
  | removed => exact Or.inr ⟨_, rfl, rfl⟩
  | named names =>
      rw [lookupIn, lookupIn]
      split
      · exact Or.inr ⟨_, rfl, rfl⟩
      · exact Or.inl ⟨_, rfl, rfl⟩

theorem enter_of_sameShape
    (same : system.SameShape other)
    (place : Place)
    (segment : Bytes) :
    other.enter place segment = system.enter place segment := by
  cases place with
  | removed => rw [enter, enter, same.currentDirectory]
  | named names =>
      rw [enter, enter]
      rcases same.kinds.cases names with ⟨stands, standsOther⟩ | ⟨stands, standsOther⟩ |
        ⟨_, _, stands, standsOther⟩
      · rw [stands, standsOther]
      · rw [stands, standsOther]
        rcases lookupIn_cases system other (.named names) segment with
          ⟨next, looked, lookedOther⟩ | ⟨fault, failed, failedOther⟩
        · rw [looked, lookedOther]
          rcases same.kinds.cases next with ⟨held, heldOther⟩ | ⟨held, heldOther⟩ |
            ⟨_, _, held, heldOther⟩
          · rw [held, heldOther]
          · rw [held, heldOther]
          · rw [held, heldOther]
            rfl
        · rw [failed, failedOther]
      · rw [stands, standsOther]

theorem target_of_sameShape
    (same : system.SameShape other)
    (path : Path) :
    other.target path = system.target path := by
  have sameSteps : other.enter = system.enter := by
    funext place segment
    exact enter_of_sameShape same place segment
  simp only [target, walk, start, sameSteps, same.currentDirectory, same.stranded]

/-- In trees of one shape a file is written at one name, or the same fault is met. -/
theorem rewriteFile_of_sameShape
    (same : system.SameShape other)
    (path : Path)
    (first second : Bytes) :
    (∃ names, (system.rewriteFile path fun _ => first) = .ok (system.storeFile names first) ∧
      (other.rewriteFile path fun _ => second) = .ok (other.storeFile names second)) ∨
    ∃ fault, (system.rewriteFile path fun _ => first) = .error fault ∧
      (other.rewriteFile path fun _ => second) = .error fault := by
  rw [rewriteFile, rewriteFile, target_of_sameShape same]
  cases system.target path with
  | error fault => exact Or.inr ⟨fault, rfl, rfl⟩
  | ok target =>
      cases target with
      | root => exact Or.inr ⟨_, rfl, rfl⟩
      | here => exact Or.inr ⟨_, rfl, rfl⟩
      | up => exact Or.inr ⟨_, rfl, rfl⟩
      | name directory last slashed =>
          cases slashed with
          | true => exact Or.inr ⟨_, rfl, rfl⟩
          | false =>
              rcases lookupIn_cases system other directory last with
                ⟨names, looked, lookedOther⟩ | ⟨fault, failed, failedOther⟩
              · simp only [bind, Except.bind, looked, lookedOther]
                rcases same.kinds.cases names with ⟨held, heldOther⟩ | ⟨held, heldOther⟩ |
                  ⟨_, _, held, heldOther⟩
                · rw [held, heldOther]
                  exact Or.inl ⟨names, rfl, rfl⟩
                · rw [held, heldOther]
                  exact Or.inr ⟨_, rfl, rfl⟩
                · rw [held, heldOther]
                  exact Or.inl ⟨names, rfl, rfl⟩
              · simp only [bind, Except.bind, failed, failedOther]
                exact Or.inr ⟨fault, rfl, rfl⟩

theorem sameShape_storeFile
    (same : system.SameShape other)
    (names : List Bytes)
    (first second : Bytes) :
    (system.storeFile names first).SameShape (other.storeFile names second) where
  currentDirectory := same.currentDirectory
  stranded := same.stranded
  kinds := same.kinds.insert_file names first second

end Posix

namespace Memory

variable {memory other : Memory}

/-- In memories of one shape a file is written, or the same fault is met. -/
theorem write_of_sameKinds
    (same : memory.entries.SameKinds other.entries)
    (path : Path)
    (first second : Bytes) :
    (memory.write path first = .ok (memory.put path (.file first)) ∧
      other.write path second = .ok (other.put path (.file second))) ∨
    ∃ fault, memory.write path first = .error fault ∧
      other.write path second = .error fault := by
  have sameDirectories : ∀ path, memory.isDirectory path = other.isDirectory path := by
    intro path
    rw [isDirectory, isDirectory, entryAt, entryAt]
    rcases same.cases path.location with ⟨stands, standsOther⟩ | ⟨stands, standsOther⟩ |
      ⟨_, _, stands, standsOther⟩
    · rw [stands, standsOther]
    · rw [stands, standsOther]
    · rw [stands, standsOther]
      rfl
  rw [write, write, missingParent?_congr sameDirectories, sameDirectories]
  cases other.missingParent? path with
  | some parent => exact Or.inr ⟨_, rfl, rfl⟩
  | none =>
      cases other.isDirectory path with
      | true => exact Or.inr ⟨_, rfl, rfl⟩
      | false => exact Or.inl ⟨rfl, rfl⟩

end Memory

namespace Sandbox.Storage

variable {storage other : Storage} {path : Path}

/-- Two storages that differ only in what their files hold. -/
def SameShape : Storage → Storage → Prop
  | .inMemory memory, .inMemory other => memory.entries.SameKinds other.entries
  | .tree system, .tree other => system.SameShape other
  | _, _ => False

theorem SameShape.refl (storage : Storage) :
    storage.SameShape storage := by
  cases storage with
  | inMemory memory => exact fun _ => rfl
  | tree system => exact ⟨rfl, rfl, fun _ => rfl⟩

theorem SameShape.spot
    (same : storage.SameShape other)
    (path : Path) :
    other.spot path = storage.spot path := by
  cases storage with
  | inMemory memory =>
      cases other with
      | inMemory another => rfl
      | tree system => exact False.elim same
  | tree system =>
      cases other with
      | inMemory memory => exact False.elim same
      | tree another =>
          exact congrArg (List.map Component.name)
            (Posix.namesAt_congr same.currentDirectory path)

/-- A write comes to the same in storages of one shape, whatever is written. -/
theorem SameShape.write
    (same : storage.SameShape other)
    (path : Path)
    (first second : Bytes) :
    (∃ after afterOther,
      storage.answer (.write path first) = (.ok (), after) ∧
      other.answer (.write path second) = (.ok (), afterOther) ∧
      after.SameShape afterOther) ∨
    ∃ fault, storage.answer (.write path first) = (.error fault, storage) ∧
      other.answer (.write path second) = (.error fault, other) := by
  cases storage with
  | inMemory memory =>
      cases other with
      | tree system => exact False.elim same
      | inMemory another =>
          simp only [answer, Memory.answer]
          rcases Memory.write_of_sameKinds same path first second with
            ⟨written, writtenOther⟩ | ⟨fault, failed, failedOther⟩
          · rw [written, writtenOther]
            exact Or.inl ⟨_, _, rfl, rfl, EntryMap.SameKinds.insert_file same _ _ _⟩
          · rw [failed, failedOther]
            exact Or.inr ⟨fault, rfl, rfl⟩
  | tree system =>
      cases other with
      | inMemory memory => exact False.elim same
      | tree another =>
          simp only [answer, Posix.answer]
          rcases Posix.rewriteFile_of_sameShape same path first second with
            ⟨names, written, writtenOther⟩ | ⟨fault, failed, failedOther⟩
          · rw [written, writtenOther]
            exact Or.inl ⟨_, _, rfl, rfl, Posix.sameShape_storeFile same names first second⟩
          · rw [failed, failedOther]
            exact Or.inr ⟨_, rfl, rfl⟩

/-- A write that was accepted was done. -/
theorem receives_of_accepted
    {content : Bytes}
    {after : Storage}
    (accepted : storage.answer (.write path content) = (.ok (), after)) :
    storage.Receives path content after := by
  rcases storage.receives_or_refuses path content with ⟨_, receives⟩ | ⟨fault, refused, _⟩
  · rwa [accepted] at receives
  · rw [accepted] at refused
    cases refused

/-- Whatever has the spot of a file that was written shows what was written. -/
theorem Receives.standing_of_spot
    {content : Bytes}
    {after : Storage}
    (receives : storage.Receives path content after)
    {another : Path}
    (here : storage.spot another = storage.spot path) :
    after.standing another = some (.file content) := by
  rw [← receives.stands]
  apply standing_congr
  rw [receives.spot, receives.spot, here]

/-- Two storages that differ at most in what the file at one path holds. -/
structure DiffersAt
    (storage : Storage)
    (path : Path)
    (other : Storage) : Prop where
  shape : storage.SameShape other
  elsewhere : ∀ another, storage.spot another ≠ storage.spot path →
    other.standing another = storage.standing another

/-- Different contents written to one path make a difference there and nowhere else. -/
theorem differsAt_of_receives
    {first second : Bytes}
    {after afterOther : Storage}
    (shape : after.SameShape afterOther)
    (receives : storage.Receives path first after)
    (receivesOther : storage.Receives path second afterOther) :
    after.DiffersAt path afterOther := by
  refine ⟨shape, ?_⟩
  intro another different
  rw [receives.spot, receives.spot] at different
  rw [receives.elsewhere another different, receivesOther.elsewhere another different]

/-- The same content written to one more path makes no more difference. -/
theorem DiffersAt.of_receives
    (differs : storage.DiffersAt path other)
    {written : Path}
    {content : Bytes}
    {after afterOther : Storage}
    (shape : after.SameShape afterOther)
    (receives : storage.Receives written content after)
    (receivesOther : other.Receives written content afterOther) :
    after.DiffersAt path afterOther := by
  refine ⟨shape, ?_⟩
  intro another different
  rw [receives.spot, receives.spot] at different
  have sameSpot := differs.shape.spot
  by_cases here : storage.spot another = storage.spot written
  · have hereOther : other.spot another = other.spot written := by
      rw [sameSpot, sameSpot, here]
    rw [receives.standing_of_spot here, receivesOther.standing_of_spot hereOther]
  · have elsewhere : other.spot another ≠ other.spot written := by
      rw [sameSpot, sameSpot]
      exact here
    rw [receives.elsewhere another here, receivesOther.elsewhere another elsewhere]
    exact differs.elsewhere another different

end Sandbox.Storage

end DetachedTasks
