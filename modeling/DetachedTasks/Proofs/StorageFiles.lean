import DetachedTasks.Proofs.SiblingFiles
import DetachedTasks.Proofs.Utf8RoundTrip
import DetachedTasks.Sandbox.Storage

/-!
# What a storage answers

Whether the files are in memory or in a tree, what a call answers is decided by what stands
at its path, and writing a file changes what stands at its own path and nothing beside it.
-/

namespace DetachedTasks

namespace Memory

/-- A file put where no directory was changes nothing about directories. -/
theorem isDirectory_put_file
    {memory : Memory}
    {path : Path}
    (noDirectory : memory.isDirectory path = false)
    (content : Bytes)
    (other : Path) :
    (memory.put path (.file content)).isDirectory other = memory.isDirectory other := by
  simp only [isDirectory, entryAt, put, EntryMap.lookup_insert] at noDirectory ⊢
  by_cases same : other.location = path.location
  · rw [if_pos same, same, noDirectory]
    rfl
  · rw [if_neg same]

/-- Which parent is missing for a path depends on the directories only. -/
theorem missingParent?_congr
    {first second : Memory}
    (same : ∀ path, first.isDirectory path = second.isDirectory path)
    (path : Path) :
    first.missingParent? path = second.missingParent? path := by
  simp only [missingParent?, same]

/-- A file is written where no parent is missing and no directory is. -/
theorem write_ok_iff
    {memory next : Memory}
    {path : Path}
    {content : Bytes} :
    memory.write path content = .ok next ↔
      memory.missingParent? path = none ∧ memory.isDirectory path = false ∧
        next = memory.put path (.file content) := by
  rw [write]
  cases missing : memory.missingParent? path with
  | some parent => simp
  | none =>
      cases stands : memory.isDirectory path with
      | true => simp
      | false => simp [eq_comm]

/-- Encoded text is read as what it was. -/
theorem readText_of_encode
    {memory : Memory}
    {path : Path}
    {text : Text}
    (holds : memory.entryAt path = some (.file (Utf8.encode text))) :
    memory.readText path = .ok text := by
  have content : memory.read path = .ok (Utf8.encode text) := by
    rw [read, holds]
  have goesOn : (Except.ok (Utf8.encode text) : Except FileFault Bytes) =
    pure (Utf8.encode text) := rfl
  rw [readText, content, goesOn, pure_bind, Utf8.firstFault?_encode,
    Utf8.decodeLossy_encode]

end Memory

namespace Sandbox.Storage

/-- What the file at a path holds; nothing if there is no file. -/
def content
    (storage : Storage)
    (path : Path) : Bytes :=
  match storage.look path with
  | some (.file held) => held
  | _ => []

/-- Whether a file can be written at a path. -/
def takes
    (storage : Storage)
    (path : Path) : Prop :=
  (storage.answer (.write path [])).1 = .ok ()

/-- Give a file new content, made from what it holds. -/
def rewrite
    (storage : Storage)
    (path : Path)
    (change : Bytes → Bytes) : Storage :=
  (storage.answer (.write path (change (storage.content path)))).2

/-! ### Reading -/

/-- Questions about what stands at a path leave the storage as it is. -/
theorem answer_isDirectory_snd
    (storage : Storage)
    (path : Path) :
    (storage.answer (.isDirectory path)).2 = storage := by
  cases storage <;> rfl

theorem answer_isDirectory
    (storage : Storage)
    (path : Path) :
    (storage.answer (.isDirectory path)).1 = decide (storage.look path = some .directory) := by
  cases storage with
  | inMemory memory =>
      show (memory.entryAt path == some .directory) =
        decide (memory.entryAt path = some .directory)
      cases memory.entryAt path with
      | none => rfl
      | some entry => cases entry <;> simp
  | tree system =>
      show system.isDirectory path =
        decide ((system.entryAt path).toOption.map (·.2) = some .directory)
      rw [Posix.isDirectory]
      cases system.entryAt path with
      | error fault => rfl
      | ok found =>
          rcases found with ⟨place, entry⟩
          cases entry with
          | file held => simp [Except.toOption]
          | directory => rfl

theorem answer_exists_snd
    (storage : Storage)
    (path : Path) :
    (storage.answer (.exists path)).2 = storage := by
  cases storage <;> rfl

theorem answer_exists
    (storage : Storage)
    (path : Path) :
    (storage.answer (.exists path)).1 = (storage.look path).isSome := by
  cases storage with
  | inMemory memory => rfl
  | tree system =>
      show system.hasEntry path = ((system.entryAt path).toOption.map (·.2)).isSome
      rw [Posix.hasEntry]
      cases system.entryAt path <;> rfl

/-- A read from an offset on fails, or it gives the content without what lies before the
offset. -/
theorem answer_readFrom
    (storage : Storage)
    (path : Path)
    (offset : UInt64) :
    (∃ fault, (storage.answer (.readFrom path offset)).1 = .error fault) ∨
      (storage.answer (.readFrom path offset)).1 =
        .ok ((storage.content path).drop offset.toNat) := by
  cases storage with
  | inMemory memory =>
      simp only [answer, Memory.answer, Memory.readFrom_eq, Memory.read, content, look]
      cases memory.entryAt path with
      | none => exact Or.inl ⟨_, rfl⟩
      | some entry =>
          cases entry with
          | directory => exact Or.inl ⟨_, rfl⟩
          | file held => exact Or.inr rfl
  | tree system =>
      simp only [answer, Posix.answer, Posix.readFrom_eq, content, look]
      cases system.entryAt path with
      | error fault => exact Or.inl ⟨_, rfl⟩
      | ok found =>
          rcases found with ⟨place, entry⟩
          cases entry with
          | file held => exact Or.inr rfl
          | directory =>
              cases place with
              | removed => exact Or.inr (by simp [Except.toOption])
              | named names =>
                  by_cases past : Posix.directorySize ≤ offset.toNat
                  · exact Or.inr (by simp [Except.toOption, past])
                  · exact Or.inl ⟨_, by rw [if_neg past]⟩

/-- What is seen in a tree stands at some place of it. -/
theorem entryAt_of_look
    {system : Posix}
    {path : Path}
    {entry : Entry}
    (seen : (Storage.tree system).look path = some entry) :
    ∃ place, system.entryAt path = .ok (place, entry) := by
  rw [look] at seen
  cases found : system.entryAt path with
  | error fault => rw [found] at seen; cases seen
  | ok both =>
      rcases both with ⟨place, other⟩
      rw [found] at seen
      cases seen
      exact ⟨place, rfl⟩

/-- Where a file is, a read from an offset on does not fail. -/
theorem answer_readFrom_file
    {storage : Storage}
    {path : Path}
    {held : Bytes}
    (isFile : storage.look path = some (.file held))
    (offset : UInt64) :
    (storage.answer (.readFrom path offset)).1 = .ok (held.drop offset.toNat) := by
  cases storage with
  | inMemory memory =>
      simp only [look] at isFile
      simp only [answer, Memory.answer, Memory.readFrom_eq, Memory.read, isFile]
      rfl
  | tree system =>
      obtain ⟨place, found⟩ := entryAt_of_look isFile
      simp only [answer, Posix.answer, Posix.readFrom_eq, found]

theorem answer_readFrom_snd
    (storage : Storage)
    (path : Path)
    (offset : UInt64) :
    (storage.answer (.readFrom path offset)).2 = storage := by
  cases storage <;> rfl

theorem answer_read_snd
    (storage : Storage)
    (path : Path) :
    (storage.answer (.read path)).2 = storage := by
  cases storage <;> rfl

/-- Where a file is, reading it gives its content. -/
theorem answer_read_file
    {storage : Storage}
    {path : Path}
    {held : Bytes}
    (isFile : storage.look path = some (.file held)) :
    (storage.answer (.read path)).1 = .ok held := by
  cases storage with
  | inMemory memory =>
      simp only [look] at isFile
      simp only [answer, Memory.answer, Memory.read, isFile]
  | tree system =>
      obtain ⟨place, found⟩ := entryAt_of_look isFile
      simp only [answer, Posix.answer, Posix.during, Posix.contentAt, found]
      rfl

theorem answer_isFile_file
    {storage : Storage}
    {path : Path}
    {held : Bytes}
    (isFile : storage.look path = some (.file held)) :
    (storage.answer (.isFile path)).1 = true := by
  cases storage with
  | inMemory memory =>
      rw [look] at isFile
      simp only [answer, Memory.answer, Memory.isFile, isFile]
  | tree system =>
      obtain ⟨place, found⟩ := entryAt_of_look isFile
      simp only [answer, Posix.answer, Posix.isFile, found]

theorem file_of_answer_isFile
    {storage : Storage}
    {path : Path}
    (answered : (storage.answer (.isFile path)).1 = true) :
    ∃ held, storage.look path = some (.file held) := by
  cases storage with
  | inMemory memory =>
      simp only [answer, Memory.answer, Memory.isFile] at answered
      split at answered
      · rename_i held isFile
        exact ⟨held, isFile⟩
      · cases answered
  | tree system =>
      simp only [answer, Posix.answer, Posix.isFile] at answered
      split at answered
      · rename_i place held found
        exact ⟨held, by rw [look, found]; rfl⟩
      · cases answered

/-- Encoded text is read as what it was. -/
theorem answer_readText_encode
    {storage : Storage}
    {path : Path}
    {text : Text}
    (isFile : storage.look path = some (.file (Utf8.encode text))) :
    (storage.answer (.readText path)).1 = .ok text := by
  cases storage with
  | inMemory memory => exact Memory.readText_of_encode isFile
  | tree system =>
      obtain ⟨place, found⟩ := entryAt_of_look isFile
      simp only [answer, Posix.answer, Posix.during, Posix.textAt, Posix.contentAt, found,
        bind, Except.bind, Utf8.decode?_encode]
      rfl

/-- Where no file is, reading fails. -/
theorem answer_read_other
    {storage : Storage}
    {path : Path}
    (noFile : ∀ held, storage.look path ≠ some (.file held)) :
    ∃ fault, (storage.answer (.read path)).1 = .error fault := by
  cases storage with
  | inMemory memory =>
      simp only [look] at noFile
      simp only [answer, Memory.answer, Memory.read]
      cases found : memory.entryAt path with
      | none => exact ⟨_, rfl⟩
      | some entry =>
          cases entry with
          | directory => exact ⟨_, rfl⟩
          | file held => exact absurd found (noFile held)
  | tree system =>
      simp only [look] at noFile
      simp only [answer, Posix.answer, Posix.during, Posix.contentAt]
      cases found : system.entryAt path with
      | error fault => exact ⟨_, rfl⟩
      | ok both =>
          rcases both with ⟨place, entry⟩
          cases entry with
          | directory => exact ⟨_, rfl⟩
          | file held =>
              rw [found] at noFile
              exact absurd rfl (noFile held)

/-! ### Writing -/

section Writing

variable {directory : Path} {segment other : Bytes}

/-- A file in memory is taken where no parent is missing and no directory is. -/
theorem takes_inMemory
    {memory : Memory}
    {path : Path} :
    (inMemory memory).takes path ↔
      memory.missingParent? path = none ∧ memory.isDirectory path = false := by
  simp only [takes, answer, Memory.answer]
  cases outcome : memory.write path [] with
  | error fault =>
      constructor
      · intro impossible
        cases impossible
      · rintro ⟨noneMissing, noDirectory⟩
        have taken : memory.write path [] = .ok (memory.put path (.file [])) :=
          Memory.write_ok_iff.mpr ⟨noneMissing, noDirectory, rfl⟩
        rw [outcome] at taken
        cases taken
  | ok next =>
      obtain ⟨noneMissing, noDirectory, _⟩ := Memory.write_ok_iff.mp outcome
      exact ⟨fun _ => ⟨noneMissing, noDirectory⟩, fun _ => rfl⟩

/-- What a file in memory that is taken does to the memory. -/
theorem write_inMemory
    {memory : Memory}
    {path : Path}
    (taken : (inMemory memory).takes path)
    (written : Bytes) :
    (inMemory memory).answer (.write path written) =
      (.ok (), inMemory (memory.put path (.file written))) := by
  obtain ⟨noneMissing, noDirectory⟩ := takes_inMemory.mp taken
  have outcome : memory.write path written = .ok (memory.put path (.file written)) :=
    Memory.write_ok_iff.mpr ⟨noneMissing, noDirectory, rfl⟩
  simp only [answer, Memory.answer, outcome]
  rfl

/-- A file in a tree is taken where its directory is found and no directory has its name. -/
theorem takes_tree
    {system : Posix}
    (plain : Path.IsFileName segment) :
    (tree system).takes (directory.join ⟨segment⟩) ↔
      Posix.refusal? (directory.join ⟨segment⟩) = none ∧
        ∃ names, system.IsBase directory names ∧
          system.entries.lookup (names ++ [segment]) ≠ some .directory := by
  simp only [takes, answer, Posix.answer]
  constructor
  · intro taken
    cases outcome : system.rewriteFile (directory.join ⟨segment⟩) (fun _ => []) with
    | error fault => rw [outcome] at taken; cases taken
    | ok next =>
        obtain ⟨accepted, names, base, noDirectory, _⟩ :=
          Posix.rewriteFile_join_ok plain outcome
        exact ⟨accepted, names, base, noDirectory⟩
  · rintro ⟨accepted, names, base, noDirectory⟩
    rw [base.rewriteFile_join plain accepted noDirectory]
    rfl

/-- What a file in a tree that is taken does to the tree. -/
theorem write_tree
    {system : Posix}
    (plain : Path.IsFileName segment)
    (accepted : Posix.refusal? (directory.join ⟨segment⟩) = none)
    {names : List Bytes}
    (base : system.IsBase directory names)
    (noDirectory : system.entries.lookup (names ++ [segment]) ≠ some .directory)
    (written : Bytes) :
    (tree system).answer (.write (directory.join ⟨segment⟩) written) =
      (.ok (), tree (system.storeFile (names ++ [segment]) written)) := by
  simp only [answer, Posix.answer,
    base.rewriteFile_join plain accepted noDirectory written]
  rfl

/-- A write that is not taken changes nothing. -/
theorem write_refused
    {storage : Storage}
    (plain : Path.IsFileName segment)
    (refused : ¬ storage.takes (directory.join ⟨segment⟩))
    (written : Bytes) :
    (storage.answer (.write (directory.join ⟨segment⟩) written)).2 = storage := by
  cases storage with
  | inMemory memory =>
      simp only [answer, Memory.answer]
      cases outcome : memory.write (directory.join ⟨segment⟩) written with
      | error fault => rfl
      | ok next =>
          obtain ⟨noneMissing, noDirectory, _⟩ := Memory.write_ok_iff.mp outcome
          exact absurd (takes_inMemory.mpr ⟨noneMissing, noDirectory⟩) refused
  | tree system =>
      simp only [answer, Posix.answer]
      cases outcome :
          system.rewriteFile (directory.join ⟨segment⟩) (fun _ => written) with
      | error fault => rfl
      | ok next =>
          obtain ⟨accepted, names, base, noDirectory, _⟩ :=
            Posix.rewriteFile_join_ok plain outcome
          exact absurd ((takes_tree plain).mpr ⟨accepted, names, base, noDirectory⟩)
            refused

/-- The names in a directory name different places. -/
theorem location_join_eq_iff
    (plain : Path.IsFileName segment)
    (plainOther : Path.IsFileName other) :
    (directory.join ⟨other⟩).location = (directory.join ⟨segment⟩).location ↔
      other = segment := by
  rw [Path.location_join plain.toIsName, Path.location_join plainOther.toIsName]
  simp

/-- What stands in a tree at a name in a directory. -/
theorem look_tree
    {system : Posix}
    (plain : Path.IsFileName segment)
    {names : List Bytes}
    (base : system.IsBase directory names) :
    (tree system).look (directory.join ⟨segment⟩) =
      if Posix.refusal? (directory.join ⟨segment⟩) = none then
        system.entries.lookup (names ++ [segment])
      else
        none := by
  rw [look]
  cases refused : Posix.refusal? (directory.join ⟨segment⟩) with
  | some fault =>
      simp [Posix.entryAt, Posix.resolve, refused, bind, Except.bind, Except.toOption]
  | none =>
      rw [base.entryAt_join plain refused]
      cases system.entries.lookup (names ++ [segment]) <;> rfl

/-- After a write that is taken the file holds what was written, and all else in the
directory is as it was. -/
theorem look_write
    {storage : Storage}
    (plain : Path.IsFileName segment)
    (plainOther : Path.IsFileName other)
    (taken : storage.takes (directory.join ⟨segment⟩))
    (written : Bytes) :
    (storage.answer (.write (directory.join ⟨segment⟩) written)).2.look
        (directory.join ⟨other⟩) =
      if other = segment then some (.file written)
      else storage.look (directory.join ⟨other⟩) := by
  cases storage with
  | inMemory memory =>
      rw [write_inMemory taken]
      simp only [look, Memory.entryAt, Memory.put, EntryMap.lookup_insert,
        location_join_eq_iff plain plainOther]
  | tree system =>
      obtain ⟨accepted, names, base, noDirectory⟩ := (takes_tree plain).mp taken
      rw [write_tree plain accepted base noDirectory, look_tree plainOther base,
        look_tree plainOther (base.storeFile noDirectory written)]
      by_cases same : other = segment
      · subst same
        simp [accepted]
      · have different : names ++ [other] ≠ names ++ [segment] := by simpa using same
        simp only [Posix.lookup_storeFile, different, same, if_false]

/-- No write in a directory changes what stands at the directory. -/
theorem look_directory_write
    (storage : Storage)
    (plain : Path.IsFileName segment)
    (written : Bytes) :
    (storage.answer (.write (directory.join ⟨segment⟩) written)).2.look directory =
      storage.look directory := by
  by_cases taken : storage.takes (directory.join ⟨segment⟩)
  · cases storage with
    | inMemory memory =>
        have different : directory.location ≠ (directory.join ⟨segment⟩).location := by
          rw [Path.location_join plain.toIsName]
          simp
        rw [write_inMemory taken]
        simp only [look, Memory.entryAt, Memory.put, EntryMap.lookup_insert, different,
          if_false]
    | tree system =>
        obtain ⟨accepted, names, base, noDirectory⟩ := (takes_tree plain).mp taken
        rw [write_tree plain accepted base noDirectory]
        simp only [look]
        cases refused : Posix.refusal? directory with
        | some fault => simp [Posix.entryAt, Posix.resolve, refused, bind, Except.bind]
        | none =>
            rw [base.entryAt_directory refused,
              (base.storeFile noDirectory written).entryAt_directory refused]
  · rw [write_refused plain taken]

/-- No write in a directory changes which files are taken there. -/
theorem takes_write
    (storage : Storage)
    (plain : Path.IsFileName segment)
    (plainOther : Path.IsFileName other)
    (written : Bytes) :
    (storage.answer (.write (directory.join ⟨segment⟩) written)).2.takes
        (directory.join ⟨other⟩) ↔
      storage.takes (directory.join ⟨other⟩) := by
  by_cases taken : storage.takes (directory.join ⟨segment⟩)
  · cases storage with
    | inMemory memory =>
        obtain ⟨_, noDirectory⟩ := takes_inMemory.mp taken
        have same := Memory.isDirectory_put_file noDirectory written
        rw [write_inMemory taken, takes_inMemory, takes_inMemory, same,
          Memory.missingParent?_congr same]
    | tree system =>
        obtain ⟨accepted, names, base, noDirectory⟩ := (takes_tree plain).mp taken
        have baseAfter := base.storeFile noDirectory written
        have sameLookup :
            (system.storeFile (names ++ [segment]) written).entries.lookup (names ++ [other]) =
                some .directory ↔
              system.entries.lookup (names ++ [other]) = some .directory := by
          by_cases same : other = segment
          · subst same
            simp [noDirectory]
          · have different : names ++ [other] ≠ names ++ [segment] := by simpa using same
            simp only [Posix.lookup_storeFile, different, if_false]
        rw [write_tree plain accepted base noDirectory, takes_tree plainOther,
          takes_tree plainOther]
        constructor
        · rintro ⟨otherAccepted, others, otherBase, otherFree⟩
          cases otherBase.unique baseAfter
          exact ⟨otherAccepted, names, base, fun found => otherFree (sameLookup.mpr found)⟩
        · rintro ⟨otherAccepted, others, otherBase, otherFree⟩
          cases otherBase.unique base
          exact ⟨otherAccepted, names, baseAfter,
            fun found => otherFree (sameLookup.mp found)⟩
  · rw [write_refused plain taken]

/-! ### Rewriting -/

/-- After a file was rewritten it holds its new content if it is taken, and all else in the
directory is as it was. -/
theorem look_rewrite
    (storage : Storage)
    (directory : Path)
    (plain : Path.IsFileName segment)
    (plainOther : Path.IsFileName other)
    (change : Bytes → Bytes) :
    (storage.takes (directory.join ⟨segment⟩) ∧
        (storage.rewrite (directory.join ⟨segment⟩) change).look (directory.join ⟨other⟩) =
          if other = segment then
            some (.file (change (storage.content (directory.join ⟨segment⟩))))
          else
            storage.look (directory.join ⟨other⟩)) ∨
      (¬ storage.takes (directory.join ⟨segment⟩) ∧
        storage.rewrite (directory.join ⟨segment⟩) change = storage) := by
  by_cases taken : storage.takes (directory.join ⟨segment⟩)
  · exact Or.inl ⟨taken, look_write plain plainOther taken _⟩
  · exact Or.inr ⟨taken, write_refused plain taken _⟩

end Writing

end Sandbox.Storage

end DetachedTasks
