import DetachedTasks.Proofs.MemoryFrames
import DetachedTasks.Proofs.TaskFootprints
import DetachedTasks.Proofs.TreeFrames
import DetachedTasks.Proofs.Utf8RoundTrip
import Mathlib.Data.List.Infix

/-!
# What a call changes, and where

Every path has a spot in a storage, which its components alone decide: a storage in memory
takes them as they are, and a tree drops what two dots take back.  No call moves a spot.
What stands at a spot changes only through the few calls whose footprints are given here,
for both kinds of storage alike.
-/

namespace DetachedTasks.Sandbox.Storage

variable {storage : Storage} {path other : Path}

/-- The spot of a path. -/
def spot
    (storage : Storage)
    (path : Path) : Location :=
  match storage with
  | .inMemory _ => path.location
  | .tree system => (system.namesAt path).map .name

/-- What stands at the spot of a path, whether the path can be resolved or not. -/
def standing
    (storage : Storage)
    (path : Path) : Option Entry :=
  match storage with
  | .inMemory memory => memory.entryAt path
  | .tree system => system.entries.lookup (system.namesAt path)

theorem name_injective : Function.Injective Component.name :=
  fun _ _ same => Component.name.inj same

/-- In a tree one spot is above another if the names are. -/
theorem spot_tree_prefix_iff
    {system : Posix} :
    (tree system).spot path <+: (tree system).spot other ↔
      system.namesAt path <+: system.namesAt other :=
  List.prefix_map_iff_of_injective name_injective

/-- In a tree spots are told apart by the names. -/
theorem spot_tree_eq_iff
    {system : Posix} :
    (tree system).spot path = (tree system).spot other ↔
      system.namesAt path = system.namesAt other :=
  (List.map_injective_iff.mpr name_injective).eq_iff

/-- A plain name behind a path leads one step down from its spot. -/
theorem spot_join
    {segment : Bytes}
    (plain : Path.IsName segment)
    (storage : Storage)
    (base : Path) :
    storage.spot (base.join ⟨segment⟩) = storage.spot base ++ [.name segment] := by
  cases storage with
  | inMemory memory => exact Path.location_join plain base
  | tree system =>
      simp only [spot, Posix.namesAt_join plain, List.map_append, List.map_cons, List.map_nil]

/-- What stands at a path hangs on its spot alone. -/
theorem standing_congr
    (same : storage.spot path = storage.spot other) :
    storage.standing path = storage.standing other := by
  cases storage with
  | inMemory memory => exact congrArg memory.entries.lookup same
  | tree system => exact congrArg system.entries.lookup (spot_tree_eq_iff.mp same)

/-! ## Looks -/

/-- To look changes nothing. -/
theorem answer_of_looksAt
    {call : FileCall}
    (looks : call.LooksAt path) :
    (storage.answer call).2 = storage := by
  cases storage <;> cases call <;> first | rfl | exact False.elim looks

/-! ## Making a directory -/

/-- What a directory that was made says of the files before and after. -/
structure Gains
    (storage : Storage)
    (path : Path)
    (later : Storage) : Prop where
  absent : storage.look path = none
  vacant : storage.standing path = none
  found : later.look path = some .directory
  stands : later.standing path = some .directory
  spot : ∀ other, later.spot other = storage.spot other
  elsewhere : ∀ other, storage.spot other ≠ storage.spot path →
    later.standing other = storage.standing other

/-- A directory that is made stands where nothing stood. -/
theorem gains_of_made
    (made : (storage.answer (.createDirectory path)).1 = .ok true) :
    storage.Gains path (storage.answer (.createDirectory path)).2 := by
  cases storage with
  | inMemory memory =>
      rcases Memory.createDirectory_ok made with ⟨_, vacant, stored⟩ | ⟨impossible, _⟩
      · have here : (memory.put path .directory).entryAt path = some .directory := by
          rw [Memory.entryAt, Memory.put, EntryMap.lookup_insert, if_pos rfl]
        simp only [answer, stored]
        refine ⟨vacant, vacant, here, here, fun _ => rfl, ?_⟩
        intro other different
        exact Memory.lookup_put_of_ne different.symm
      · cases impossible
  | tree system =>
      rw [answer, Posix.answer] at made ⊢
      cases outcome : system.makeDirectory path with
      | error fault =>
          rw [outcome] at made
          cases fault <;> cases made
      | ok next =>
          obtain ⟨vacant, _, rfl, absent, found⟩ := Posix.makeDirectory_ok outcome
          refine ⟨?_, vacant, ?_, ?_, fun _ => rfl, ?_⟩
          · rw [look, absent]
            rfl
          · simp only [look, found]
            rfl
          · rw [standing, Posix.namesAt_storeDirectory, Posix.lookup_storeDirectory, if_pos rfl]
          · intro other different
            have apart : system.namesAt other ≠ system.namesAt path :=
              fun same => different (spot_tree_eq_iff.mpr same)
            rw [standing, Posix.namesAt_storeDirectory, Posix.lookup_storeDirectory,
              if_neg apart]
            rfl

/-- A call that did not make its directory changed nothing. -/
theorem answer_of_not_made
    (notMade : (storage.answer (.createDirectory path)).1 ≠ .ok true) :
    (storage.answer (.createDirectory path)).2 = storage := by
  cases storage with
  | inMemory memory =>
      rw [answer] at notMade ⊢
      simp only at notMade ⊢
      rw [Memory.answer, Memory.createDirectory] at notMade ⊢
      cases found : memory.entryAt path with
      | some entry => rfl
      | none =>
          cases missing : memory.missingParent? path with
          | some parent => rfl
          | none =>
              rw [found, missing] at notMade
              exact absurd rfl notMade
  | tree system =>
      rw [answer, Posix.answer] at notMade ⊢
      cases outcome : system.makeDirectory path with
      | error fault => cases fault <;> rfl
      | ok next =>
          rw [outcome] at notMade
          exact absurd rfl notMade

/-! ## Making directories -/

/-- Files to which directories were added on the way to a path, where nothing stood. -/
structure Grows
    (storage : Storage)
    (path : Path)
    (later : Storage) : Prop where
  spot : ∀ other, later.spot other = storage.spot other
  standing : ∀ other,
    later.standing other = storage.standing other ∨
      storage.standing other = none ∧ later.standing other = some .directory ∧
        ∃ above : Path, above.location <+: path.location ∧
          storage.spot above = storage.spot other

/-- To make directories with all above them only adds to what there is. -/
theorem grows_createDirectories
    (storage : Storage)
    (path : Path) :
    storage.Grows path (storage.answer (.createDirectories path)).2 := by
  cases storage with
  | inMemory memory =>
      refine ⟨fun _ => rfl, ?_⟩
      intro other
      rcases Memory.lookup_createDirectories memory path other.location with
        same | ⟨vacant, above, stands⟩
      · exact Or.inl same
      · exact Or.inr ⟨vacant, stands, other, above, rfl⟩
  | tree system =>
      have grown := Posix.grows_makeDirectories system path
      have sameNames := Posix.namesAt_congr grown.currentDirectory
      refine ⟨fun other => congrArg (List.map Component.name) (sameNames other), ?_⟩
      intro other
      simp only [standing, answer, Posix.answer, sameNames other]
      rcases grown.entries (system.namesAt other) with same | ⟨vacant, stands, above, on, at'⟩
      · exact Or.inl same
      · exact Or.inr ⟨vacant, stands, above, on, spot_tree_eq_iff.mpr at'⟩

/-! ## Writing -/

/-- What a file that was written says of the files before and after. -/
structure Receives
    (storage : Storage)
    (path : Path)
    (content : Bytes)
    (later : Storage) : Prop where
  stands : later.standing path = some (.file content)
  spot : ∀ other, later.spot other = storage.spot other
  elsewhere : ∀ other, storage.spot other ≠ storage.spot path →
    later.standing other = storage.standing other

/-- A file is written at its own spot, or nothing is changed. -/
theorem receives_or_refuses
    (storage : Storage)
    (path : Path)
    (content : Bytes) :
    (storage.answer (.write path content)).1 = .ok () ∧
        storage.Receives path content (storage.answer (.write path content)).2 ∨
      ∃ fault, (storage.answer (.write path content)).1 = .error fault ∧
        (storage.answer (.write path content)).2 = storage := by
  cases storage with
  | inMemory memory =>
      rw [answer, Memory.answer]
      cases outcome : memory.write path content with
      | error fault => exact Or.inr ⟨fault, rfl, rfl⟩
      | ok next =>
          obtain ⟨_, _, rfl⟩ := Memory.write_ok_iff.mp outcome
          refine Or.inl ⟨rfl, ?_, fun _ => rfl, ?_⟩
          · simp [standing, Memory.settle, Memory.entryAt, Memory.put]
          · intro other different
            exact Memory.lookup_put_of_ne different.symm
  | tree system =>
      rw [answer, Posix.answer]
      cases outcome : system.rewriteFile path fun _ => content with
      | error fault => exact Or.inr ⟨_, rfl, rfl⟩
      | ok next =>
          rw [(Posix.rewriteFile_ok outcome).1]
          refine Or.inl ⟨rfl, ?_, fun _ => rfl, ?_⟩
          · simp [standing, Posix.settle, Posix.storeFile, Posix.namesAt]
          · intro other different
            have apart : system.namesAt other ≠ system.namesAt path :=
              fun same => different (spot_tree_eq_iff.mpr same)
            exact (Posix.lookup_storeFile system _ _ content).trans (if_neg apart)

/-! ## Removal -/

/-- A file is removed from its own spot. -/
theorem standing_removeFile
    (storage : Storage)
    (path other : Path) :
    (storage.answer (.removeFile path)).2.spot other = storage.spot other ∧
      ((storage.answer (.removeFile path)).2.standing other = storage.standing other ∨
        (storage.answer (.removeFile path)).2.standing other = none ∧
          storage.spot other = storage.spot path ∧
          ∃ content, storage.standing path = some (.file content)) := by
  cases storage with
  | inMemory memory =>
      refine ⟨rfl, ?_⟩
      simp only [standing, answer, Memory.answer, Memory.removeFile]
      cases found : memory.entryAt path with
      | none => exact Or.inl rfl
      | some entry =>
          cases entry with
          | directory => exact Or.inl rfl
          | file content =>
              by_cases same : other.location = path.location
              · refine Or.inr ⟨?_, same, content, rfl⟩
                simp [Memory.settle, Memory.entryAt, same]
              · exact Or.inl (by simp [Memory.settle, Memory.entryAt, same])
  | tree system =>
      simp only [standing, answer, Posix.answer]
      cases removed : system.removeFile path with
      | error fault => exact ⟨rfl, Or.inl rfl⟩
      | ok next =>
          obtain ⟨⟨content, stood⟩, rfl⟩ := Posix.removeFile_ok removed
          refine ⟨rfl, ?_⟩
          by_cases same : system.namesAt other = system.namesAt path
          · refine Or.inr ⟨?_, spot_tree_eq_iff.mpr same, content, stood⟩
            simp [Posix.settle, same]
          · exact Or.inl (by simp [Posix.settle, same])

/-- What the removal of a directory with all below it may do. -/
structure Prunes
    (storage : Storage)
    (path : Path)
    (outcome : Except FileFault Unit × Storage) : Prop where
  spot : ∀ other, outcome.2.spot other = storage.spot other
  standing : ∀ other,
    outcome.2.standing other = storage.standing other ∨ outcome.2.standing other = none
  elsewhere : ∀ other, ¬ storage.spot path <+: storage.spot other →
    outcome.2.standing other = storage.standing other
  failed : ∀ fault, outcome.1 = .error fault →
    outcome.2.standing path = storage.standing path
  spared : storage.standing path ≠ some .directory →
    ∀ other, outcome.2.standing other = storage.standing other

theorem Prunes.refl
    (storage : Storage)
    (path : Path)
    (outcome : Except FileFault Unit) : storage.Prunes path (outcome, storage) :=
  ⟨fun _ => rfl, fun _ => Or.inl rfl, fun _ _ => rfl, fun _ _ => rfl, fun _ _ => rfl⟩

/-- A removal takes away what lies at the path or below it, and nothing else. -/
theorem prunes_removeTree
    (storage : Storage)
    (path : Path) :
    storage.Prunes path (storage.answer (.removeTree path)) := by
  cases storage with
  | inMemory memory =>
      simp only [answer, Memory.answer, Memory.removeTree]
      cases found : memory.entryAt path with
      | none => exact .refl _ path _
      | some entry =>
          cases entry with
          | file content => exact .refl _ path _
          | directory =>
              refine ⟨fun _ => rfl, ?_, ?_, ?_, fun other => absurd found other⟩
              · intro other
                simp only [Memory.settle, standing, Memory.entryAt, EntryMap.lookup_eraseWhere]
                split
                · exact Or.inr rfl
                · exact Or.inl rfl
              · intro other apart
                have outside : path.location.isPrefixOf other.location = false := by
                  rw [Bool.eq_false_iff, ne_eq, List.isPrefixOf_iff_prefix]
                  exact apart
                simp [Memory.settle, standing, Memory.entryAt, outside]
              · intro fault impossible
                cases impossible
  | tree system =>
      have pruned := Posix.prunes_removeTree system path
      have sameNames := Posix.namesAt_congr pruned.currentDirectory
      simp only [answer, Posix.answer]
      refine ⟨fun other => congrArg (List.map Component.name) (sameNames other),
        ?_, ?_, ?_, ?_⟩
      · intro other
        simp only [standing, sameNames other]
        exact pruned.entries _
      · intro other apart
        simp only [standing, sameNames other]
        exact pruned.elsewhere _ fun below => apart (spot_tree_prefix_iff.mpr below)
      · intro fault failed
        simp only [standing, sameNames path]
        cases outcome : (system.removeTree path).1 with
        | ok done =>
            simp only [outcome] at failed
            cases failed
        | error cause => exact pruned.failed cause outcome
      · intro other another
        simp only [standing, sameNames another, pruned.spared other]

end DetachedTasks.Sandbox.Storage

namespace DetachedTasks.Workspace

open Sandbox (Storage)

variable {workspace : Workspace} {storage : Storage}

/-! ## Control directories -/

theorem spot_controlDirectory
    {id : Text}
    (plain : Path.IsName (Utf8.encode id)) :
    storage.spot (workspace.controlDirectory id) =
      storage.spot workspace.tasksDirectory ++ [.name (Utf8.encode id)] :=
  Storage.spot_join plain storage workspace.tasksDirectory

/-- What lies below two names in one directory lies below one name. -/
theorem same_of_below
    {base place : Location}
    {first second : Bytes}
    (below : base ++ [.name first] <+: place)
    (belowSecond : base ++ [.name second] <+: place) :
    first = second := by
  have sameLength :
      (base ++ [Component.name first]).length = (base ++ [Component.name second]).length := by
    rw [List.length_append, List.length_append]
    rfl
  have same := List.prefix_of_prefix_length_le below belowSecond (Nat.le_of_eq sameLength)
  have whole := List.append_cancel_left (same.eq_of_length sameLength)
  injection whole with sameName
  injection sameName

/-- The control directories of different tasks lie apart. -/
theorem spot_controlDirectory_apart
    {id other : Text}
    (plain : Path.IsName (Utf8.encode id))
    (otherPlain : Path.IsName (Utf8.encode other))
    (different : other ≠ id) :
    ¬ storage.spot (workspace.controlDirectory id) <+:
      storage.spot (workspace.controlDirectory other) := by
  intro below
  rw [spot_controlDirectory plain, spot_controlDirectory otherPlain] at below
  have sameName := same_of_below (List.prefix_refl _) below
  exact different (Utf8.encode_injective sameName)

end DetachedTasks.Workspace
