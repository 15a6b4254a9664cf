import DetachedTasks.Proofs.ChildDeeds
import DetachedTasks.Proofs.StorageSpots

/-!
# A control directory that was removed

Where a directory was taken away, nothing is seen of it or of what lay below it, and nothing
can be read there.  Every path below a control directory has a name behind its directory, so
this holds in a tree whatever the way to the directory looks like.
-/

namespace DetachedTasks

open Sandbox (Storage)

/-! ## Files without a directory -/

/-- A plain name behind a path leads to an absolute name, if it leads anywhere. -/
theorem Posix.named_of_resolve_join
    {system : Posix}
    {base : Path}
    {segment : Bytes}
    (plain : Path.IsName segment)
    {place : Posix.Place}
    (resolved : system.resolve (base.join ⟨segment⟩) = .ok place) :
    place ≠ .removed := by
  rw [Path.join_name plain, resolve] at resolved
  cases refused : refusal? ⟨base.lead ++ segment⟩ with
  | some fault =>
      rw [refused] at resolved
      cases resolved
  | none =>
      rw [refused] at resolved
      simp only [Path.splitOn_lead_append plain.noSlash, walk_concat] at resolved
      obtain ⟨above, _, entered⟩ := ok_of_bind resolved
      rintro rfl
      cases enters_of_enter entered with
      | remain void =>
          rw [plain.notVoid] at void
          cases void

namespace Sandbox.Storage

/-- Files without a directory and all that lies below it. -/
def without
    (directory : Path) : Storage → Storage
  | .inMemory memory =>
      .inMemory ⟨memory.entries.eraseWhere directory.location.isPrefixOf⟩
  | .tree system => .tree (system.erase (system.namesAt directory).isPrefixOf)

/-- Nothing is seen at a directory that was taken away, or below it. -/
theorem look_without
    {storage : Storage}
    {directory base : Path}
    {segment : Bytes}
    (plain : Path.IsName segment)
    (within : storage.spot directory <+: storage.spot (base.join ⟨segment⟩)) :
    (storage.without directory).look (base.join ⟨segment⟩) = none := by
  cases storage with
  | inMemory memory =>
      have below : directory.location.isPrefixOf (base.join ⟨segment⟩).location = true :=
        List.isPrefixOf_iff_prefix.mpr within
      simp only [without, look, Memory.entryAt, EntryMap.lookup_eraseWhere, below, if_true]
  | tree system =>
      let later := system.erase (system.namesAt directory).isPrefixOf
      have below :
          (system.namesAt directory).isPrefixOf (system.namesAt (base.join ⟨segment⟩)) =
            true :=
        List.isPrefixOf_iff_prefix.mpr (spot_tree_prefix_iff.mp within)
      show (later.entryAt (base.join ⟨segment⟩)).toOption.map (·.2) = none
      cases found : later.entryAt (base.join ⟨segment⟩) with
      | error fault => rfl
      | ok pair =>
          rcases pair with ⟨place, entry⟩
          obtain ⟨resolved, ⟨removed, _⟩ | ⟨_, stands⟩⟩ := Posix.entryAt_ok found
          · exact absurd removed (Posix.named_of_resolve_join plain resolved)
          · rw [Posix.lookup_erase, Posix.namesAt_erase, if_pos below] at stands
            cases stands

/-- Where nothing is seen, nothing can be read. -/
theorem answer_readFrom_absent
    {storage : Storage}
    {path : Path}
    (absent : storage.look path = none)
    (offset : UInt64) :
    ∃ fault, (storage.answer (.readFrom path offset)).1 = .error fault := by
  cases storage with
  | inMemory memory =>
      simp only [look] at absent
      simp only [answer, Memory.answer, Memory.readFrom_eq, Memory.read, absent]
      exact ⟨_, rfl⟩
  | tree system =>
      simp only [look, Option.map_eq_none_iff] at absent
      simp only [answer, Posix.answer, Posix.readFrom_eq]
      cases found : system.entryAt path with
      | error cause => exact ⟨_, rfl⟩
      | ok pair =>
          rw [found] at absent
          cases absent

theorem answer_read_absent
    {storage : Storage}
    {path : Path}
    (absent : storage.look path = none) :
    ∃ fault, (storage.answer (.read path)).1 = .error fault := by
  apply answer_read_other
  intro held isFile
  rw [absent] at isFile
  cases isFile

end Sandbox.Storage

/-! ## Tasks without their directory -/

/-- Files in which nothing of a task is seen. -/
structure Handle.IsGone
    (handle : Handle)
    (workspace : Workspace)
    (storage : Storage) : Prop where
  directory : storage.look (handle.directory workspace) = none
  files : ∀ name ∈ Deed.fileNames, storage.look (handle.file workspace name) = none

/-- Handles on the same task see the same files. -/
theorem Handle.IsGone.follow
    {handle moved : Handle}
    {workspace : Workspace}
    {storage : Storage}
    (gone : handle.IsGone workspace storage)
    (sameTask : moved.id = handle.id) :
    moved.IsGone workspace storage ∧
      moved.directory workspace = handle.directory workspace := by
  obtain ⟨id, capturing, offset⟩ := handle
  obtain ⟨movedId, movedCapturing, movedOffset⟩ := moved
  cases sameTask
  exact ⟨⟨gone.directory, gone.files⟩, rfl⟩

/-- Nothing of a task is seen once its directory was taken away. -/
theorem Handle.isGone_without
    {handle : Handle}
    (plain : Path.IsName (Utf8.encode handle.id))
    (workspace : Workspace)
    (storage : Storage) :
    handle.IsGone workspace (storage.without (handle.directory workspace)) where
  directory := Storage.look_without plain (List.prefix_refl _)
  files := by
    intro name member
    have plainName := (Deed.isFileName_of_mem member).toIsName
    apply Storage.look_without plainName
    rw [Storage.spot_join plainName]
    exact List.prefix_append _ _

end DetachedTasks
