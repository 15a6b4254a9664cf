import DetachedTasks.Proofs.StorageSpots
import DetachedTasks.Proofs.TaskPlaces
import Mathlib.Data.List.Induction

/-!
# Storages that are trees

In a tree everything stands in a directory, so nothing stands below a place where nothing
stands.  This holds for the control directory of a task also after the directory of all tasks
was made, whatever that took.
-/

namespace DetachedTasks

/-- What stands at a place of more than some components stands in a directory. -/
def EntryMap.IsTree
    {α : Type}
    [DecidableEq α]
    (entries : EntryMap (List α))
    (roots : Nat) : Prop :=
  ∀ place, roots < place.length → entries.lookup place ≠ none →
    entries.lookup place.dropLast = some .directory

theorem EntryMap.IsTree.vacant_below
    {α : Type}
    [DecidableEq α]
    {entries : EntryMap (List α)}
    {roots : Nat}
    (tree : entries.IsTree roots)
    {place : List α}
    (long : roots ≤ place.length)
    (vacant : entries.lookup place = none)
    (below : List α) :
    entries.lookup (place ++ below) = none := by
  induction below using List.reverseRecOn with
  | nil =>
      rw [List.append_nil]
      exact vacant
  | append_singleton below last inductionHypothesis =>
      by_contra stands
      have longer : roots < (place ++ (below ++ [last])).length := by
        simp only [List.length_append, List.length_singleton]
        omega
      have parent := tree _ longer stands
      rw [← List.append_assoc, List.dropLast_concat, inductionHypothesis] at parent
      cases parent

namespace Sandbox.Storage

/-- Everything stands in a directory.  In memory a path of one component needs none. -/
def IsTree : Storage → Prop
  | .inMemory memory => memory.entries.IsTree 1
  | .tree system => system.entries.IsTree 0

end Sandbox.Storage

theorem Posix.Grows.isTree
    {system later : Posix}
    {path : Path}
    (grown : system.Grows path later)
    (tree : system.entries.IsTree 0) :
    later.entries.IsTree 0 := by
  intro names long stands
  rcases grown.entries names with same | ⟨vacant, isDirectory, _⟩
  · rw [same] at stands
    exact grown.keeps (tree names long stands)
  · exact grown.grounded names vacant isDirectory

open Sandbox (Storage)

/-- The files with the directory of all tasks, as far as it can be made. -/
def Workspace.prepared
    (workspace : Workspace)
    (storage : Storage) : Storage :=
  (storage.answer (.createDirectories workspace.tasksDirectory)).2

theorem Workspace.grows_prepared
    (workspace : Workspace)
    (storage : Storage) :
    storage.Grows workspace.tasksDirectory (workspace.prepared storage) :=
  storage.grows_createDirectories workspace.tasksDirectory

/-- Where a control directory can be made, nothing stands below it. -/
theorem Workspace.vacant_prepared
    {workspace : Workspace}
    {storage : Storage}
    (tree : storage.IsTree)
    {id : Text}
    (wellFormed : TaskId.isWellFormed id = true)
    (vacant : (workspace.prepared storage).standing (workspace.controlDirectory id) = none)
    {path : Path}
    (below : storage.spot (workspace.controlDirectory id) <+: storage.spot path) :
    (workspace.prepared storage).standing path = none := by
  cases storage with
  | inMemory memory =>
      -- No directory on the way to the directory of all tasks lies here.
      have place : (workspace.controlDirectory id).location = workspace.placeOf id :=
        location_controlDirectory wellFormed
      have same : ∀ rest,
          (memory.answer (.createDirectories workspace.tasksDirectory)).2.entries.lookup
              (workspace.placeOf id ++ rest) =
            memory.entries.lookup (workspace.placeOf id ++ rest) := by
        intro rest
        rcases memory.lookup_createDirectories workspace.tasksDirectory
          (workspace.placeOf id ++ rest) with same | ⟨_, above, _⟩
        · exact same
        · exact absurd above (not_above_tasksDirectory rest)
      obtain ⟨rest, shape⟩ := below
      simp only [Storage.spot, place] at shape
      simp only [prepared, Storage.standing, Storage.answer, Memory.entryAt, place] at vacant
      simp only [prepared, Storage.standing, Storage.answer, Memory.entryAt, ← shape, same]
      rw [← List.append_nil (workspace.placeOf id), same, List.append_nil] at vacant
      apply EntryMap.IsTree.vacant_below tree _ vacant
      simp [placeOf]
  | tree system =>
      have grown := Posix.grows_makeDirectories system workspace.tasksDirectory
      obtain ⟨rest, shape⟩ := Storage.spot_tree_prefix_iff.mp below
      have sameNames := Posix.namesAt_congr grown.currentDirectory
      simp only [prepared, Storage.standing, Storage.answer, Posix.answer, sameNames]
        at vacant ⊢
      rw [← shape]
      exact (grown.isTree tree).vacant_below (Nat.zero_le _) vacant rest

end DetachedTasks
