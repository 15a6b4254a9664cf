import DetachedTasks.Proofs.Footprints
import DetachedTasks.Proofs.StorageSpots

/-!
# Programs on a storage

What a program does to the files is decided by its calls; what the world outside answers to
its other requests is arbitrary.  A program that meets some terms keeps whatever each call
under these terms keeps.
-/

namespace DetachedTasks

/-- What the world outside answers.  It is not asked about files. -/
abbrev Outside :=
  (request : Request) → request.Answer

namespace Sandbox.Storage

/-- Answer a request. -/
def respond (outside : Outside) : Program.Handler Storage
  | .file call, storage => storage.answer call
  | request, storage => (outside request, storage)

end Sandbox.Storage

open Sandbox (Storage)

/-- A program keeps what its calls keep, and ends as promised. -/
theorem Program.Meets.run_storage
    {terms : Terms}
    {promise : α → Prop}
    (invariant : Storage → Prop)
    (file : ∀ call storage, terms.allowed (.file call) → invariant storage →
      terms.fair (.file call) (storage.answer call).1 ∧ invariant (storage.answer call).2)
    (aside : ∀ request answer, Terms.outside.allowed request → terms.fair request answer)
    (outside : Outside)
    {program : Program α}
    (meets : program.Meets terms promise)
    {storage : Storage}
    (holds : invariant storage) :
    promise (program.run (Storage.respond outside) storage).1 ∧
      invariant (program.run (Storage.respond outside) storage).2 := by
  induction program generalizing storage with
  | done value => exact ⟨meets, holds⟩
  | ask request resume inductionHypothesis =>
      cases request with
      | file call =>
          obtain ⟨fair, kept⟩ := file call storage meets.1 holds
          exact inductionHypothesis _ (meets.2 _ fair) kept
      | _ => exact inductionHypothesis _ (meets.2 _ (aside _ _ trivial)) holds

end DetachedTasks
