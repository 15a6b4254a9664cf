import DetachedTasks.Proofs.AllocationRecords
import DetachedTasks.Proofs.CleanupReach

/-!
# Allocations side by side

Any number of allocations and cleanups work in one workspace, request by request and in any
order.  A directory is made where nothing stood, and it stays until a cleanup removes it; so
two allocations share an id only if a cleanup came between them.
-/

namespace DetachedTasks

open Sandbox (Storage)

/-! ## What happens -/

/-- One call of an allocation. -/
structure Allocator where
  rest : Program (Except TaskFault Text)
  /-- What it has asked for. -/
  past : List Fact
  /-- The directory that it had made was removed by a cleanup. -/
  cleaned : Bool

/-- The directories that an allocation has made. -/
def Allocator.claims (allocator : Allocator) : List Path :=
  allocator.past.filterMap Fact.claim?

/-- The directory that the next request of a program removes, if it succeeds. -/
def Program.removes?
    (storage : Storage) : Program α → Option Path
  | .ask (.file (.removeTree path)) _ =>
      match (storage.answer (.removeTree path)).1 with
      | .ok _ => some path
      | .error _ => none
  | _ => none

/-- An allocation whose directory is removed is cleaned up. -/
def Allocator.afterRemoval
    (removed : Option Path)
    (allocator : Allocator) : Allocator :=
  { allocator with
    cleaned := allocator.cleaned || decide (∃ path ∈ allocator.claims, removed = some path) }

/-- An allocator is untouched by a removal exactly if none of its claims was removed, now or
before. -/
theorem Allocator.cleaned_afterRemoval
    {removed : Option Path}
    {allocator : Allocator} :
    (allocator.afterRemoval removed).cleaned = false ↔
      allocator.cleaned = false ∧ ∀ path ∈ allocator.claims, removed ≠ some path := by
  simp [afterRemoval]

inductive HallEvent where
  /-- Someone begins an allocation. -/
  | allocate
  /-- Someone begins to clean up a task. -/
  | cleanUp (handle : Handle)
  /-- An allocation goes on with its next request. -/
  | resumeAllocator (index : Nat) (outside : Outside)
  /-- A cleanup goes on with its next request. -/
  | resumeCleanup (index : Nat) (outside : Outside)

/-- Only what has the form of an id is cleaned up. -/
def HallEvent.IsAdmitted : HallEvent → Prop
  | .cleanUp handle => TaskId.isWellFormed handle.id = true
  | _ => True

instance : DecidablePred HallEvent.IsAdmitted
  | .allocate => isTrue trivial
  | .cleanUp handle => inferInstanceAs (Decidable (TaskId.isWellFormed handle.id = true))
  | .resumeAllocator _ _ => isTrue trivial
  | .resumeCleanup _ _ => isTrue trivial

/-- The files, and who works on them. -/
structure Hall where
  storage : Storage
  allocators : List Allocator
  cleanups : List (Program (Except TaskFault Unit))

namespace Hall

def ofStorage (storage : Storage) : Hall :=
  { storage, allocators := [], cleanups := [] }

def step
    (workspace : Workspace)
    (hall : Hall) : HallEvent → Hall
  | .allocate =>
      { hall with
        allocators := hall.allocators ++
          [{ rest := workspace.allocate.run, past := [], cleaned := false }] }
  | .cleanUp handle =>
      { hall with cleanups := hall.cleanups ++ [(handle.cleanup workspace).run] }
  | .resumeAllocator index outside =>
      match hall.allocators[index]? with
      | none => hall
      | some allocator =>
          let (rest, storage, facts) := allocator.rest.turn outside hall.storage
          { hall with
            storage
            allocators := hall.allocators.set index
              { allocator with rest, past := allocator.past ++ facts } }
  | .resumeCleanup index outside =>
      match hall.cleanups[index]? with
      | none => hall
      | some cleanup =>
          let (rest, storage, _) := cleanup.turn outside hall.storage
          let removed := cleanup.removes? hall.storage
          { storage
            allocators := hall.allocators.map (Allocator.afterRemoval removed)
            cleanups := hall.cleanups.set index rest }

def run
    (workspace : Workspace)
    (hall : Hall)
    (events : List HallEvent) : Hall :=
  events.foldl (step workspace) hall

end Hall

/-! ## What one request does -/

/-- To make the directory of all tasks, and to ask for control directories. -/
def Terms.allocating (workspace : Workspace) : Terms where
  allowed := fun
    | .file call =>
        call = .createDirectories workspace.tasksDirectory ∨
          ∃ word, call = .createDirectory (workspace.controlDirectory (TaskId.ofWord word))
    | _ => True
  fair := fun _ _ => True

/-- Files that have gained control directories where nothing stood, and lost none. -/
structure Sandbox.Storage.Advances
    (workspace : Workspace)
    (storage : Storage)
    (claims : List Path)
    (later : Storage) : Prop where
  spot : ∀ path, later.spot path = storage.spot path
  keeps : ∀ path,
    storage.standing path = some .directory → later.standing path = some .directory
  new : ∀ path ∈ claims,
    (∃ id, TaskId.isWellFormed id = true ∧ path = workspace.controlDirectory id) ∧
      storage.standing path = none ∧ later.standing path = some .directory

section Requests

variable {workspace : Workspace} {storage later : Storage}

/-- The terms of an allocation allow each thing that an allocation asks for. -/
theorem Terms.allocating_serves (workspace : Workspace) :
    (Terms.allocating workspace).Serves [] where
  outside := by
    intro request outside
    cases request with
    | file call => exact False.elim outside
    | _ => trivial
  look := fun _ member => absurd member List.not_mem_nil

/-- An allocation asks for nothing but what these terms allow. -/
theorem Workspace.allocate_meets (workspace : Workspace) :
    workspace.allocate.Meets (Terms.allocating workspace) fun _ => True := by
  refine TaskProgram.Meets.bind (TaskProgram.Meets.call (Or.inl rfl)) fun _ _ => ?_
  apply (Terms.allocating_serves workspace).claim
  · exact fun word _ => Or.inr ⟨word, rfl⟩
  · exact fun _ _ _ => trivial

theorem Sandbox.Storage.Advances.refl
    (workspace : Workspace)
    (storage : Storage) : Advances workspace storage [] storage :=
  ⟨fun _ => rfl, fun _ stands => stands, fun _ member => absurd member List.not_mem_nil⟩

/-- Directories that were only added claim nothing. -/
theorem Sandbox.Storage.Grows.advances
    {path : Path}
    (grown : storage.Grows path later) :
    Storage.Advances workspace storage [] later := by
  refine ⟨grown.spot, ?_, fun _ member => absurd member List.not_mem_nil⟩
  intro other stands
  rcases grown.standing other with same | ⟨_, standsLater, _⟩
  · exact same.trans stands
  · exact standsLater

/-- A control directory that was just made is claimed, and it was free before. -/
theorem Sandbox.Storage.Gains.advances
    {id : Text}
    (wellFormed : TaskId.isWellFormed id = true)
    (gained : storage.Gains (workspace.controlDirectory id) later) :
    Storage.Advances workspace storage [workspace.controlDirectory id] later := by
  refine ⟨gained.spot, ?_, ?_⟩
  · intro other stands
    rw [gained.elsewhere other]
    · exact stands
    · intro same
      rw [standing_congr same, gained.vacant] at stands
      cases stands
  · intro path member
    rw [List.mem_singleton.mp member]
    exact ⟨⟨id, wellFormed, rfl⟩, gained.vacant, gained.stands⟩

/-- One request of an allocation makes at most one directory, where nothing stood. -/
theorem Program.Meets.turn_allocating
    {program : Program α}
    {promise : α → Prop}
    (meets : program.Meets (Terms.allocating workspace) promise)
    (outside : Outside)
    (storage : Storage) :
    let (rest, later, facts) := program.turn outside storage
    Storage.Advances workspace storage (facts.filterMap Fact.claim?) later ∧
      rest.Meets (Terms.allocating workspace) promise := by
  cases program with
  | done value => exact ⟨.refl workspace storage, meets⟩
  | ask request resume =>
      refine ⟨?_, meets.2 _ trivial⟩
      cases request with
      | file call =>
          rcases meets.1 with rfl | ⟨word, rfl⟩
          · exact (Storage.grows_createDirectories storage _).advances
          · have wellFormed := TaskId.isWellFormed_ofWord word
            by_cases made :
                (storage.answer
                  (.createDirectory (workspace.controlDirectory (TaskId.ofWord word)))).1 =
                    .ok true
            · have claims := Fact.claim?_made made
              simp only [Fact.record, List.filterMap_cons, List.filterMap_nil, claims]
              exact (Storage.gains_of_made made).advances wellFormed
            · have unclaimed :
                  (Fact.called (.createDirectory
                    (workspace.controlDirectory (TaskId.ofWord word))) storage).claim? = none := by
                cases claims : Fact.claim? _ with
                | none => rfl
                | some path =>
                    obtain ⟨before, same, madeThere⟩ := Fact.claim?_eq_some claims
                    cases same
                    exact absurd madeThere made
              simp only [Fact.record, List.filterMap_cons, List.filterMap_nil, unclaimed,
                Storage.answer_of_not_made made]
              exact .refl workspace storage
      | freshWord => exact .refl workspace storage
      | _ => exact .refl workspace storage

/-- One request of a cleanup removes no control directory but that of its own task, and the
request is known that does. -/
theorem Program.Meets.turn_cleaning
    {id : Text}
    (wellFormed : TaskId.isWellFormed id = true)
    {program : Program α}
    {promise : α → Prop}
    (meets : program.Meets (Terms.cleaning workspace id) promise)
    (outside : Outside)
    (storage : Storage) :
    let (rest, later, _) := program.turn outside storage
    (∀ path, later.spot path = storage.spot path) ∧
      (∀ other, TaskId.isWellFormed other = true →
        storage.standing (workspace.controlDirectory other) = some .directory →
        program.removes? storage ≠ some (workspace.controlDirectory other) →
        later.standing (workspace.controlDirectory other) = some .directory) ∧
      rest.Meets (Terms.cleaning workspace id) promise := by
  cases program with
  | done value => exact ⟨fun _ => rfl, fun _ _ stands _ => stands, meets⟩
  | ask request resume =>
      cases request with
      | file call =>
          refine ⟨?_, ?_, meets.2 _ trivial⟩
          · rcases meets.1 with ⟨path, looks⟩ | rfl | rfl
            · intro other
              exact congrArg (·.spot other) (Storage.answer_of_looksAt looks)
            · exact fun other => (Storage.standing_removeFile storage _ other).1
            · exact (Storage.prunes_removeTree storage _).spot
          · intro other otherWellFormed stands kept
            rcases meets.1 with ⟨path, looks⟩ | rfl | rfl
            · change (storage.answer call).2.standing _ = _
              rw [Storage.answer_of_looksAt looks]
              exact stands
            · rcases (Storage.standing_removeFile storage (workspace.handleFile id)
                (workspace.controlDirectory other)).2 with same | ⟨_, here, content, isFile⟩
              · exact same.trans stands
              · rw [Storage.standing_congr here, isFile] at stands
                cases stands
            · have pruned :=
                Storage.prunes_removeTree storage (workspace.controlDirectory id)
              by_cases own : other = id
              · subst own
                cases answered :
                    (storage.answer (.removeTree (workspace.controlDirectory other))).1 with
                | ok done =>
                    apply absurd _ kept
                    rw [removes?, answered]
                | error fault => exact (pruned.failed fault answered).trans stands
              · apply (pruned.elsewhere _ _).trans stands
                exact Workspace.spot_controlDirectory_apart
                  (TaskId.isFileName wellFormed).toIsName
                  (TaskId.isFileName otherWellFormed).toIsName own
      | _ => exact ⟨fun _ => rfl, fun _ _ stands _ => stands, meets.2 _ trivial⟩

end Requests

/-! ## What holds throughout -/

/-- Every allocation goes its way, and the directories of those that were not cleaned up stand
and lie apart. -/
structure Hall.IsSound
    (workspace : Workspace)
    (hall : Hall) : Prop where
  recounts : ∀ allocator ∈ hall.allocators,
    allocator.rest.Recounts workspace.Allocation allocator.past
  asks : ∀ allocator ∈ hall.allocators,
    allocator.rest.Meets (Terms.allocating workspace) fun _ => True
  cleans : ∀ cleanup ∈ hall.cleanups, ∃ id, TaskId.isWellFormed id = true ∧
    cleanup.Meets (Terms.cleaning workspace id) fun _ => True
  named : ∀ allocator ∈ hall.allocators, ∀ path ∈ allocator.claims,
    ∃ id, TaskId.isWellFormed id = true ∧ path = workspace.controlDirectory id
  stand : ∀ allocator ∈ hall.allocators, allocator.cleaned = false →
    ∀ path ∈ allocator.claims, hall.storage.standing path = some .directory
  apart : ∀ {index other : Nat} {first second : Allocator}, index ≠ other →
    hall.allocators[index]? = some first → hall.allocators[other]? = some second →
    first.cleaned = false → second.cleaned = false →
    ∀ path ∈ first.claims, path ∉ second.claims

section Soundness

variable {workspace : Workspace} {hall : Hall}

/-- Before anyone has come, nothing can be shared. -/
theorem Hall.isSound_ofStorage
    (workspace : Workspace)
    (storage : Storage) : (ofStorage storage).IsSound workspace where
  recounts := fun _ member => absurd member List.not_mem_nil
  asks := fun _ member => absurd member List.not_mem_nil
  cleans := fun _ member => absurd member List.not_mem_nil
  named := fun _ member => absurd member List.not_mem_nil
  stand := fun _ member => absurd member List.not_mem_nil
  apart := by
    intro index other first second _ isFirst
    cases isFirst

/-- Behind a replacement at one index stands the new item there and the old ones elsewhere. -/
theorem set_cases
    {items : List α}
    {item found : α}
    {index other : Nat}
    (isFound : (items.set index item)[other]? = some found) :
    other = index ∧ found = item ∨ other ≠ index ∧ items[other]? = some found := by
  by_cases same : other = index
  · subst same
    rw [List.getElem?_set_self'] at isFound
    cases held : items[other]? with
    | none =>
        rw [held] at isFound
        cases isFound
    | some before =>
        rw [held] at isFound
        cases isFound
        exact Or.inl ⟨rfl, rfl⟩
  · rw [List.getElem?_set_ne (Ne.symm same)] at isFound
    exact Or.inr ⟨same, isFound⟩

namespace Hall.IsSound

/-- One more allocator that has not asked for anything yet claims nothing. -/
theorem allocate
    (sound : hall.IsSound workspace) :
    (hall.step workspace .allocate).IsSound workspace := by
  have old : ∀ {index : Nat} {allocator : Allocator},
      (hall.step workspace .allocate).allocators[index]? = some allocator →
      hall.allocators[index]? = some allocator ∨ allocator.claims = [] := by
    intro index allocator found
    by_cases early : index < hall.allocators.length
    · exact Or.inl ((List.getElem?_append_left early).symm.trans found)
    · right
      have late := (List.getElem?_append_right (Nat.le_of_not_lt early)).symm.trans found
      rw [List.mem_singleton.mp (List.mem_of_getElem? late)]
      rfl
  constructor
  · intro allocator member
    rcases List.mem_append.mp member with earlier | new
    · exact sound.recounts allocator earlier
    · rw [List.mem_singleton.mp new]
      exact workspace.allocate_recounts
  · intro allocator member
    rcases List.mem_append.mp member with earlier | new
    · exact sound.asks allocator earlier
    · rw [List.mem_singleton.mp new]
      exact workspace.allocate_meets.weaken (fun _ allowed => allowed) (fun _ _ fair => fair)
        fun _ _ => trivial
  · exact sound.cleans
  · intro allocator member path claimed
    rcases List.mem_append.mp member with earlier | new
    · exact sound.named allocator earlier path claimed
    · rw [List.mem_singleton.mp new] at claimed
      exact absurd claimed List.not_mem_nil
  · intro allocator member uncleaned path claimed
    rcases List.mem_append.mp member with earlier | new
    · exact sound.stand allocator earlier uncleaned path claimed
    · rw [List.mem_singleton.mp new] at claimed
      exact absurd claimed List.not_mem_nil
  · intro index other first second different isFirst isSecond uncleaned uncleanedToo
      path claimed claimedToo
    rcases old isFirst with firstOld | none
    · rcases old isSecond with secondOld | none
      · exact sound.apart different firstOld secondOld uncleaned uncleanedToo path claimed
          claimedToo
      · rw [none] at claimedToo
        exact absurd claimedToo List.not_mem_nil
    · rw [none] at claimed
      exact absurd claimed List.not_mem_nil

/-- One more cleanup that has not begun removes nothing yet. -/
theorem cleanUp
    (sound : hall.IsSound workspace)
    {handle : Handle}
    (wellFormed : TaskId.isWellFormed handle.id = true) :
    (hall.step workspace (.cleanUp handle)).IsSound workspace := by
  refine { sound with cleans := ?_ }
  intro cleanup member
  rcases List.mem_append.mp member with earlier | new
  · exact sound.cleans cleanup earlier
  · rw [List.mem_singleton.mp new]
    refine ⟨handle.id, wellFormed, ?_⟩
    exact handle.cleanup_meets.weaken (fun _ allowed => allowed) (fun _ _ fair => fair)
      fun _ _ => trivial

/-- An allocation goes on, and the files with it. -/
theorem advance
    (sound : hall.IsSound workspace)
    {index : Nat}
    {allocator : Allocator}
    (found : hall.allocators[index]? = some allocator)
    {rest : Program (Except TaskFault Text)}
    {later : Storage}
    {facts : List Fact}
    (advances :
      Storage.Advances workspace hall.storage (facts.filterMap Fact.claim?) later)
    (meets : rest.Meets (Terms.allocating workspace) fun _ => True)
    (recounts : rest.Recounts workspace.Allocation (allocator.past ++ facts)) :
    Hall.IsSound workspace
      { hall with
        storage := later
        allocators := hall.allocators.set index
          { allocator with rest, past := allocator.past ++ facts } } := by
  let next : Allocator := { allocator with rest, past := allocator.past ++ facts }
  have isThere := List.mem_of_getElem? found
  have claimed : ∀ path ∈ next.claims,
      path ∈ allocator.claims ∨ path ∈ facts.filterMap Fact.claim? := by
    intro path member
    rw [Allocator.claims, List.filterMap_append] at member
    exact List.mem_append.mp member
  have apartFromNext : ∀ {other : Nat} {second : Allocator}, index ≠ other →
      hall.allocators[other]? = some second →
      next.cleaned = false → second.cleaned = false →
      ∀ path ∈ next.claims, path ∉ second.claims := by
    intro other second different isSecond uncleaned uncleanedToo path member claimedToo
    rcases claimed path member with old | new
    · exact sound.apart different found isSecond uncleaned uncleanedToo path old claimedToo
    · have stands :=
        sound.stand second (List.mem_of_getElem? isSecond) uncleanedToo path claimedToo
      rw [(advances.new path new).2.1] at stands
      cases stands
  constructor
  · intro other member
    rcases List.mem_or_eq_of_mem_set member with old | rfl
    · exact sound.recounts other old
    · exact recounts
  · intro other member
    rcases List.mem_or_eq_of_mem_set member with old | rfl
    · exact sound.asks other old
    · exact meets
  · exact sound.cleans
  · intro other member path claims
    rcases List.mem_or_eq_of_mem_set member with old | rfl
    · exact sound.named other old path claims
    · rcases claimed path claims with before | new
      · exact sound.named allocator isThere path before
      · exact (advances.new path new).1
  · intro other member uncleaned path claims
    rcases List.mem_or_eq_of_mem_set member with old | rfl
    · exact advances.keeps path (sound.stand other old uncleaned path claims)
    · rcases claimed path claims with before | new
      · exact advances.keeps path (sound.stand allocator isThere uncleaned path before)
      · exact (advances.new path new).2.2
  · intro one two first second different isFirst isSecond uncleaned uncleanedToo path claims
      claimsToo
    rcases set_cases isFirst with ⟨rfl, rfl⟩ | ⟨_, firstOld⟩
    · rcases set_cases isSecond with ⟨same, _⟩ | ⟨_, secondOld⟩
      · exact different same.symm
      · exact apartFromNext different secondOld uncleaned uncleanedToo path claims claimsToo
    · rcases set_cases isSecond with ⟨rfl, rfl⟩ | ⟨_, secondOld⟩
      · exact apartFromNext (Ne.symm different) firstOld uncleanedToo uncleaned path claimsToo
          claims
      · exact sound.apart different firstOld secondOld uncleaned uncleanedToo path claims
          claimsToo

/-- A step of one allocator keeps the hall sound, whatever has happened since its last step. -/
theorem resumeAllocator
    (sound : hall.IsSound workspace)
    (index : Nat)
    (outside : Outside) :
    (hall.step workspace (.resumeAllocator index outside)).IsSound workspace := by
  rw [Hall.step]
  cases found : hall.allocators[index]? with
  | none => exact sound
  | some allocator =>
      have isThere := List.mem_of_getElem? found
      have turned := (sound.asks allocator isThere).turn_allocating outside hall.storage
      exact sound.advance found turned.1 turned.2
        ((sound.recounts allocator isThere).turn outside hall.storage)

/-- A step of a cleanup keeps the hall sound: who loses a claim by it counts as cleaned. -/
theorem resumeCleanup
    (sound : hall.IsSound workspace)
    (index : Nat)
    (outside : Outside) :
    (hall.step workspace (.resumeCleanup index outside)).IsSound workspace := by
  rw [Hall.step]
  cases found : hall.cleanups[index]? with
  | none => exact sound
  | some cleanup =>
      have isThere := List.mem_of_getElem? found
      obtain ⟨id, wellFormed, cleans⟩ := sound.cleans cleanup isThere
      obtain ⟨_, keeps, meets⟩ := cleans.turn_cleaning wellFormed outside hall.storage
      constructor
      · intro allocator member
        obtain ⟨before, old, rfl⟩ := List.mem_map.mp member
        exact sound.recounts before old
      · intro allocator member
        obtain ⟨before, old, rfl⟩ := List.mem_map.mp member
        exact sound.asks before old
      · intro other member
        rcases List.mem_or_eq_of_mem_set member with old | rfl
        · exact sound.cleans other old
        · exact ⟨id, wellFormed, meets⟩
      · intro allocator member
        obtain ⟨before, old, rfl⟩ := List.mem_map.mp member
        exact sound.named before old
      · intro allocator member uncleaned path claims
        obtain ⟨before, old, rfl⟩ := List.mem_map.mp member
        obtain ⟨uncleanedBefore, notRemoved⟩ := Allocator.cleaned_afterRemoval.mp uncleaned
        obtain ⟨other, otherWellFormed, rfl⟩ := sound.named before old path claims
        apply keeps other otherWellFormed
        · exact sound.stand before old uncleanedBefore _ claims
        · exact notRemoved _ claims
      · intro first second one two different isFirst isSecond uncleaned uncleanedToo
        rw [List.getElem?_map, Option.map_eq_some_iff] at isFirst isSecond
        obtain ⟨before, wasFirst, rfl⟩ := isFirst
        obtain ⟨beforeToo, wasSecond, rfl⟩ := isSecond
        have apart := sound.apart different wasFirst wasSecond
          (Allocator.cleaned_afterRemoval.mp uncleaned).1
          (Allocator.cleaned_afterRemoval.mp uncleanedToo).1
        exact apart

/-- No event lets two allocators share a claim. -/
theorem step
    (sound : hall.IsSound workspace)
    {event : HallEvent}
    (admitted : event.IsAdmitted) :
    (hall.step workspace event).IsSound workspace := by
  cases event with
  | allocate => exact sound.allocate
  | cleanUp handle => exact sound.cleanUp admitted
  | resumeAllocator index outside => exact sound.resumeAllocator index outside
  | resumeCleanup index outside => exact sound.resumeCleanup index outside

/-- A hall that is sound stays sound in every run. -/
theorem run
    (sound : hall.IsSound workspace)
    {events : List HallEvent}
    (admitted : ∀ event ∈ events, event.IsAdmitted) :
    (hall.run workspace events).IsSound workspace := by
  induction events generalizing hall with
  | nil => exact sound
  | cons event events inductionHypothesis =>
      apply inductionHypothesis
      · exact sound.step (admitted event List.mem_cons_self)
      · exact fun other member => admitted other (List.mem_cons_of_mem _ member)

end Hall.IsSound

end Soundness

/-! ## No directory is handed out twice -/

/-- However allocations and cleanups get in each other's way: an allocation that has ended went
one of its ways, and its calls changed nothing but directories on the way to the directory of
all tasks and the one control directory whose id it ended with.  This was absent right before
the call that made it and a directory right after it, and it stands until a cleanup removes it.
So no two allocations that were not cleaned up have ended with the same id. -/
theorem Hall.run_never_shares
    (workspace : Workspace)
    (storage : Storage)
    (events : List HallEvent)
    (admitted : ∀ event ∈ events, event.IsAdmitted) :
    let hall := (Hall.ofStorage storage).run workspace events
    (∀ allocator ∈ hall.allocators, ∀ outcome, allocator.rest = .done outcome →
      workspace.Allocation allocator.past outcome ∧
        ∀ call before, .called call before ∈ allocator.past →
          workspace.AddsOnly outcome before (before.answer call).2) ∧
    (∀ allocator ∈ hall.allocators, ∀ id, allocator.rest = .done (.ok id) →
      let directory := workspace.controlDirectory id
      (∃ before : Storage, .called (.createDirectory directory) before ∈ allocator.past ∧
        (before.answer (.createDirectory directory)).1 = .ok true ∧
        before.look directory = none ∧
        (before.answer (.createDirectory directory)).2.look directory = some .directory) ∧
      (allocator.cleaned = false → hall.storage.standing directory = some .directory)) ∧
    ∀ (index other : Nat) (first second : Allocator), index ≠ other →
      hall.allocators[index]? = some first → hall.allocators[other]? = some second →
      first.cleaned = false → second.cleaned = false →
      ∀ id, first.rest = .done (.ok id) → second.rest ≠ .done (.ok id) := by
  have sound := (isSound_ofStorage workspace storage).run admitted
  have allocated : ∀ {allocator outcome},
      allocator ∈ ((ofStorage storage).run workspace events).allocators →
      allocator.rest = .done outcome → workspace.Allocation allocator.past outcome := by
    intro allocator outcome member ended
    have recounts := sound.recounts allocator member
    rw [ended] at recounts
    exact recounts
  have claims : ∀ {allocator id},
      allocator ∈ ((ofStorage storage).run workspace events).allocators →
      allocator.rest = .done (.ok id) → workspace.controlDirectory id ∈ allocator.claims := by
    intro allocator id member ended
    obtain ⟨before, isFact, made⟩ := (allocated member ended).made
    exact List.mem_filterMap.mpr ⟨_, isFact, Fact.claim?_made made⟩
  refine ⟨?_, ?_, ?_⟩
  · intro allocator member outcome ended
    have allocation := allocated member ended
    exact ⟨allocation, fun call before isFact => allocation.addsOnly isFact⟩
  · intro allocator member id ended
    obtain ⟨before, isFact, made⟩ := (allocated member ended).made
    have gained := Storage.gains_of_made made
    refine ⟨⟨before, isFact, made, gained.absent, gained.found⟩, ?_⟩
    intro uncleaned
    exact sound.stand allocator member uncleaned _ (claims member ended)
  · intro index other first second different isFirst isSecond uncleaned uncleanedToo id ended
      endedToo
    exact sound.apart different isFirst isSecond uncleaned uncleanedToo _
      (claims (List.mem_of_getElem? isFirst) ended)
      (claims (List.mem_of_getElem? isSecond) endedToo)

namespace HallSample

def workspace : Workspace :=
  ⟨Path.ofText "/w".toList⟩

def files : Storage :=
  .tree (Posix.new (Path.ofText "/home".toList))

/-- The world outside, with the given number for whoever draws one. -/
def drawing (word : UInt32) : Outside :=
  fun request => (Reply.respond { Reply.calm with word } request Memory.new).1

def first (word : UInt32) : HallEvent := .resumeAllocator 0 (drawing word)

def second (word : UInt32) : HallEvent := .resumeAllocator 1 (drawing word)

def third (word : UInt32) : HallEvent := .resumeAllocator 2 (drawing word)

/-- Two allocations draw the same number, and the second one has to draw again.  The first task
is cleaned up, and a third allocation gets its id. -/
def events : List HallEvent :=
  [.allocate, .allocate, first 1, second 1, first 1, second 1, first 1, second 1, second 1,
    second 2, second 2, second 2, first 1,
    .cleanUp (Handle.attach (TaskId.ofWord 1) false)]
    ++ List.replicate 4 (.resumeCleanup 0 (drawing 0))
    ++ [.allocate] ++ List.replicate 4 (third 1)

end HallSample

open HallSample in
/-- While the first task stands nobody else gets its id; after its cleanup the id is given
again. -/
theorem Hall.run_never_shares_sample :
    let hall := (Hall.ofStorage files).run workspace events
    hall.allocators.map (fun allocator =>
        (allocator.rest.result?.bind Except.toOption, allocator.cleaned)) =
      [(some (TaskId.ofWord 1), true), (some (TaskId.ofWord 2), false),
        (some (TaskId.ofWord 1), false)] ∧
    ∀ allocator ∈ hall.allocators, allocator.rest = .done (.ok (TaskId.ofWord 1)) →
      allocator.cleaned = false →
      hall.storage.standing (workspace.controlDirectory (TaskId.ofWord 1)) =
        some .directory := by
  have admitted : ∀ event ∈ events, event.IsAdmitted := by decide
  refine ⟨by decide +kernel, ?_⟩
  intro allocator member ended
  exact ((Hall.run_never_shares workspace files events admitted).2.1 allocator member _
    ended).2

end DetachedTasks
