import DetachedTasks.Proofs.TaskTerritory
import DetachedTasks.Proofs.WorkspaceRuns

/-!
# Tasks do not interfere

Operations on other tasks and launches work on the files of a workspace, one request at a
time and in any order.  None of them changes anything that belongs to a task, as long as no
launch claims its id; a launch that only tries the id and finds it taken does no harm.  What
a task answers is decided by what belongs to it, so its answers stay as they were.
-/

namespace DetachedTasks

/-! ## What is done -/

/-- Something that is done in a workspace. -/
inductive Chore where
  | work (operation : Operation)
  /-- Write the scripts of a task. -/
  | writeFiles (script : TaskScript) (handle : Handle) (interpreter : Interpreter)

namespace Chore

def program
    (workspace : Workspace) : Chore → Program Unit
  | .work operation => operation.program workspace
  | .writeFiles script handle interpreter =>
      (script.writeFiles workspace handle interpreter).run.bind fun _ => .done ()

/-- The task that a chore is about.  A launch is about one that has no id yet. -/
def task? : Chore → Option Text
  | .work (.status handle) => some handle.id
  | .work (.copyLog handle) => some handle.id
  | .work (.log handle) => some handle.id
  | .work (.output handle) => some handle.id
  | .work (.poll handle) => some handle.id
  | .work (.save handle) => some handle.id
  | .work (.load id) => some id
  | .work (.launch _ _ _) => none
  | .work (.cleanup handle) => some handle.id
  | .writeFiles _ handle _ => some handle.id

/-- A chore about another task, or a launch whose launcher does not touch files. -/
structure IsApart
    (id : Text)
    (chore : Chore) : Prop where
  other : ∀ other, chore.task? = some other →
    TaskId.isWellFormed other = true ∧ other ≠ id
  outside : ∀ script launcher options,
    chore = .work (.launch script launcher options) → launcher.IsOutside

end Chore

/-- What happens among the tasks of a workspace. -/
inductive Errand where
  /-- A chore begins. -/
  | begin (chore : Chore)
  /-- A chore goes on with its next request. -/
  | resume (index : Nat) (reply : Reply)

def Errand.IsApart (id : Text) : Errand → Prop
  | .begin chore => chore.IsApart id
  | .resume _ _ => True

/-- The directory that the next request of a program makes, if it makes exactly one. -/
def Program.claims?
    (memory : Memory) : Program α → Option Path
  | .ask (.file (.createDirectory path)) _ =>
      match (memory.answer (.createDirectory path)).1 with
      | .ok true => some path
      | _ => none
  | _ => none

/-- The files of a workspace and what is going on there. -/
structure Grounds where
  memory : Memory
  /-- What is left of the chores that were begun. -/
  running : List (Program Unit)
  /-- The directories that were claimed, last one first. -/
  claimed : List Path

namespace Grounds

/-- Nothing is going on. -/
def ofMemory (memory : Memory) : Grounds :=
  { memory, running := [], claimed := [] }

def step
    (workspace : Workspace)
    (grounds : Grounds) : Errand → Grounds
  | .begin chore =>
      { grounds with running := grounds.running ++ [chore.program workspace] }
  | .resume index reply =>
      match grounds.running[index]? with
      | none => grounds
      | some program =>
          let (rest, memory) := program.next reply grounds.memory
          { memory
            running := grounds.running.set index rest
            claimed := (program.claims? grounds.memory).toList ++ grounds.claimed }

def run
    (workspace : Workspace)
    (grounds : Grounds)
    (errands : List Errand) : Grounds :=
  errands.foldl (step workspace) grounds

end Grounds

/-! ## What belongs to a task stays -/

/-- To leave alone whatever belongs to a task, whose id may be tried but not claimed. -/
def Terms.apart
    (workspace : Workspace)
    (id : Text) : Terms where
  allowed := fun
    | .file call =>
        call = .createDirectory (workspace.controlDirectory id) ∨ call.Leaves workspace id
    | _ => True
  fair := fun
    | .file (.createDirectory path), answer =>
        path = workspace.controlDirectory id → answer ≠ .ok true
    | _, _ => True

section Stays

variable {workspace : Workspace} {id : Text} {memory : Memory}

/-- Whoever looks stays apart from the task. -/
theorem Terms.apart_serves
    (workspace : Workspace)
    (id : Text)
    (paths : List Path) :
    (Terms.apart workspace id).Serves paths where
  outside := by
    intro request outside
    cases request with
    | file call => exact False.elim outside
    | _ => trivial
  look := fun _ _ _ looks => Or.inr (FileCall.leaves_of_looksAt looks)

/-- The scripts of another task are written apart from this one. -/
theorem apart_writes
    (wellFormed : TaskId.isWellFormed id = true)
    {handle : Handle}
    (other : TaskId.isWellFormed handle.id = true ∧ handle.id ≠ id) :
    ∀ name ∈ [Handle.helperName, Handle.scriptName, Handle.wrapperName], ∀ content,
      (Terms.apart workspace id).allowed
        (.file (.write (handle.file workspace name) content)) := by
  intro name member content
  refine Or.inr (FileCall.leaves_of_owns wellFormed other.1 other.2 ?_)
  exact Workspace.owns_file other.1 (isName_of_mem_scripts name member)

/-- A launch claims a well-formed id, and not the one that is not to be claimed. -/
theorem apart_allocate
    (wellFormed : TaskId.isWellFormed id = true) :
    workspace.allocate.Meets (Terms.apart workspace id) fun other =>
      TaskId.isWellFormed other = true ∧ other ≠ id := by
  refine TaskProgram.Meets.bind
    (TaskProgram.Meets.call (Or.inr FileCall.leaves_createDirectories)) fun _ _ => ?_
  apply (Terms.apart_serves workspace id []).claim
  · intro word _
    by_cases same : TaskId.ofWord word = id
    · subst same
      exact Or.inl rfl
    · have otherWellFormed := TaskId.isWellFormed_ofWord word
      refine Or.inr (FileCall.leaves_of_owns wellFormed otherWellFormed same ?_)
      exact Workspace.owns_controlDirectory otherWellFormed
  · intro word _ unclaimed
    refine ⟨TaskId.isWellFormed_ofWord word, ?_⟩
    intro same
    exact unclaimed (congrArg workspace.controlDirectory same) rfl

/-- Every chore of someone else stays apart from the task. -/
theorem Chore.program_meets
    (wellFormed : TaskId.isWellFormed id = true)
    {chore : Chore}
    (apart : chore.IsApart id) :
    (chore.program workspace).Meets (Terms.apart workspace id) fun _ => True := by
  have serves := Terms.apart_serves workspace id
  cases chore with
  | writeFiles script handle interpreter =>
      have other := apart.other handle.id rfl
      exact Program.Meets.bind
        ((serves []).writeFiles (apart_writes wellFormed other) script interpreter)
        fun _ _ => trivial
  | work operation =>
      cases operation with
      | status handle => exact Program.Meets.bind (serves _).status fun _ _ => trivial
      | copyLog handle => exact Program.Meets.bind (serves _).copyLog fun _ _ => trivial
      | log handle => exact Program.Meets.bind (serves _).log fun _ _ => trivial
      | output handle => exact Program.Meets.bind (serves _).output fun _ _ => trivial
      | poll handle => exact Program.Meets.bind (serves _).poll fun _ _ => trivial
      | load other => exact Program.Meets.bind (serves _).load fun _ _ => trivial
      | save handle =>
          obtain ⟨otherWellFormed, different⟩ := apart.other handle.id rfl
          have owned : workspace.Owns handle.id (workspace.handleFile handle.id).location :=
            Workspace.owns_handleFile otherWellFormed
          refine Program.Meets.bind ((serves []).save ?_) fun _ _ => trivial
          exact Or.inr (FileCall.leaves_of_owns wellFormed otherWellFormed different owned)
      | launch script launcher options =>
          refine Program.Meets.bind
            ((serves []).launch (apart_allocate wellFormed) ?_ script
              (apart.outside _ _ _ rfl) options) fun _ _ => trivial
          intro handle promised
          exact apart_writes wellFormed promised
      | cleanup handle =>
          obtain ⟨otherWellFormed, different⟩ := apart.other handle.id rfl
          have saved : workspace.Owns handle.id (workspace.handleFile handle.id).location :=
            Workspace.owns_handleFile otherWellFormed
          have directory : workspace.Owns handle.id (handle.directory workspace).location :=
            Workspace.owns_controlDirectory otherWellFormed
          refine Program.Meets.bind ((serves _).cleanup ?_ ?_) fun _ _ => trivial
          · exact Or.inr (FileCall.leaves_of_owns wellFormed otherWellFormed different saved)
          · exact Or.inr
              (FileCall.leaves_of_owns wellFormed otherWellFormed different directory)

/-- A call that does not make the directory leaves everything as it is. -/
theorem Memory.answer_createDirectory_of_not_made
    {path : Path}
    (notMade : (memory.answer (.createDirectory path)).1 ≠ .ok true) :
    (memory.answer (.createDirectory path)).2 = memory := by
  cases answered : (memory.answer (.createDirectory path)).1 with
  | ok made =>
      rcases createDirectory_ok answered with ⟨isMade, _, _⟩ | ⟨_, same⟩
      · subst isMade
        exact absurd answered notMade
      · exact same
  | error fault =>
      rw [answer] at answered ⊢
      cases outcome : memory.createDirectory path with
      | ok pair =>
          rw [outcome] at answered
          cases answered
      | error cause => rfl

theorem Program.claims?_createDirectory
    {path : Path}
    {resume : Except FileFault Bool → Program α}
    (made : (memory.answer (.createDirectory path)).1 = .ok true) :
    (Program.ask (.file (.createDirectory path)) resume).claims? memory = some path := by
  rw [claims?, made]

/-- One request of a chore that is apart changes nothing that belongs to the task, and what
is left of the chore is apart too. -/
theorem Program.Meets.next_apart
    {program : Program Unit}
    (meets : program.Meets (Terms.apart workspace id) fun _ => True)
    (unclaimed : program.claims? memory ≠ some (workspace.controlDirectory id))
    (reply : Reply) :
    (∀ place, workspace.Owns id place →
        (program.next reply memory).2.entries.lookup place = memory.entries.lookup place) ∧
      (program.next reply memory).1.Meets (Terms.apart workspace id) fun _ => True := by
  cases program with
  | done value => exact ⟨fun _ _ => rfl, meets⟩
  | ask request resume =>
      cases request with
      | file call =>
          have notMade :
              call = .createDirectory (workspace.controlDirectory id) →
                (memory.answer (.createDirectory (workspace.controlDirectory id))).1 ≠
                  .ok true := by
            rintro rfl made
            exact unclaimed (claims?_createDirectory made)
          constructor
          · intro place owns
            rcases meets.1 with tried | leaves
            · subst tried
              have same := Memory.answer_createDirectory_of_not_made (notMade rfl)
              exact congrArg (·.entries.lookup place) same
            · exact memory.lookup_answer (leaves place owns)
          · apply meets.2
            cases call with
            | createDirectory path =>
                rintro rfl
                exact notMade rfl
            | _ => trivial
      | _ => exact ⟨fun _ _ => rfl, meets.2 _ trivial⟩

/-- What belongs to the task is as it was, and whatever goes on is apart. -/
structure Grounds.Leaves
    (workspace : Workspace)
    (id : Text)
    (memory : Memory)
    (grounds : Grounds) : Prop where
  same : ∀ place, workspace.Owns id place →
    grounds.memory.entries.lookup place = memory.entries.lookup place
  apart : ∀ program ∈ grounds.running,
    program.Meets (Terms.apart workspace id) fun _ => True

/-- What was claimed once stays on the list. -/
theorem Grounds.claimed_step
    (workspace : Workspace)
    (grounds : Grounds)
    (errand : Errand)
    {path : Path}
    (member : path ∈ grounds.claimed) :
    path ∈ (grounds.step workspace errand).claimed := by
  cases errand with
  | begin chore => exact member
  | resume index reply =>
      rw [step]
      cases grounds.running[index]? with
      | none => exact member
      | some program => exact List.mem_append_right _ member

/-- What was claimed once stays on record. -/
theorem Grounds.claimed_run
    (workspace : Workspace)
    (grounds : Grounds)
    (errands : List Errand)
    {path : Path}
    (member : path ∈ grounds.claimed) :
    path ∈ (grounds.run workspace errands).claimed := by
  induction errands generalizing grounds with
  | nil => exact member
  | cons errand errands inductionHypothesis =>
      exact inductionHypothesis _ (grounds.claimed_step workspace errand member)

/-- No errand of someone else touches the task, unless it claims its directory. -/
theorem Grounds.Leaves.step
    (wellFormed : TaskId.isWellFormed id = true)
    {grounds : Grounds}
    (leaves : grounds.Leaves workspace id memory)
    {errand : Errand}
    (apart : errand.IsApart id)
    (unclaimed :
      workspace.controlDirectory id ∉ (grounds.step workspace errand).claimed) :
    (grounds.step workspace errand).Leaves workspace id memory := by
  cases errand with
  | begin chore =>
      refine ⟨leaves.same, ?_⟩
      intro program member
      rcases List.mem_append.mp member with earlier | new
      · exact leaves.apart program earlier
      · rw [List.mem_singleton.mp new]
        exact chore.program_meets wellFormed apart
  | resume index reply =>
      rw [Grounds.step] at unclaimed ⊢
      cases found : grounds.running[index]? with
      | none => exact leaves
      | some program =>
          rw [found] at unclaimed
          have notClaimed :
              program.claims? grounds.memory ≠ some (workspace.controlDirectory id) := by
            intro claims
            apply unclaimed
            simp [claims]
          have meets := leaves.apart program (List.mem_of_getElem? found)
          obtain ⟨same, rest⟩ := meets.next_apart notClaimed reply
          constructor
          · intro place owns
            exact (same place owns).trans (leaves.same place owns)
          · intro other member
            rcases List.mem_or_eq_of_mem_set member with old | new
            · exact leaves.apart other old
            · subst new
              exact rest

/-- No run of errands touches the task, unless one of them claims its directory. -/
theorem Grounds.Leaves.run
    (wellFormed : TaskId.isWellFormed id = true)
    {grounds : Grounds}
    (leaves : grounds.Leaves workspace id memory)
    {errands : List Errand}
    (apart : ∀ errand ∈ errands, errand.IsApart id)
    (unclaimed :
      workspace.controlDirectory id ∉ (grounds.run workspace errands).claimed) :
    (grounds.run workspace errands).Leaves workspace id memory := by
  induction errands generalizing grounds with
  | nil => exact leaves
  | cons errand errands inductionHypothesis =>
      have unclaimedFirst :
          workspace.controlDirectory id ∉ (grounds.step workspace errand).claimed :=
        fun member => unclaimed (claimed_run workspace _ errands member)
      apply inductionHypothesis
      · exact leaves.step wellFormed (apart errand List.mem_cons_self) unclaimedFirst
      · exact fun other member => apart other (List.mem_cons_of_mem _ member)
      · exact unclaimed

end Stays

/-! ## What a task answers stays -/

/-- A program asks and answers the same on two states of the files, request for request. -/
def Program.SameAnswers
    (program : Program α)
    (before after : Memory) : Prop :=
  ∀ replies, (program.proceed before replies).1 = (program.proceed after replies).1

/-- To look at nothing but what belongs to a task. -/
def Terms.visiting
    (workspace : Workspace)
    (id : Text) : Terms where
  allowed := fun
    | .file call => ∃ path, call.LooksAt path ∧ workspace.Owns id path.location
    | _ => True
  fair := fun _ _ => True

section Answers

variable {workspace : Workspace} {id : Text} {before after : Memory}

/-- A look is answered by what stands at its path, and leaves it as it is. -/
theorem Memory.answer_of_looksAt
    {call : FileCall}
    {path : Path}
    (looks : call.LooksAt path)
    (same : after.entryAt path = before.entryAt path) :
    (before.answer call).2 = before ∧ (after.answer call).2 = after ∧
      (before.answer call).1 = (after.answer call).1 := by
  cases call with
  | readText other =>
      subst looks
      simp only [answer, readText, read, same, and_self]
  | read other =>
      subst looks
      simp only [answer, read, same, and_self]
  | readFrom other offset =>
      subst looks
      simp only [answer, readFrom, read, same, and_self]
  | «exists» other =>
      subst looks
      simp only [answer, same, and_self]
  | isFile other =>
      subst looks
      simp only [answer, isFile, same, and_self]
  | isDirectory other =>
      subst looks
      simp only [answer, isDirectory, same, and_self]
  | _ => exact False.elim looks

/-- Whoever looks only at what belongs to a task sees no difference elsewhere. -/
theorem Program.Meets.sameAnswers
    (same : ∀ place, workspace.Owns id place →
      after.entries.lookup place = before.entries.lookup place)
    {promise : α → Prop}
    {program : Program α}
    (meets : program.Meets (Terms.visiting workspace id) promise) :
    program.SameAnswers before after := by
  intro replies
  induction replies generalizing program with
  | nil => rfl
  | cons reply replies inductionHypothesis =>
      cases program with
      | done value => exact inductionHypothesis meets
      | ask request resume =>
          rw [Program.proceed, Program.proceed, Program.next, Program.next]
          cases request with
          | file call =>
              obtain ⟨path, looks, owned⟩ := meets.1
              obtain ⟨stays, staysAfter, answers⟩ :=
                Memory.answer_of_looksAt looks (same _ owned)
              simp only [Reply.respond, stays, staysAfter, answers]
              exact inductionHypothesis (meets.2 _ trivial)
          | _ => exact inductionHypothesis (meets.2 _ trivial)

theorem Terms.visiting_serves
    {handle : Handle}
    (wellFormed : TaskId.isWellFormed handle.id = true) :
    (Terms.visiting workspace handle.id).Serves (handle.watched workspace) where
  outside := by
    intro request outside
    cases request with
    | file call => exact False.elim outside
    | _ => trivial
  look := by
    intro path member call looks
    refine ⟨path, looks, ?_⟩
    have files : ∀ name ∈ Deed.fileNames,
        workspace.Owns handle.id (handle.file workspace name).location :=
      fun name isFile =>
        Workspace.owns_file wellFormed (Deed.isFileName_of_mem isFile).toIsName
    simp only [Handle.watched, List.mem_cons, List.not_mem_nil, or_false] at member
    rcases member with rfl | rfl | rfl | rfl | rfl
    · exact Workspace.owns_controlDirectory wellFormed
    · exact files _ Deed.resultName_mem
    · exact files _ Deed.logName_mem
    · exact files _ Deed.outputName_mem
    · exact Workspace.owns_handleFile wellFormed

end Answers

/-! ## Independence -/

/-- Whatever is done with other tasks, and whatever is launched under other ids, a task keeps
its control directory with all that is below it and its saved handle, and it answers as
before. -/
theorem Grounds.run_leaves_task
    (workspace : Workspace)
    (id : Text)
    (wellFormed : TaskId.isWellFormed id = true)
    (memory : Memory)
    (errands : List Errand)
    (apart : ∀ errand ∈ errands, errand.IsApart id)
    (unclaimed : workspace.controlDirectory id ∉
      ((Grounds.ofMemory memory).run workspace errands).claimed) :
    let after := ((Grounds.ofMemory memory).run workspace errands).memory
    (∀ path : Path, path.isWithin (workspace.controlDirectory id) = true ∨
        path.SamePlace (workspace.handleFile id) →
      after.entryAt path = memory.entryAt path) ∧
    (∀ handle : Handle, handle.id = id →
      (handle.status workspace).run.SameAnswers memory after ∧
      (handle.copyLog workspace).run.SameAnswers memory after ∧
      (handle.log workspace).run.SameAnswers memory after ∧
      (handle.output workspace).run.SameAnswers memory after) ∧
    (Handle.load workspace id).run.SameAnswers memory after := by
  have start : (Grounds.ofMemory memory).Leaves workspace id memory :=
    ⟨fun _ _ => rfl, fun _ member => absurd member List.not_mem_nil⟩
  have same := (start.run wellFormed apart unclaimed).same
  refine ⟨?_, ?_, ?_⟩
  · rintro path (within | saved)
    · obtain ⟨below, shape⟩ := Path.isWithin_iff.mp within
      apply same
      rw [shape, location_controlDirectory wellFormed]
      exact .below below
    · apply same
      rw [saved]
      exact Workspace.owns_handleFile wellFormed
  · rintro handle rfl
    have serves : (Terms.visiting workspace handle.id).Serves (handle.watched workspace) :=
      Terms.visiting_serves wellFormed
    exact ⟨Program.Meets.sameAnswers same serves.status,
      Program.Meets.sameAnswers same serves.copyLog,
      Program.Meets.sameAnswers same serves.log,
      Program.Meets.sameAnswers same serves.output⟩
  · have serves :
        (Terms.visiting workspace (Handle.attach id false).id).Serves
          ((Handle.attach id false).watched workspace) :=
      Terms.visiting_serves wellFormed
    have reads : (Terms.visiting workspace id).Serves [workspace.handleFile id] := by
      refine ⟨serves.outside, ?_⟩
      intro path member
      rw [List.mem_singleton.mp member]
      exact serves.look _ (by simp [Handle.watched, Handle.attach])
    exact Program.Meets.sameAnswers same reads.load

namespace IndependenceSample

def workspace : Workspace :=
  ⟨Path.ofText "/w".toList⟩

/-- A task that has ended and whose handle was saved. -/
def ended : Handle :=
  Handle.attach (TaskId.ofWord 1) false

def other : Handle :=
  Handle.attach (TaskId.ofWord 2) true

def script : TaskScript where
  body := "exit 1".toList
  capturing := true

def files : Memory :=
  (Memory.new.addFile (ended.resultFile workspace) (ResultText.ofExitCode (-3))).addFile
    (workspace.handleFile ended.id) (Utf8.encode ended.toToml)

/-- Another task is launched, which tries the id of the first one before it finds its own;
it is saved, its scripts are written again, and it is cleaned up. -/
def errands : List Errand :=
  [Errand.begin (.work (.launch script Launcher.handOver LaunchOptions.default))]
    ++ List.replicate 4 (Errand.resume 0 { Reply.calm with word := 1 })
    ++ List.replicate 9 (Errand.resume 0 { Reply.calm with word := 2 })
    ++ [Errand.begin (.work (.save other))] ++ List.replicate 2 (Errand.resume 1 Reply.calm)
    ++ [Errand.begin (.writeFiles script other Platform.windows.interpreter)]
    ++ List.replicate 4 (Errand.resume 2 Reply.calm)
    ++ [Errand.begin (.work (.cleanup other))] ++ List.replicate 5 (Errand.resume 3 Reply.calm)

theorem apart : ∀ errand ∈ errands, errand.IsApart ended.id := by
  have isOther :
      TaskId.isWellFormed other.id = true ∧ other.id ≠ ended.id := by decide
  have aboutOther : ∀ chore : Chore, chore.task? = some other.id →
      (∀ script launcher options, chore ≠ .work (.launch script launcher options)) →
      chore.IsApart ended.id := by
    intro chore about noLaunch
    constructor
    · intro id same
      rw [about] at same
      cases same
      exact isOther
    · intro script launcher options same
      exact absurd same (noLaunch script launcher options)
  intro errand member
  simp only [errands, List.mem_append, List.mem_cons, List.mem_replicate,
    List.not_mem_nil, or_false] at member
  rcases member with ((((((((rfl | ⟨-, rfl⟩) | ⟨-, rfl⟩) | rfl) | ⟨-, rfl⟩) | rfl) |
    ⟨-, rfl⟩) | rfl) | ⟨-, rfl⟩)
  · constructor
    · intro id impossible
      cases impossible
    · intro script launcher options same
      cases same
      exact Launcher.handOver_isOutside
  · trivial
  · trivial
  · exact aboutOther _ rfl fun _ _ _ => by simp
  · trivial
  · exact aboutOther _ rfl fun _ _ _ => by simp
  · trivial
  · exact aboutOther _ rfl fun _ _ _ => by simp
  · trivial

end IndependenceSample

open IndependenceSample in
/-- Beside a task that has ended another one is launched, written again and cleaned up. -/
theorem Grounds.run_leaves_task_sample :
    let after := ((Grounds.ofMemory files).run workspace errands)
    after.claimed = [workspace.controlDirectory other.id] ∧
      after.memory.entryAt (workspace.controlDirectory other.id) = none ∧
      after.memory.entryAt (ended.resultFile workspace) =
        some (.file (ResultText.ofExitCode (-3))) ∧
      (ended.status workspace).run.SameAnswers files after.memory := by
  have claimed :
      ((Grounds.ofMemory files).run workspace errands).claimed =
        [workspace.controlDirectory other.id] := by decide +kernel
  have unclaimed : workspace.controlDirectory ended.id ∉
      ((Grounds.ofMemory files).run workspace errands).claimed := by
    rw [claimed]
    decide
  obtain ⟨stays, answers, _⟩ :=
    Grounds.run_leaves_task workspace ended.id (by decide) files errands apart unclaimed
  refine ⟨claimed, by decide +kernel, ?_, (answers ended rfl).1⟩
  exact (stays (ended.resultFile workspace) (Or.inl (by decide))).trans (by decide)

end DetachedTasks
