import DetachedTasks.Proofs.HandleRoundTrip
import DetachedTasks.Proofs.TaskTerritory
import DetachedTasks.Proofs.UndisturbedOperations
import DetachedTasks.Proofs.WorkspaceRuns

/-!
# Saved handles

The saved handles of all tasks stand side by side in one directory, between the control
directories.  Only saving and cleaning up change them, and each only the one of its own task:
launches, looks, copies of the log and whatever a child does leave them alone.  So what is
loaded is what was saved last, unless the task was cleaned up since.
-/

namespace DetachedTasks

/-! ## What is done and what is remembered of it -/

/-- What is remembered of an operation. -/
inductive Mark where
  /-- A handle was saved, with success. -/
  | saved (handle : Handle)
  /-- A task was launched, with success. -/
  | launched (script : TaskScript) (handle : Handle)
  | cleanedUp (id : Text)
  /-- Whatever else was done, or has failed. -/
  | aside
  deriving Repr, DecidableEq

namespace Mark

/-- The handle that was saved for a task. -/
def saved?
    (id : Text) : Mark → Option Handle
  | .saved handle => if handle.id = id then some handle else none
  | _ => none

/-- Whether a task was cleaned up. -/
def clears
    (id : Text) : Mark → Bool
  | .cleanedUp other => other = id
  | _ => false

end Mark

/-- The last handle that was saved for a task since it was cleaned up last. -/
def lastSaved?
    (id : Text)
    (marks : List Mark) : Option Handle :=
  (marks.reverse.takeWhile fun mark => !mark.clears id).findSome? (Mark.saved? id)

/-- Do an operation, and tell what is to be remembered of it. -/
def Operation.marked
    (workspace : Workspace) : Operation → Program Mark
  | .save handle =>
      (handle.save workspace).run.bind fun outcome =>
        .done (match outcome with
          | .ok () => .saved handle
          | .error _ => .aside)
  | .launch script launcher options =>
      (script.launch workspace launcher options).run.bind fun outcome =>
        .done (match outcome with
          | .ok handle => .launched script handle
          | .error _ => .aside)
  | .cleanup handle =>
      (handle.cleanup workspace).run.bind fun _ => .done (.cleanedUp handle.id)
  | operation => (operation.program workspace).bind fun _ => .done .aside

/-- Something that is done in a workspace. -/
inductive Dealing where
  | work (operation : Operation)
  /-- The child of a task does something to its files. -/
  | child (id : Text) (deed : Deed)

/-- Tasks have well-formed ids, and launchers do not touch files.  Whatever only reads may
have any id. -/
def Dealing.IsAdmitted : Dealing → Prop
  | .work (.save handle) => TaskId.isWellFormed handle.id = true
  | .work (.cleanup handle) => TaskId.isWellFormed handle.id = true
  | .work (.launch _ launcher _) => launcher.IsOutside
  | .work _ => True
  | .child id _ => TaskId.isWellFormed id = true

/-- The files of a workspace, the world outside, and what is remembered. -/
structure Books (World : Type) where
  memory : Memory
  world : World
  marks : List Mark

namespace Books

/-- Nothing is remembered yet. -/
def ofMemory
    (memory : Memory)
    (world : World) : Books World :=
  { memory, world, marks := [] }

/-- Deal once; an operation is done from its first request to its last. -/
def step
    (workspace : Workspace)
    (outside : Program.Handler World)
    (books : Books World) : Dealing → Books World
  | .work operation =>
      let ended :=
        (operation.marked workspace).run (Memory.respond outside) (books.memory, books.world)
      { memory := ended.2.1, world := ended.2.2, marks := books.marks ++ [ended.1] }
  | .child id deed =>
      { books with memory := deed.performIn (workspace.controlDirectory id) books.memory }

def run
    (workspace : Workspace)
    (outside : Program.Handler World)
    (books : Books World)
    (dealings : List Dealing) : Books World :=
  dealings.foldl (step workspace outside) books

/-- What a load answers now. -/
def load
    (workspace : Workspace)
    (outside : Program.Handler World)
    (books : Books World)
    (id : Text) : Except TaskFault Handle :=
  ((Handle.load workspace id).run.run (Memory.respond outside)
    (books.memory, books.world)).1

end Books

/-! ## The last saved handle -/

section LastSaved

variable {id : Text} {marks : List Mark}

/-- What was saved last is told from the end of the record. -/
theorem lastSaved?_concat
    (id : Text)
    (marks : List Mark)
    (mark : Mark) :
    lastSaved? id (marks ++ [mark]) =
      if mark.clears id then none else (mark.saved? id).or (lastSaved? id marks) := by
  rw [lastSaved?, List.reverse_append, List.reverse_singleton, List.singleton_append,
    List.takeWhile_cons]
  cases mark.clears id with
  | true => rfl
  | false =>
      simp only [Bool.not_false, if_true, Bool.false_eq_true, if_false, List.findSome?_cons]
      cases mark.saved? id with
      | none => rfl
      | some handle => rfl

/-- A mark tells of a save for an id if it is one. -/
theorem Mark.saved?_eq_some_iff
    {mark : Mark}
    {handle : Handle} :
    mark.saved? id = some handle ↔ mark = .saved handle ∧ handle.id = id := by
  cases mark with
  | saved other =>
      rw [saved?]
      split
      · rename_i same
        simp only [Option.some.injEq, Mark.saved.injEq]
        exact ⟨fun equal => ⟨equal, equal ▸ same⟩, And.left⟩
      · rename_i different
        simp only [reduceCtorEq, Mark.saved.injEq, false_iff, not_and]
        rintro rfl
        exact different
  | _ => simp [saved?]

/-- A mark clears an id if it is the cleanup of this id. -/
theorem Mark.clears_iff
    {mark : Mark} :
    mark.clears id = true ↔ mark = .cleanedUp id := by
  cases mark with
  | cleanedUp other => simp [clears]
  | _ => simp [clears]

/-- Where a task was saved and not cleaned up since, the last saved handle is one of those
that were saved since. -/
theorem lastSaved?_append
    {later : List Mark}
    (uncleared : .cleanedUp id ∉ later)
    {handle : Handle}
    (member : .saved handle ∈ later)
    (own : handle.id = id)
    (marks : List Mark) :
    ∃ last, lastSaved? id (marks ++ later) = some last ∧ .saved last ∈ later ∧
      last.id = id := by
  have kept : ∀ mark ∈ later.reverse, (!mark.clears id) = true := by
    intro mark isLater
    rw [Bool.not_eq_true', Bool.eq_false_iff, ne_eq, Mark.clears_iff]
    rintro rfl
    exact uncleared (List.mem_reverse.mp isLater)
  have found : (later.reverse.findSome? (Mark.saved? id)).isSome = true := by
    rw [List.findSome?_isSome_iff]
    refine ⟨_, List.mem_reverse.mpr member, ?_⟩
    rw [Mark.saved?_eq_some_iff.mpr ⟨rfl, own⟩]
    rfl
  obtain ⟨last, isLast⟩ := Option.isSome_iff_exists.mp found
  obtain ⟨mark, isLater, same⟩ := List.exists_of_findSome?_eq_some isLast
  obtain ⟨rfl, ownLast⟩ := Mark.saved?_eq_some_iff.mp same
  refine ⟨last, ?_, List.mem_reverse.mp isLater, ownLast⟩
  rw [lastSaved?, List.reverse_append, List.takeWhile_append_of_pos kept,
    List.findSome?_append, isLast]
  rfl

end LastSaved

/-! ## What stands at a saved handle -/

/-- What a file holds. -/
def Entry.content? : Entry → Option Bytes
  | .file content => some content
  | .directory => none

/-- What the saved handle of a task holds. -/
def Workspace.saved?
    (workspace : Workspace)
    (id : Text)
    (memory : Memory) : Option Bytes :=
  (memory.entries.lookup (workspace.placeOfHandle id)).bind Entry.content?

/-- How a handle is held by a file. -/
def Handle.written (handle : Handle) : Bytes :=
  Utf8.encode handle.toToml

section Places

variable {workspace : Workspace} {id other : Text} {memory : Memory}

/-- What is saved for an id is the file beside its control directory. -/
theorem Workspace.saved?_eq_some_iff
    (wellFormed : TaskId.isWellFormed id = true)
    {content : Bytes} :
    workspace.saved? id memory = some content ↔
      memory.entryAt (workspace.handleFile id) = some (.file content) := by
  rw [saved?, placeOfHandle, ← location_handleFile wellFormed, ← Memory.entryAt]
  cases memory.entryAt (workspace.handleFile id) with
  | none => simp
  | some entry =>
      cases entry with
      | directory => simp [Entry.content?]
      | file held => simp [Entry.content?]

/-- Whether a handle is saved is whether its file is there. -/
theorem Workspace.isFile_handleFile
    (wellFormed : TaskId.isWellFormed id = true) :
    memory.isFile (workspace.handleFile id) = (workspace.saved? id memory).isSome := by
  rw [saved?, placeOfHandle, ← location_handleFile wellFormed, ← Memory.entryAt,
    Memory.isFile]
  cases memory.entryAt (workspace.handleFile id) with
  | none => rfl
  | some entry =>
      cases entry with
      | directory => rfl
      | file held => rfl

/-- Two ids never share a saved handle. -/
theorem Workspace.placeOfHandle_ne
    (different : other ≠ id) :
    workspace.placeOfHandle other ≠ workspace.placeOfHandle id := by
  intro same
  rw [placeOfHandle, placeOfHandle, List.append_cancel_left_eq] at same
  injection same with sameName
  injection sameName with sameBytes
  exact different (List.append_cancel_right (Utf8.encode_injective sameBytes))

/-- The control directories lie beside the saved handles, also those of their own tasks. -/
theorem Workspace.placeOf_apart
    (wellFormed : TaskId.isWellFormed other = true)
    (id : Text)
    (rest : Location) :
    ¬ workspace.placeOf other ++ rest <+: workspace.placeOfHandle id ∧
      ¬ workspace.placeOfHandle id <+: workspace.placeOf other ++ rest := by
  rw [placeOf, placeOfHandle, List.append_assoc, List.prefix_append_right_inj,
    List.prefix_append_right_inj, List.singleton_append, List.cons_prefix_cons,
    List.cons_prefix_cons]
  have names : Component.name (Utf8.encode (id ++ ".toml".toList)) ≠
      .name (Utf8.encode other) := by
    intro same
    injection same with sameBytes
    exact TaskId.saved_ne wellFormed id sameBytes
  exact ⟨fun above => names above.1.symm, fun above => names above.1⟩

/-- To make a control directory spares all saved handles. -/
theorem FileCall.createDirectory_spares
    (wellFormed : TaskId.isWellFormed other = true)
    (id : Text) :
    (FileCall.createDirectory (workspace.controlDirectory other)).Spares
      (workspace.placeOfHandle id) := by
  obtain ⟨notAbove, notBelow⟩ := workspace.placeOf_apart wellFormed id []
  rw [List.append_nil, ← location_controlDirectory wellFormed] at notAbove notBelow
  exact spares_of_apart notAbove notBelow

/-- To write a file in a control directory spares all saved handles. -/
theorem FileCall.write_spares
    {handle : Handle}
    (wellFormed : TaskId.isWellFormed handle.id = true)
    {name : Text}
    (plain : Path.IsName (Utf8.encode name))
    (content : Bytes)
    (id : Text) :
    (FileCall.write (handle.file workspace name) content).Spares
      (workspace.placeOfHandle id) := by
  obtain ⟨notAbove, notBelow⟩ :=
    workspace.placeOf_apart wellFormed id [.name (Utf8.encode name)]
  rw [← Workspace.placeOfFile, ← location_file wellFormed plain] at notAbove notBelow
  exact spares_of_apart notAbove notBelow

end Places

/-! ## One operation -/

/-- To leave all saved handles alone. -/
def Terms.handlesKept (workspace : Workspace) : Terms where
  allowed := fun
    | .file call => ∀ id, call.Spares (workspace.placeOfHandle id)
    | _ => True
  fair := fun _ _ => True

/-- A launch that is remembered gave a handle on a task with a well-formed id, which captures
the output if the script says so. -/
def Mark.IsGenuine : Mark → Prop
  | .launched script handle =>
      TaskId.isWellFormed handle.id = true ∧
        handle = Handle.attach handle.id script.capturing
  | _ => True

/-- What is remembered of an operation accounts for all that it did to the saved handles. -/
structure Mark.Accounts
    (workspace : Workspace)
    (before after : Memory)
    (mark : Mark) : Prop where
  genuine : mark.IsGenuine
  saved : ∀ id, TaskId.isWellFormed id = true →
    workspace.saved? id after =
      if mark.clears id then none
      else ((mark.saved? id).map Handle.written).or (workspace.saved? id before)

section Operations

variable {workspace : Workspace} {memory : Memory} {other : Text}

/-- Looking at files, and whatever is outside of them, leaves the saved handles alone. -/
theorem Terms.handlesKept_serves
    (workspace : Workspace)
    (paths : List Path) :
    (Terms.handlesKept workspace).Serves paths where
  outside := by
    intro request outside
    cases request with
    | file call => exact False.elim outside
    | _ => trivial
  look := fun _ _ _ looks _ => FileCall.leaves_of_looksAt looks _ .handle

/-- What leaves all saved handles alone does so in any case. -/
theorem Program.Meets.secures_handles
    {promise : α → Prop}
    {program : Program α}
    (meets : program.Meets (Terms.handlesKept workspace) promise)
    (memory : Memory) :
    program.Secures
      (fun value after =>
        promise value ∧ ∀ id, workspace.saved? id after = workspace.saved? id memory)
      memory := by
  suffices general : ∀ before,
      (∀ id, workspace.saved? id before = workspace.saved? id memory) →
        program.Secures
          (fun value after =>
            promise value ∧ ∀ id, workspace.saved? id after = workspace.saved? id memory)
          before from general memory fun _ => rfl
  induction program with
  | done value => exact fun before same => ⟨meets, same⟩
  | ask request resume inductionHypothesis =>
      intro before same reply
      apply inductionHypothesis _ (meets.2 _ trivial)
      intro id
      rw [← same id]
      cases request with
      | file call =>
          rw [Workspace.saved?, Workspace.saved?]
          exact congrArg (Option.bind · Entry.content?) (before.lookup_answer (meets.1 id))
      | _ => rfl

/-- What changes no saved handle is accounted for by whatever says so. -/
theorem Mark.Accounts.of_same
    {mark : Mark}
    {after : Memory}
    (genuine : mark.IsGenuine)
    (uncleared : ∀ id, mark.clears id = false)
    (unsaved : ∀ id, mark.saved? id = none)
    (same : ∀ id, workspace.saved? id after = workspace.saved? id memory) :
    mark.Accounts workspace memory after := by
  refine ⟨genuine, ?_⟩
  intro id _
  rw [uncleared id, unsaved id]
  exact same id

/-- A launch answers with a handle on a task with a new id, which captures the output if the
script says so. -/
theorem launch_meets
    (script : TaskScript)
    {launcher : Launcher}
    (outside : launcher.IsOutside)
    (options : LaunchOptions) :
    (script.launch workspace launcher options).Meets (Terms.handlesKept workspace)
      fun handle => TaskId.isWellFormed handle.id = true ∧
        handle = Handle.attach handle.id script.capturing := by
  have serves := Terms.handlesKept_serves workspace []
  have allocates : workspace.allocate.Meets (Terms.handlesKept workspace)
      fun id => TaskId.isWellFormed id = true := by
    refine TaskProgram.Meets.bind (TaskProgram.Meets.call ?_) fun _ _ => ?_
    · exact fun id => FileCall.leaves_createDirectories _ .handle
    · apply serves.claim
      · exact fun word _ => FileCall.createDirectory_spares (TaskId.isWellFormed_ofWord word)
      · exact fun word _ _ => TaskId.isWellFormed_ofWord word
  refine serves.launch_attached allocates ?_ script outside options
  intro handle wellFormed name member content other
  exact FileCall.write_spares wellFormed (isName_of_mem_scripts name member) content other

/-- What is written to a saved handle changes this one only. -/
theorem Workspace.saved?_put_handleFile
    (wellFormed : TaskId.isWellFormed other = true)
    (content : Bytes)
    (memory : Memory)
    (id : Text) :
    workspace.saved? id (memory.put (workspace.handleFile other) (.file content)) =
      if other = id then some content else workspace.saved? id memory := by
  have place : (workspace.handleFile other).location = workspace.placeOfHandle other :=
    location_handleFile wellFormed
  rw [saved?, Memory.put, EntryMap.lookup_insert, place]
  by_cases same : other = id
  · subst same
    rw [if_pos rfl, if_pos rfl]
    rfl
  · rw [if_neg (placeOfHandle_ne same).symm, if_neg same]
    rfl

/-- A save writes the saved handle of its task, or does nothing. -/
theorem secures_save
    (handle : Handle)
    (memory : Memory) :
    (handle.save workspace).run.Secures
      (fun outcome after =>
        match outcome with
        | .ok () => after = memory.put (workspace.handleFile handle.id) (.file handle.written)
        | .error _ => after = memory)
      memory := by
  intro reply
  let call := FileCall.write (workspace.handleFile handle.id) handle.written
  show Program.Secures _
    (TaskProgram.fileAnswer (memory.answer call).1 >>= fun _ => TaskProgram.note .debug).run
    (memory.answer call).2
  cases outcome : memory.write (workspace.handleFile handle.id) handle.written with
  | error fault =>
      have answered : memory.answer call = (.error fault, memory) := by
        simp only [call, Memory.answer, outcome]
        rfl
      rw [answered]
      exact rfl
  | ok next =>
      obtain ⟨_, _, rfl⟩ := Memory.write_ok_iff.mp outcome
      have answered : memory.answer call =
          (.ok (), memory.put (workspace.handleFile handle.id) (.file handle.written)) := by
        simp only [call, Memory.answer, outcome]
        rfl
      rw [answered]
      exact fun _ => rfl

/-- Without anything from outside a control directory is removed with all that it holds. -/
theorem secures_removeDirectory
    (handle : Handle)
    (memory : Memory) :
    (handle.removeDirectory workspace).run.Secures
      (fun outcome after =>
        outcome = .ok () ∧ after = memory.withoutTree (handle.directory workspace)) memory := by
  intro _
  show (if memory.isDirectory (handle.directory workspace) then (do
        TaskProgram.removeTree (handle.directory workspace)
        TaskProgram.note .info)
      else TaskProgram.note .warn : TaskProgram Unit).run.Secures _ memory
  cases stands : memory.isDirectory (handle.directory workspace) with
  | true =>
      intro _
      let call := FileCall.removeTree (handle.directory workspace)
      show Program.Secures _
        (TaskProgram.fileAnswer (memory.answer call).1 >>= fun _ => TaskProgram.note .info).run
        (memory.answer call).2
      rw [Memory.answer_removeTree stands]
      exact fun _ => ⟨rfl, rfl⟩
  | false =>
      have same : memory.withoutTree (handle.directory workspace) = memory := by
        rw [Memory.withoutTree, stands]
        rfl
      rw [same]
      exact fun _ => ⟨rfl, rfl⟩

/-- A cleanup does not fail, and takes away the saved handle and the control directory,
whatever the world outside does. -/
theorem secures_cleanup
    (handle : Handle)
    (memory : Memory) :
    (handle.cleanup workspace).run.Secures
      (fun outcome after =>
        outcome = .ok () ∧
          after = (memory.withoutFile (workspace.handleFile handle.id)).withoutTree
            (handle.directory workspace))
      memory := by
  intro _
  show (if memory.isFile (workspace.handleFile handle.id) then (do
        TaskProgram.removeFile (workspace.handleFile handle.id)
        handle.removeDirectory workspace)
      else handle.removeDirectory workspace : TaskProgram Unit).run.Secures _ memory
  cases stands : memory.isFile (workspace.handleFile handle.id) with
  | true =>
      intro _
      let call := FileCall.removeFile (workspace.handleFile handle.id)
      show Program.Secures _
        (TaskProgram.fileAnswer (memory.answer call).1 >>= fun _ =>
          handle.removeDirectory workspace).run
        (memory.answer call).2
      rw [Memory.answer_removeFile stands]
      exact secures_removeDirectory handle _
  | false =>
      have same : memory.withoutFile (workspace.handleFile handle.id) = memory := by
        rw [Memory.withoutFile, stands]
        rfl
      rw [same]
      exact secures_removeDirectory handle memory

/-- The removal of a saved handle takes away this one and no other. -/
theorem Workspace.saved?_withoutFile
    (wellFormed : TaskId.isWellFormed other = true)
    (memory : Memory)
    (id : Text) :
    workspace.saved? id (memory.withoutFile (workspace.handleFile other)) =
      if other = id then none else workspace.saved? id memory := by
  have place : (workspace.handleFile other).location = workspace.placeOfHandle other :=
    location_handleFile wellFormed
  by_cases same : other = id
  · subst same
    rw [if_pos rfl, Memory.withoutFile]
    split
    · simp [saved?, place]
    · rename_i noFile
      rwa [isFile_handleFile wellFormed, Option.not_isSome_iff_eq_none] at noFile
  · rw [if_neg same, saved?, saved?, Memory.withoutFile]
    split
    · have different : ¬ workspace.placeOfHandle id = (workspace.handleFile other).location := by
        rw [place]
        exact (placeOfHandle_ne same).symm
      simp [different]
    · rfl

/-- The removal of a control directory takes away no saved handle. -/
theorem Workspace.saved?_withoutTree
    (wellFormed : TaskId.isWellFormed other = true)
    (memory : Memory)
    (id : Text) :
    workspace.saved? id (memory.withoutTree (workspace.controlDirectory other)) =
      workspace.saved? id memory := by
  rw [saved?, saved?, Memory.withoutTree]
  split
  · have apart := (workspace.placeOf_apart wellFormed id []).1
    rw [List.append_nil, ← location_controlDirectory wellFormed,
      ← List.isPrefixOf_iff_prefix, Bool.not_eq_true] at apart
    simp [apart]
  · rfl

/-- What is remembered of an operation accounts for it. -/
theorem Operation.secures_marked
    {operation : Operation}
    (admitted : Dealing.IsAdmitted (.work operation))
    (memory : Memory) :
    (operation.marked workspace).Secures
      (fun mark after => mark.Accounts workspace memory after) memory := by
  have serves := Terms.handlesKept_serves workspace
  have reads : ∀ {α : Type} {promise : α → Prop} {program : Program α},
      program.Meets (Terms.handlesKept workspace) promise →
        ((program.bind fun _ => .done ()).bind fun _ => .done Mark.aside).Secures
          (fun mark after => mark.Accounts workspace memory after) memory := by
    intro α promise program meets
    refine Program.Secures.bind (Program.Secures.bind ?_)
    refine (meets.secures_handles memory).weaken ?_
    rintro value after ⟨_, same⟩
    exact Mark.Accounts.of_same trivial (fun _ => rfl) (fun _ => rfl) same
  cases operation with
  | status handle => exact reads (serves _).status
  | copyLog handle => exact reads (serves _).copyLog
  | log handle => exact reads (serves _).log
  | output handle => exact reads (serves _).output
  | poll handle => exact reads (serves _).poll
  | load id => exact reads (serves _).load
  | save handle =>
      refine Program.Secures.bind ((secures_save handle memory).weaken ?_)
      intro outcome after saved
      cases outcome with
      | error fault =>
          subst saved
          exact Mark.Accounts.of_same trivial (fun _ => rfl) (fun _ => rfl) fun _ => rfl
      | ok done =>
          subst saved
          refine ⟨trivial, ?_⟩
          intro id _
          rw [Workspace.saved?_put_handleFile admitted]
          by_cases own : handle.id = id
          · simp [Mark.clears, Mark.saved?, own]
          · simp [Mark.clears, Mark.saved?, own]
  | launch script launcher options =>
      have launched : (script.launch workspace launcher options).Meets
          (Terms.handlesKept workspace) _ := launch_meets script admitted options
      refine Program.Secures.bind ((launched.secures_handles memory).weaken ?_)
      rintro outcome after ⟨genuine, same⟩
      cases outcome with
      | error fault => exact Mark.Accounts.of_same trivial (fun _ => rfl) (fun _ => rfl) same
      | ok handle =>
          exact Mark.Accounts.of_same (genuine handle rfl) (fun _ => rfl) (fun _ => rfl) same
  | cleanup handle =>
      refine Program.Secures.bind ((secures_cleanup handle memory).weaken ?_)
      rintro outcome after ⟨_, rfl⟩
      refine ⟨trivial, ?_⟩
      intro id _
      rw [Handle.directory, Workspace.saved?_withoutTree admitted,
        Workspace.saved?_withoutFile admitted]
      by_cases own : handle.id = id
      · simp [Mark.clears, own]
      · simp [Mark.clears, Mark.saved?, own]

end Operations

/-! ## Many dealings -/

section Dealings

variable {workspace : Workspace} {outside : Program.Handler World} {books : Books World}

/-- Every saved handle is the one that was saved last, and what is remembered is true. -/
structure Books.Agree
    (workspace : Workspace)
    (books : Books World) : Prop where
  saved : ∀ id, TaskId.isWellFormed id = true →
    workspace.saved? id books.memory = (lastSaved? id books.marks).map Handle.written
  genuine : ∀ mark ∈ books.marks, mark.IsGenuine

/-- Where no handle is saved yet there is nothing to remember. -/
theorem Books.Agree.of_unsaved
    {memory : Memory}
    (unsaved : ∀ id, TaskId.isWellFormed id = true →
      memory.isFile (workspace.handleFile id) = false)
    (world : World) :
    (Books.ofMemory memory world).Agree workspace := by
  refine ⟨?_, fun mark member => absurd member List.not_mem_nil⟩
  intro id wellFormed
  have noFile := unsaved id wellFormed
  rw [Workspace.isFile_handleFile wellFormed, Option.isSome_eq_false_iff,
    Option.isNone_iff_eq_none] at noFile
  exact noFile

/-- After each dealing the files still hold what the books say was saved last. -/
theorem Books.Agree.step
    (agree : books.Agree workspace)
    {dealing : Dealing}
    (admitted : dealing.IsAdmitted) :
    (books.step workspace outside dealing).Agree workspace := by
  cases dealing with
  | work operation =>
      have secures : (operation.marked workspace).Secures _ books.memory :=
        Operation.secures_marked admitted books.memory
      have accounts := secures.run outside books.world
      constructor
      · intro id wellFormed
        rw [Books.step, lastSaved?_concat, accounts.saved id wellFormed,
          agree.saved id wellFormed]
        split
        · rfl
        · exact Option.map_or.symm
      · intro mark member
        rcases List.mem_append.mp member with earlier | new
        · exact agree.genuine mark earlier
        · rw [List.mem_singleton.mp new]
          exact accounts.genuine
  | child other deed =>
      refine ⟨?_, agree.genuine⟩
      intro id wellFormed
      have plain := (Deed.isFileName_of_mem deed.fileName_mem).toIsName
      show workspace.saved? id (deed.performIn (workspace.controlDirectory other) books.memory) =
        (lastSaved? id books.marks).map Handle.written
      rw [← agree.saved id wellFormed, Deed.performIn, Workspace.saved?, Workspace.saved?,
        Memory.lookup_answer]
      have wellFormed : TaskId.isWellFormed (Handle.attach other false).id = true := admitted
      exact FileCall.write_spares wellFormed plain _ id

/-- Files and books agree throughout a run. -/
theorem Books.Agree.run
    (agree : books.Agree workspace)
    {dealings : List Dealing}
    (admitted : ∀ dealing ∈ dealings, dealing.IsAdmitted) :
    (books.run workspace outside dealings).Agree workspace := by
  induction dealings generalizing books with
  | nil => exact agree
  | cons dealing dealings inductionHypothesis =>
      apply inductionHypothesis
      · exact agree.step (admitted dealing List.mem_cons_self)
      · exact fun other member => admitted other (List.mem_cons_of_mem _ member)

/-- A load answers with the handle that was saved last, or else with a fresh one. -/
theorem Books.Agree.load
    (agree : books.Agree workspace)
    {id : Text}
    (wellFormed : TaskId.isWellFormed id = true)
    (outside : Program.Handler World) :
    books.load workspace outside id =
      .ok ((lastSaved? id books.marks).getD (Handle.attach id false)) := by
  let path := workspace.handleFile id
  have held := agree.saved id wellFormed
  have isFile : books.memory.isFile path = (workspace.saved? id books.memory).isSome :=
    Workspace.isFile_handleFile wellFormed
  rw [held] at isFile
  show ((if books.memory.isFile path then _ else _ : TaskProgram Handle).run.run
    (Memory.respond outside) (books.memory, books.world)).1 = _
  rw [isFile]
  cases last : lastSaved? id books.marks with
  | none => rfl
  | some handle =>
      rw [last] at held
      have text : books.memory.readText path = .ok handle.toToml :=
        Memory.readText_of_encode ((Workspace.saved?_eq_some_iff wellFormed).mp held)
      show ((TaskProgram.fileAnswer (books.memory.readText path) >>= _ :
        TaskProgram Handle).run.run (Memory.respond outside) (books.memory, books.world)).1 = _
      have answered : TaskProgram.fileAnswer (.ok handle.toToml) = pure handle.toToml := rfl
      rw [text, answered, pure_bind, Handle.ofToml_toToml]
      rfl

end Dealings

/-- Whatever is done in a workspace where nothing was saved yet, to load a handle is to get
the one that was saved last since the last cleanup of its task, or else a fresh one that does
not capture.  A task that was launched and saved is thus loaded with the capturing that it was
launched with, by whatever process, as long as that is what was saved for it. -/
theorem Books.load_eq_lastSaved
    (workspace : Workspace)
    (outside reader : Program.Handler World)
    (memory : Memory)
    (world : World)
    (unsaved : ∀ id, TaskId.isWellFormed id = true →
      memory.isFile (workspace.handleFile id) = false)
    (dealings : List Dealing)
    (admitted : ∀ dealing ∈ dealings, dealing.IsAdmitted) :
    let after := (Books.ofMemory memory world).run workspace outside dealings
    (∀ id, TaskId.isWellFormed id = true →
      after.load workspace reader id =
        .ok ((lastSaved? id after.marks).getD (Handle.attach id false))) ∧
    (∀ script handle earlier later,
      after.marks = earlier ++ .launched script handle :: later →
      .cleanedUp handle.id ∉ later →
      (∃ saved, .saved saved ∈ later ∧ saved.id = handle.id) →
      (∀ saved, .saved saved ∈ later → saved.id = handle.id →
        saved.capturing = handle.capturing) →
      ∃ loaded, after.load workspace reader handle.id = .ok loaded ∧
        loaded.id = handle.id ∧ loaded.capturing = script.capturing) := by
  intro after
  have agree : after.Agree workspace := (Books.Agree.of_unsaved unsaved world).run admitted
  refine ⟨fun id wellFormed => agree.load wellFormed reader, ?_⟩
  rintro script handle earlier later shape uncleared ⟨saved, member, own⟩ flags
  obtain ⟨wellFormed, attached⟩ : Mark.IsGenuine (.launched script handle) :=
    agree.genuine _ (by simp [shape])
  have notCleared : .cleanedUp handle.id ∉ Mark.launched script handle :: later := by
    simpa using uncleared
  obtain ⟨last, isLast, isSaved, ownLast⟩ :=
    lastSaved?_append notCleared (List.mem_cons_of_mem _ member) own earlier
  rw [← shape] at isLast
  refine ⟨last, ?_, ownLast, ?_⟩
  · rw [agree.load wellFormed reader, isLast]
    rfl
  · have flag := flags last ((List.mem_cons.mp isSaved).resolve_left nofun) ownLast
    rw [flag, attached]
    rfl

namespace SavedHandlesSample

def workspace : Workspace :=
  ⟨Path.ofText "/w".toList⟩

/-- The world gives away one word after another. -/
def outside : Program.Handler UInt32 := fun request words =>
  (({ Reply.calm with word := words }.respond request Memory.new).1,
    if request = .freshWord then words + 1 else words)

def script : TaskScript where
  body := "exit 1".toList
  capturing := true

def first : Handle :=
  Handle.attach (TaskId.ofWord 1) true

def second : Handle :=
  Handle.attach (TaskId.ofWord 2) true

/-- Two tasks are launched and saved.  The handle on the first one is saved again when some
of the log was copied; the second task is cleaned up. -/
def dealings : List Dealing :=
  [.work (.launch script Launcher.handOver LaunchOptions.default),
    .work (.save first),
    .work (.launch script Launcher.handOver LaunchOptions.default),
    .work (.save second),
    .child first.id (.log [0x61, 0x62, 0x0A]),
    .work (.copyLog first),
    .work (.save { first with logOffset := 3 }),
    .work (.poll second),
    .work (.cleanup second),
    .work (.load first.id)]

/-- What is to be remembered of that. -/
def remembered : List Mark :=
  [.launched script first, .saved first, .launched script second, .saved second, .aside,
    .saved { first with logOffset := 3 }, .aside, .cleanedUp second.id, .aside]

/-- Nothing is saved in an empty memory. -/
theorem unsaved
    (id : Text)
    (wellFormed : TaskId.isWellFormed id = true) :
    Memory.new.isFile (workspace.handleFile id) = false := by
  have notRoot : workspace.placeOfHandle id ≠ [.root] := by
    intro same
    have lengths := congrArg List.length same
    simp [Workspace.placeOfHandle, show workspace.tasksDirectory.location.length = 2 by decide]
      at lengths
  rw [Workspace.isFile_handleFile wellFormed, Workspace.saved?, Memory.new,
    EntryMap.lookup_insert, if_neg notRoot, EntryMap.lookup_empty]
  rfl

/-- Every dealing of the sample is admitted. -/
theorem admitted : ∀ dealing ∈ dealings, dealing.IsAdmitted := by
  have firstWellFormed : TaskId.isWellFormed first.id = true := by decide
  have secondWellFormed : TaskId.isWellFormed second.id = true := by decide
  simp only [dealings, List.forall_mem_cons, List.not_mem_nil, false_implies, implies_true,
    and_true]
  exact ⟨Launcher.handOver_isOutside, firstWellFormed, Launcher.handOver_isOutside,
    secondWellFormed, firstWellFormed, trivial, firstWellFormed, trivial, secondWellFormed,
    trivial⟩

end SavedHandlesSample

open SavedHandlesSample in
/-- A task that was saved twice is loaded as it was saved last, and one that was cleaned up as a
fresh handle. -/
theorem Books.load_eq_lastSaved_sample :
    let after := (Books.ofMemory Memory.new 1).run workspace outside dealings
    after.marks = remembered ∧
      after.load workspace outside first.id = .ok { first with logOffset := 3 } ∧
      after.load workspace outside second.id = .ok (Handle.attach second.id false) ∧
      ∃ loaded, after.load workspace outside first.id = .ok loaded ∧
        loaded.id = first.id ∧ loaded.capturing = script.capturing := by
  intro after
  have isMarks : after.marks = remembered := by decide +kernel
  obtain ⟨loads, captures⟩ :=
    Books.load_eq_lastSaved workspace outside outside Memory.new 1 unsaved dealings admitted
  refine ⟨isMarks, ?_, ?_, ?_⟩
  · have last : lastSaved? first.id remembered = some { first with logOffset := 3 } := by decide
    rw [loads first.id (by decide), isMarks, last]
    rfl
  · have last : lastSaved? second.id remembered = none := by decide
    rw [loads second.id (by decide), isMarks, last]
    rfl
  · refine captures script first [] remembered.tail isMarks ?_ ?_ ?_
    · decide
    · exact ⟨first, by decide, rfl⟩
    · intro saved member own
      simp only [remembered, List.tail_cons, List.mem_cons, reduceCtorEq, Mark.saved.injEq,
        List.not_mem_nil, false_or, or_false] at member
      rcases member with rfl | rfl | rfl
      · rfl
      · exact absurd own (by decide)
      · rfl

end DetachedTasks
