import DetachedTasks.Proofs.PlacedScripts
import DetachedTasks.Proofs.SandboxRuns

/-!
# Launching is all or nothing

A launch claims a control directory, writes three files into it and gives one order.  If it
answers with a handle, the directory holds these three files and nothing else, and the one
order was taken.  If it ends with a fault, either no order was given, or the one that was
given is what failed, and the directory holds no more than the first of the three files.
Everything outside that directory stays as it was, but for the directory of all tasks and
what lies on the way to it, which are made if they are missing.
-/

namespace DetachedTasks

open Sandbox (Storage World)

/-! ## What a launch does -/

section Steps

variable {supply : Nat → UInt32} {world : World} {storage : Storage}
  {orders : List LaunchOrder} {made : List Path} {workspace : Workspace}

/-- Why no control directory could be claimed. -/
def Workspace.Unclaimable
    (workspace : Workspace)
    (fault : TaskFault) : Prop :=
  fault = .noFreeName workspace.tasksDirectory ∨ ∃ cause, fault = .files cause

/-- A directory with a new id was made, or none at all. -/
def Workspace.Claimed
    (workspace : Workspace)
    (storage : Storage)
    (orders : List LaunchOrder)
    (made : List Path)
    (outcome : Except TaskFault Text)
    (later : World) : Prop :=
  (∃ id after, outcome = .ok id ∧ TaskId.isWellFormed id = true ∧
    storage.Gains (workspace.controlDirectory id) after ∧
    later.Shows after orders (workspace.controlDirectory id :: made)) ∨
  ∃ fault, outcome = .error fault ∧ workspace.Unclaimable fault ∧
    later.Shows storage orders made

/-- A claim comes to a directory of its own or leaves everything as it was. -/
theorem Workspace.ensures_claim
    (shown : world.Shows storage orders made)
    (count : Nat) :
    (workspace.claim count).Ensures (World.drawing supply)
      (workspace.Claimed storage orders made) world := by
  induction count generalizing world with
  | zero =>
      apply TaskProgram.Ensures.throw
      exact Or.inr ⟨_, rfl, Or.inl rfl, shown⟩
  | succ count inductionHypothesis =>
      apply TaskProgram.Ensures.ask
      refine TaskProgram.Ensures.bind (shown.draw.createDirectory _) ?_ ?_
      · rintro wasMade later
          (⟨after, isMade, gains, shows⟩ | ⟨notMade | ⟨_, impossible⟩, shows⟩)
        · cases isMade
          apply TaskProgram.Ensures.ask
          apply TaskProgram.Ensures.pure
          exact Or.inl ⟨_, after, rfl, TaskId.isWellFormed_ofWord _, gains, shows.note _⟩
        · cases notMade
          apply TaskProgram.Ensures.ask
          exact inductionHypothesis (shows.note _)
        · cases impossible
      · rintro fault later (⟨_, impossible, _⟩ | ⟨impossible | ⟨cause, failed⟩, shows⟩)
        · cases impossible
        · cases impossible
        · injection failed with same
          exact Or.inr ⟨fault, rfl, Or.inr ⟨cause, same⟩, shows⟩

/-- An allocation makes the directory for tasks and claims one in it. -/
theorem Workspace.ensures_allocate
    (workspace : Workspace)
    (shown : world.Shows storage orders made) :
    workspace.allocate.Ensures (World.drawing supply)
      (workspace.Claimed (workspace.prepared storage) orders made) world := by
  refine TaskProgram.Ensures.bind (shown.createDirectories _) ?_ ?_
  · rintro _ later ⟨_, shows⟩
    exact ensures_claim shows attempts
  · rintro fault later ⟨isFile, shows⟩
    exact Or.inr ⟨fault, rfl, Or.inr (isFile fault rfl), shows⟩

/-- All files were written, or the first ones. -/
def Handle.Written
    (handle : Handle)
    (workspace : Workspace)
    (files : List (Text × Bytes))
    (storage : Storage)
    (orders : List LaunchOrder)
    (made : List Path)
    (outcome : Except TaskFault α)
    (later : World) : Prop :=
  (∃ value after, outcome = .ok value ∧ handle.Fills workspace files storage after ∧
    later.Shows after orders made) ∨
  ∃ count < files.length, ∃ fault after, outcome = .error (.files fault) ∧
    handle.Fills workspace (files.take count) storage after ∧ later.Shows after orders made

/-- Files are written one after the other, up to the first one that fails. -/
theorem Handle.ensures_writeAll
    (handle : Handle)
    (shown : world.Shows storage orders made)
    {files : List (Text × Bytes)}
    (scripts : AreScripts files) :
    (handle.writeAll workspace files).Ensures (World.drawing supply)
      (handle.Written workspace files storage orders made) world := by
  induction files generalizing storage world with
  | nil =>
      apply TaskProgram.Ensures.pure
      exact Or.inl ⟨(), storage, rfl, .nil handle workspace storage, shown⟩
  | cons file files inductionHypothesis =>
      refine TaskProgram.Ensures.bind (shown.write _ _) ?_ ?_
      · rintro _ later (⟨middle, _, receives, shows⟩ | ⟨_, impossible, _⟩)
        · apply (inductionHypothesis shows scripts.tail).weaken
          rintro outcome last (⟨value, after, isDone, fills, allWritten⟩ |
            ⟨count, few, fault, after, failed, fills, someWritten⟩)
          · exact Or.inl ⟨value, after, isDone, .cons scripts receives fills, allWritten⟩
          · exact Or.inr ⟨count + 1, Nat.succ_lt_succ few, fault, after, failed,
              .cons (scripts.take (count + 1)) receives fills, someWritten⟩
        · cases impossible
      · rintro fault later (⟨_, impossible, _⟩ | ⟨cause, same, shows⟩)
        · cases impossible
        · injection same with same
          subst same
          exact Or.inr ⟨0, Nat.succ_pos _, cause, storage, rfl,
            .nil handle workspace storage, shows⟩

/-- The scripts are written one after the other, up to the first one that fails. -/
theorem TaskScript.ensures_writeFiles
    (script : TaskScript)
    (handle : Handle)
    (interpreter : Interpreter)
    (shown : world.Shows storage orders made) :
    (script.writeFiles workspace handle interpreter).Ensures (World.drawing supply)
      (handle.Written workspace (script.files workspace handle interpreter) storage orders
        made) world := by
  rw [writeFiles_eq]
  refine TaskProgram.Ensures.bind (handle.ensures_writeAll shown areScripts) ?_ ?_
  · rintro _ later (⟨_, after, _, fills, shows⟩ | ⟨_, _, _, _, impossible, _⟩)
    · apply TaskProgram.Ensures.ask
      apply TaskProgram.Ensures.pure
      exact Or.inl ⟨_, after, rfl, fills, shows.note _⟩
    · cases impossible
  · rintro fault later (⟨_, _, impossible, _⟩ | ⟨count, few, cause, after, same, written⟩)
    · cases impossible
    · cases same
      exact Or.inr ⟨count, few, cause, after, rfl, written⟩

/-- A launcher that touches no files: it notes the order, and then its answer is given. -/
def Launcher.answering (answers : LaunchOrder → Except TaskFault Unit) : Launcher :=
  fun order => do
    let _ ← TaskProgram.ask (.start order)
    match answers order with
    | .ok () => pure ()
    | .error fault => throw fault

/-- A launcher with prepared answers puts the order down and gives its answer. -/
theorem Launcher.ensures_answering
    (answers : LaunchOrder → Except TaskFault Unit)
    (shown : world.Shows storage orders made)
    (order : LaunchOrder) :
    (Launcher.answering answers order).Ensures (World.drawing supply)
      (fun outcome later =>
        outcome = answers order ∧ later.Shows storage (order :: orders) made) world := by
  apply TaskProgram.Ensures.ask
  cases answers order with
  | ok value => exact TaskProgram.Ensures.pure ⟨rfl, shown.start order⟩
  | error fault => exact TaskProgram.Ensures.throw ⟨rfl, shown.start order⟩

/-- A refusal is noted. -/
theorem Launcher.ensures_guarded
    (answers : LaunchOrder → Except TaskFault Unit)
    (shown : world.Shows storage orders made)
    (order : LaunchOrder) :
    TaskProgram.Ensures (World.drawing supply)
      (fun outcome later =>
        outcome = answers order ∧ later.Shows storage (order :: orders) made)
      (tryCatch (Launcher.answering answers order) fun cause => do
        TaskProgram.note .error
        throw cause)
      world := by
  apply TaskProgram.Ensures.tryCatch (Launcher.ensures_answering answers shown order)
  · exact fun _ _ reached => reached
  · rintro fault later ⟨refused, shows⟩
    apply TaskProgram.Ensures.ask
    exact TaskProgram.Ensures.throw ⟨refused, shows.note _⟩

end Steps

/-! ## What a launch leaves -/

/-- A control directory was claimed where nothing stood, and holds the first scripts of its
task and nothing else. -/
structure TaskScript.Claims
    (script : TaskScript)
    (workspace : Workspace)
    (options : LaunchOptions)
    (handle : Handle)
    (count : Nat)
    (before after : Storage) : Prop where
  attached : handle = Handle.attach handle.id script.capturing
  wellFormed : TaskId.isWellFormed handle.id = true
  vacant : before.standing (handle.directory workspace) = none
  holds : handle.Holds workspace
    ((script.files workspace handle options.platform.interpreter).take count) after

/-- How a launch ends: with an outcome, the orders that were given, the directories that were
made one at a time, and what is left. -/
inductive TaskScript.Launched
    (script : TaskScript)
    (workspace : Workspace)
    (options : LaunchOptions)
    (answers : LaunchOrder → Except TaskFault Unit)
    (before : Storage) :
    Except TaskFault Handle → List LaunchOrder → List Path → Storage → Prop where
  | unclaimed
      {fault : TaskFault}
      {after : Storage}
      (unclaimable : workspace.Unclaimable fault) :
      Launched script workspace options answers before (.error fault) [] [] after
  | unwritten
      {handle : Handle}
      {count : Nat}
      {fault : FileFault}
      {after : Storage}
      (few : count < 3)
      (claims : script.Claims workspace options handle count before after) :
      Launched script workspace options answers before (.error (.files fault)) []
        [handle.directory workspace] after
  | refused
      {handle : Handle}
      {fault : TaskFault}
      {after : Storage}
      (claims : script.Claims workspace options handle 3 before after)
      (answered : answers (script.order workspace handle options) = .error fault) :
      Launched script workspace options answers before (.error fault)
        [script.order workspace handle options] [handle.directory workspace] after
  | started
      {handle : Handle}
      {after : Storage}
      (claims : script.Claims workspace options handle 3 before after)
      (answered : answers (script.order workspace handle options) = .ok ()) :
      Launched script workspace options answers before (.ok handle)
        [script.order workspace handle options] [handle.directory workspace] after

namespace TaskScript

variable {script : TaskScript} {workspace : Workspace} {options : LaunchOptions}
  {answers : LaunchOrder → Except TaskFault Unit} {handle : Handle}
  {before after storage : Storage} {outcome : Except TaskFault Handle}
  {orders : List LaunchOrder} {made : List Path}

/-- A control directory with scripts in it holds none of the files that the child writes. -/
theorem Claims.absent
    {count : Nat}
    (claims : script.Claims workspace options handle count before after)
    {name : Text}
    (member : name ∈ [Handle.logName, Handle.outputName, Handle.resultName]) :
    after.standing (handle.file workspace name) = none := by
  apply claims.holds.absent (areScripts.take count).plain
  · exact (Deed.isFileName_of_mem member).toIsName
  · rintro file isFile rfl
    exact name_apart (List.mem_of_mem_take isFile) member

/-- Every order of a launch is about the directory that was made for it. -/
theorem Launched.ordered
    (launched : script.Launched workspace options answers before outcome orders made after)
    {order : LaunchOrder}
    (member : order ∈ orders) :
    made = [workspace.controlDirectory order.task] ∧
      order.directory = workspace.root ∧
      order.environment = options.environment ∧
      order.relayOutput = options.relayOutput := by
  cases launched with
  | unclaimed unclaimable => cases member
  | unwritten few claims => cases member
  | refused claims answered =>
      rw [List.mem_singleton.mp member]
      exact ⟨rfl, rfl, rfl, rfl⟩
  | started claims answered =>
      rw [List.mem_singleton.mp member]
      exact ⟨rfl, rfl, rfl, rfl⟩

/-- Whatever directory was made is the control directory that was claimed. -/
theorem Launched.claims
    (launched : script.Launched workspace options answers before outcome orders made after)
    {directory : Path}
    (member : directory ∈ made) :
    ∃ handle count, directory = handle.directory workspace ∧
      script.Claims workspace options handle count before after := by
  cases launched with
  | unclaimed unclaimable => cases member
  | unwritten few claims => exact ⟨_, _, List.mem_singleton.mp member, claims⟩
  | refused claims answered => exact ⟨_, _, List.mem_singleton.mp member, claims⟩
  | started claims answered => exact ⟨_, _, List.mem_singleton.mp member, claims⟩

/-- No launch leaves a log, an output or a result. -/
theorem Launched.absent
    (launched : script.Launched workspace options answers before outcome orders made after)
    {directory : Path}
    (member : directory ∈ made)
    {name : Text}
    (isOther : name ∈ [Handle.logName, Handle.outputName, Handle.resultName]) :
    after.standing (directory.joinText name) = none := by
  obtain ⟨handle, count, rfl, claims⟩ := launched.claims member
  exact claims.absent isOther

/-- What a launch comes to in a world. -/
def LaunchedIn
    (script : TaskScript)
    (workspace : Workspace)
    (options : LaunchOptions)
    (answers : LaunchOrder → Except TaskFault Unit)
    (world : World)
    (outcome : Except TaskFault Handle)
    (later : World) : Prop :=
  ∃ orders made after,
    later.Shows after (orders ++ world.orders) (made ++ world.made) ∧
    script.Launched workspace options answers world.storage outcome orders made after ∧
    workspace.KeepsOutside made world.storage after

/-- What a launch does after it has claimed a control directory. -/
def start
    (script : TaskScript)
    (workspace : Workspace)
    (launcher : Launcher)
    (options : LaunchOptions)
    (handle : Handle) : TaskProgram Handle := do
  let _ ← script.writeFiles workspace handle options.platform.interpreter
  tryCatch
    (launcher (script.order workspace handle options))
    (fun cause => do
      TaskProgram.note .error
      throw cause)
  TaskProgram.note .info
  pure handle

theorem ensures_start
    (script : TaskScript)
    (handle : Handle)
    (supply : Nat → UInt32)
    {world claimed : World}
    (tree : world.storage.IsTree)
    (attached : handle = Handle.attach handle.id script.capturing)
    (wellFormed : TaskId.isWellFormed handle.id = true)
    (gains : (workspace.prepared world.storage).Gains (handle.directory workspace) storage)
    (shown : claimed.Shows storage world.orders
      (handle.directory workspace :: world.made)) :
    (script.start workspace (Launcher.answering answers) options handle).Ensures
      (World.drawing supply) (script.LaunchedIn workspace options answers world) claimed := by
  have vacant : world.storage.standing (handle.directory workspace) = none := by
    rcases (workspace.grows_prepared world.storage).standing (handle.directory workspace) with
      same | ⟨nothing, _⟩
    · exact same.symm.trans gains.vacant
    · exact nothing
  have claims : ∀ {count : Nat} {later : Storage},
      handle.Fills workspace
        ((script.files workspace handle options.platform.interpreter).take count) storage
        later →
      script.Claims workspace options handle count world.storage later :=
    fun fills => ⟨attached, wellFormed, vacant,
      fills.holds tree wellFormed (areScripts.take _) gains⟩
  refine TaskProgram.Ensures.bind (script.ensures_writeFiles handle _ shown) ?_ ?_
  · rintro _ written (⟨_, after, _, fills, shows⟩ | ⟨_, _, _, _, impossible, _⟩)
    · have outside := fills.keepsOutside areScripts gains
      refine TaskProgram.Ensures.bind (Launcher.ensures_guarded answers shows _) ?_ ?_
      · rintro _ later ⟨accepted, ordered⟩
        apply TaskProgram.Ensures.ask
        apply TaskProgram.Ensures.pure
        exact ⟨[_], [_], after, ordered.note _, .started (claims fills) accepted.symm,
          outside⟩
      · rintro fault later ⟨refused, ordered⟩
        exact ⟨[_], [_], after, ordered, .refused (claims fills) refused.symm, outside⟩
    · cases impossible
  · rintro fault later
      (⟨_, _, impossible, _⟩ | ⟨count, few, cause, after, same, fills, shows⟩)
    · cases impossible
    · cases same
      exact ⟨[], [_], after, shows, .unwritten few (claims fills),
        fills.keepsOutside (areScripts.take count) gains⟩

/-- Whatever happens, a launch comes to one of the ends that are told apart. -/
theorem ensures_launch
    (script : TaskScript)
    (workspace : Workspace)
    (options : LaunchOptions)
    (answers : LaunchOrder → Except TaskFault Unit)
    (supply : Nat → UInt32)
    {world : World}
    (tree : world.storage.IsTree)
    (keeping : world.starter = .keeping) :
    (script.launch workspace (Launcher.answering answers) options).Ensures
      (World.drawing supply) (script.LaunchedIn workspace options answers world) world := by
  have shown : world.Shows world.storage world.orders world.made :=
    ⟨rfl, keeping, rfl, rfl⟩
  refine TaskProgram.Ensures.bind (workspace.ensures_allocate shown) ?_ ?_
  · rintro id claimed (⟨_, after, same, wellFormed, gains, shows⟩ | ⟨_, impossible, _⟩)
    · cases same
      exact script.ensures_start (Handle.attach id script.capturing) supply tree rfl
        wellFormed gains shows
    · cases impossible
  · rintro fault later (⟨_, _, impossible, _⟩ | ⟨_, same, unclaimable, shows⟩)
    · cases impossible
    · cases same
      exact ⟨[], [], _, shows, .unclaimed unclaimable,
        fun path _ => (workspace.grows_prepared world.storage).standing path⟩

/-- A launch is all or nothing, whatever the files are, however many directories are refused
as taken, whichever write fails, whatever numbers are drawn, and whatever the launcher
answers.  If a handle is returned, then the one order that was given was taken, and the
control directory holds the three scripts.  If a fault is returned, then no order was given or
it was refused, and the control directory, if there is one, holds the first of the scripts. -/
theorem launch_all_or_nothing
    (script : TaskScript)
    (workspace : Workspace)
    (options : LaunchOptions)
    (answers : LaunchOrder → Except TaskFault Unit)
    (supply : Nat → UInt32)
    (world : World)
    (tree : world.storage.IsTree)
    (keeping : world.starter = .keeping) :
    let launch := script.launch workspace (Launcher.answering answers) options
    let ended := launch.run.run (World.drawing supply) world
    ∃ orders made,
      ended.2.orders = orders ++ world.orders ∧
      ended.2.made = made ++ world.made ∧
      script.Launched workspace options answers world.storage ended.1 orders made
        ended.2.storage ∧
      workspace.KeepsOutside made world.storage ended.2.storage ∧
      (∀ order ∈ orders,
        made = [workspace.controlDirectory order.task] ∧
        order.directory = workspace.root ∧
        order.environment = options.environment ∧
        order.relayOutput = options.relayOutput) ∧
      ∀ directory ∈ made, ∀ name ∈ [Handle.logName, Handle.outputName, Handle.resultName],
        ended.2.storage.standing (directory.joinText name) = none := by
  obtain ⟨orders, made, after, shows, launched, outside⟩ :=
    script.ensures_launch workspace options answers supply tree keeping
  obtain rfl := shows.storage
  exact ⟨orders, made, shows.orders, shows.made, launched, outside,
    fun order member => launched.ordered member,
    fun directory member name isOther => launched.absent member isOther⟩

end TaskScript

namespace LaunchSample

def workspace : Workspace :=
  ⟨Path.ofText "/w".toList⟩

def script : TaskScript :=
  ⟨"exit 0".toList, true⟩

/-- A world in which the first directory is refused as taken, and the third write fails. -/
def world : World :=
  { World.new (.inMemory Memory.new) workspace.root with
    faulty := true
    collisions := 1
    failingWrite := some 2 }

theorem isTree : world.storage.IsTree := by
  intro place long stands
  have different : place ≠ [.root] := by
    rintro rfl
    exact absurd long (by decide)
  change (EntryMap.empty.insert [.root] .directory).lookup place ≠ none at stands
  rw [EntryMap.lookup_insert, if_neg different] at stands
  exact absurd rfl stands

def ended : Except TaskFault Handle × World :=
  world.run
    (script.launch workspace (Launcher.answering fun _ => .ok ()) LaunchOptions.default)

end LaunchSample

open LaunchSample in
/-- The first two scripts are left, and no order was given. -/
theorem TaskScript.launch_all_or_nothing_sample :
    ended.1 = .error (.files .refusedWrite) ∧
      ended.2.orders = [] ∧
      ∃ handle count,
        count < 3 ∧
        ended.2.made = [handle.directory workspace] ∧
        script.Claims workspace LaunchOptions.default handle count world.storage
          ended.2.storage := by
  have ends :=
    TaskScript.launch_all_or_nothing script workspace LaunchOptions.default
      (fun _ => .ok ()) World.drawWord world isTree rfl
  rw [World.drawing_drawWord] at ends
  obtain ⟨orders, made, given, claimed, launched, _, _, _⟩ := ends
  have failed : ended.1 = .error (.files .refusedWrite) := by decide +kernel
  have noOrder : ended.2.orders = [] := by decide +kernel
  have oneMade : ended.2.made.length = 1 := by decide +kernel
  refine ⟨failed, noOrder, ?_⟩
  change ended.2.orders = orders ++ [] at given
  change ended.2.made = made ++ [] at claimed
  change script.Launched workspace LaunchOptions.default _ world.storage ended.1 orders made
    ended.2.storage at launched
  rw [List.append_nil] at given claimed
  rw [failed] at launched
  cases launched with
  | unclaimed unclaimable =>
      rw [claimed] at oneMade
      cases oneMade
  | unwritten few claims => exact ⟨_, _, few, claimed, claims⟩
  | refused claims answered =>
      rw [given] at noOrder
      cases noOrder

end DetachedTasks
