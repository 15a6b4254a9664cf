import DetachedTasks.Proofs.KeptLineEnds
import DetachedTasks.Proofs.PairedRuns

/-!
# Scripts that nobody looks into

Two launches with the same past do the same until the script of the user is written: the
control directory, its id and the helper are the same.  From then on their worlds differ in
one file at most, and nothing that follows looks at this file.  Whether the wrapper can be
written depends on where files stand, the order names paths only, and the launcher gets the
order and nothing else.
-/

namespace DetachedTasks

open Sandbox (Storage World)
open Sandbox.World (Beside)

/-! ## The files of two launches -/

/-- Two storages that differ at most in the script of a task, in which each holds its own. -/
structure Handle.PartsAt
    (handle : Handle)
    (workspace : Workspace)
    (content other : Bytes)
    (storage another : Storage) : Prop where
  differs : storage.DiffersAt (handle.scriptFile workspace) another
  stands : storage.standing (handle.scriptFile workspace) = some (.file content)
  standsOther : another.standing (handle.scriptFile workspace) = some (.file other)

/-- Both sides have stopped before the script of a task was written, or both have written it
and go on in worlds that differ at most in this script. -/
def Handle.Parted
    (handle : Handle)
    (workspace : Workspace)
    (content other : Bytes)
    (orders : List LaunchOrder)
    (made : List Path)
    (outcome : Except TaskFault α)
    (first second : World) : Prop :=
  (∃ fault, outcome = .error fault ∧ first = second) ∨
  ∃ files others, handle.PartsAt workspace content other files others ∧
    Beside orders made files others first second

section Launches

variable {supply : Nat → UInt32} {world first second : World}
  {files others : Storage} {orders : List LaunchOrder} {made : List Path}
  {workspace : Workspace} {handle : Handle} {content other : Bytes}

/-- Another file of the task is written on both sides or on none. -/
theorem Handle.PartsAt.write
    (parts : handle.PartsAt workspace content other files others)
    (beside : Beside orders made files others first second)
    {name : Text}
    (plain : Path.IsName (Utf8.encode name))
    (different : name ≠ Handle.scriptName)
    (written : Bytes) :
    TaskProgram.Agree (World.drawing supply)
      (fun _ later laterSecond => ∃ after afterOther,
        handle.PartsAt workspace content other after afterOther ∧
          Beside orders made after afterOther later laterSecond)
      (TaskProgram.write (handle.file workspace name) written)
      (TaskProgram.write (handle.file workspace name) written) first second := by
  refine (beside.write parts.differs.shape (handle.file workspace name) written written).weaken ?_
  rintro _ later laterSecond (⟨after, afterOther, _, shape, receives, receivesOther, result⟩ |
    ⟨_, _, result⟩)
  · have apart : ∀ storage : Storage, storage.spot (handle.scriptFile workspace) ≠
        storage.spot (handle.file workspace name) := by
      intro storage same
      have plainScript := isName_of_mem_scripts Handle.scriptName (by simp)
      exact different (spot_file_injective plainScript plain same).symm
    refine ⟨after, afterOther, ⟨?_, ?_, ?_⟩, result⟩
    · exact parts.differs.of_receives shape receives receivesOther
    · rw [receives.elsewhere _ (apart files)]
      exact parts.stands
    · rw [receivesOther.elsewhere _ (apart others)]
      exact parts.standsOther
  · exact ⟨files, others, parts, result⟩

/-- Two bodies are written into the same task. -/
theorem TaskScript.agree_writeFiles
    (capturing : Bool)
    (body another : Text)
    (workspace : Workspace)
    (handle : Handle)
    (platform : Platform)
    (shown : world.Shows files orders made) :
    TaskProgram.Agree (World.drawing supply)
      (handle.Parted workspace (platform.mark ++ Utf8.encode body)
        (platform.mark ++ Utf8.encode another) orders made)
      (TaskScript.writeFiles ⟨body, capturing⟩ workspace handle platform.interpreter)
      (TaskScript.writeFiles ⟨another, capturing⟩ workspace handle platform.interpreter)
      world world := by
  have plainWrapper := isName_of_mem_scripts Handle.wrapperName (by simp)
  have encoded := platform.encode_interpreter
  refine TaskProgram.Agree.bind (TaskProgram.Agree.same (shown.write _ _)) ?_ ?_
  · rintro _ written _ ⟨rfl, ⟨after, _, _, shows⟩ | ⟨_, impossible, _⟩⟩
    · refine TaskProgram.Agree.bind
        ((Beside.self shows).write (Storage.SameShape.refl _) _ _ _) ?_ ?_
      · rintro _ later laterOther (⟨_, _, _, shape, receives, receivesOther, beside⟩ |
          ⟨_, impossible, _⟩)
        · have parts : handle.PartsAt workspace (platform.mark ++ Utf8.encode body)
              (platform.mark ++ Utf8.encode another) _ _ :=
            ⟨Storage.differsAt_of_receives shape receives receivesOther,
              (encoded body) ▸ receives.stands, (encoded another) ▸ receivesOther.stands⟩
          refine TaskProgram.Agree.bind
            (parts.write beside plainWrapper (by decide) _) ?_ ?_
          · rintro _ last lastOther ⟨_, _, parts, beside⟩
            refine beside.afterNote ?_
            intro final finalOther beside
            exact TaskProgram.Agree.pure (Or.inr ⟨_, _, parts, beside⟩)
          · rintro _ last lastOther ⟨_, _, parts, beside⟩
            exact Or.inr ⟨_, _, parts, beside⟩
        · cases impossible
      · rintro fault later laterOther (⟨_, _, impossible, _⟩ | ⟨_, _, beside⟩)
        · cases impossible
        · exact Or.inl ⟨fault, rfl, beside.eq_self⟩
    · cases impossible
  · rintro fault later _ ⟨rfl, _⟩
    exact Or.inl ⟨fault, rfl, rfl⟩

/-! ## Two launches -/

/-- A launcher that touches no files gets one order on both sides and gives one answer. -/
theorem Launcher.agree_guarded
    (answers : LaunchOrder → Except TaskFault Unit)
    (beside : Beside orders made files others first second)
    (order : LaunchOrder) :
    TaskProgram.Agree (World.drawing supply)
      (fun _ later laterSecond =>
        Beside (order :: orders) made files others later laterSecond)
      (tryCatch (Launcher.answering answers order) fun cause => do
        TaskProgram.note .error
        throw cause)
      (tryCatch (Launcher.answering answers order) fun cause => do
        TaskProgram.note .error
        throw cause)
      first second := by
  obtain ⟨sameAnswer, started⟩ := beside.start supply order
  have answered : TaskProgram.Agree (World.drawing supply)
      (fun _ later laterSecond =>
        Beside (order :: orders) made files others later laterSecond)
      (Launcher.answering answers order) (Launcher.answering answers order) first second := by
    refine TaskProgram.Agree.ask sameAnswer ?_
    cases answers order with
    | ok value => exact TaskProgram.Agree.pure started
    | error fault => exact TaskProgram.Agree.throw started
  refine TaskProgram.Agree.tryCatch answered (fun _ _ _ reached => reached) ?_
  intro fault later laterSecond beside
  exact beside.afterNote fun _ _ noted => TaskProgram.Agree.throw noted

/-- The launches of two bodies have stopped on both sides before the script was written, or
they have claimed one directory, in which each has written its own script. -/
def Workspace.Parted
    (workspace : Workspace)
    (content other : Bytes)
    (made : List Path)
    (outcome : Except TaskFault Handle)
    (first second : World) : Prop :=
  (∃ fault, outcome = .error fault ∧ first = second) ∨
  ∃ handle orders files others, handle.PartsAt workspace content other files others ∧
    Beside orders (handle.directory workspace :: made) files others first second ∧
    ∀ answer, outcome = .ok answer → answer = handle

/-- Two worlds that have parted differ at most in their files, and these at most in one
script. -/
theorem Workspace.Parted.worlds
    {outcome : Except TaskFault Handle}
    (parted : workspace.Parted content other made outcome first second) :
    second = { first with storage := second.storage } ∧
      (second.storage = first.storage ∨
        ∃ handle : Handle, first.made = handle.directory workspace :: made ∧
          handle.PartsAt workspace content other first.storage second.storage) := by
  rcases parted with ⟨_, _, rfl⟩ | ⟨handle, _, files, others, parts, ⟨shown, rfl⟩, _⟩
  · exact ⟨rfl, Or.inl rfl⟩
  · obtain rfl := shown.storage
    exact ⟨rfl, Or.inr ⟨handle, shown.made, parts⟩⟩

theorem TaskScript.agree_start
    (capturing : Bool)
    (body another : Text)
    (options : LaunchOptions)
    (answers : LaunchOrder → Except TaskFault Unit)
    (shown : world.Shows files orders (handle.directory workspace :: made)) :
    TaskProgram.Agree (World.drawing supply)
      (workspace.Parted (options.platform.mark ++ Utf8.encode body)
        (options.platform.mark ++ Utf8.encode another) made)
      (TaskScript.start ⟨body, capturing⟩ workspace (Launcher.answering answers) options handle)
      (TaskScript.start ⟨another, capturing⟩ workspace (Launcher.answering answers) options
        handle)
      world world := by
  refine TaskProgram.Agree.bind
    (TaskScript.agree_writeFiles capturing body another workspace handle options.platform shown)
    ?_ ?_
  · rintro _ later laterOther (⟨_, impossible, _⟩ | ⟨_, _, parts, beside⟩)
    · cases impossible
    · refine TaskProgram.Agree.bind (Launcher.agree_guarded answers beside _) ?_ ?_
      · intro _ _ _ beside
        refine beside.afterNote ?_
        intro _ _ beside
        apply TaskProgram.Agree.pure
        exact Or.inr ⟨handle, _, _, _, parts, beside, fun _ same => (Except.ok.inj same).symm⟩
      · intro _ _ _ beside
        exact Or.inr ⟨handle, _, _, _, parts, beside, nofun⟩
  · rintro fault later laterOther (⟨_, _, same⟩ | ⟨_, _, parts, beside⟩)
    · exact Or.inl ⟨fault, rfl, same⟩
    · exact Or.inr ⟨handle, _, _, _, parts, beside, nofun⟩

theorem TaskScript.agree_launch
    (capturing : Bool)
    (body another : Text)
    (workspace : Workspace)
    (options : LaunchOptions)
    (answers : LaunchOrder → Except TaskFault Unit)
    (supply : Nat → UInt32)
    (keeping : world.starter = .keeping) :
    TaskProgram.Agree (World.drawing supply)
      (workspace.Parted (options.platform.mark ++ Utf8.encode body)
        (options.platform.mark ++ Utf8.encode another) world.made)
      (TaskScript.launch ⟨body, capturing⟩ workspace (Launcher.answering answers) options)
      (TaskScript.launch ⟨another, capturing⟩ workspace (Launcher.answering answers) options)
      world world := by
  have shown : world.Shows world.storage world.orders world.made :=
    ⟨rfl, keeping, rfl, rfl⟩
  refine TaskProgram.Agree.bind (TaskProgram.Agree.same (workspace.ensures_allocate shown))
    ?_ ?_
  · rintro id claimed _ ⟨rfl, ⟨_, _, same, _, _, shows⟩ | ⟨_, impossible, _⟩⟩
    · cases same
      exact TaskScript.agree_start capturing body another options answers shows
    · cases impossible
  · rintro fault later _ ⟨rfl, _⟩
    exact Or.inl ⟨fault, rfl, rfl⟩

/-- A launch that answers with a handle has written the files of the task. -/
theorem TaskScript.ensures_files
    (script : TaskScript)
    (workspace : Workspace)
    (options : LaunchOptions)
    (answers : LaunchOrder → Except TaskFault Unit)
    (supply : Nat → UInt32)
    (keeping : world.starter = .keeping) :
    (script.launch workspace (Launcher.answering answers) options).Ensures
      (World.drawing supply)
      (fun outcome later => ∀ handle, outcome = .ok handle →
        ∀ file ∈ script.files workspace handle options.platform.interpreter,
          later.storage.standing (handle.file workspace file.1) = some (.file file.2))
      world := by
  have shown : world.Shows world.storage world.orders world.made :=
    ⟨rfl, keeping, rfl, rfl⟩
  refine TaskProgram.Ensures.bind (workspace.ensures_allocate shown) ?_ (fun _ _ _ => nofun)
  rintro id claimed (⟨_, _, same, _, _, shows⟩ | ⟨_, impossible, _⟩)
  · cases same
    refine TaskProgram.Ensures.bind
      (script.ensures_writeFiles (Handle.attach id script.capturing) _ shows) ?_
      (fun _ _ _ => nofun)
    rintro _ written (⟨_, after, _, fills, shows⟩ | ⟨_, _, _, _, impossible, _⟩)
    · refine TaskProgram.Ensures.bind (Launcher.ensures_guarded answers shows _) ?_
        (fun _ _ _ => nofun)
      rintro _ later ⟨_, ordered⟩
      apply TaskProgram.Ensures.ask
      apply TaskProgram.Ensures.pure
      intro handle same file member
      cases same
      rw [(ordered.note _).storage]
      exact fills.stands areScripts member
    · cases impossible
  · cases impossible

end Launches

namespace TaskScript

/-- The text of a script is opaque.  Two launches that differ in nothing else come to the same
outcome, whatever the files are, however many directories are refused as taken, whichever
write fails, whatever numbers are drawn, and whatever the launcher answers.  They give the
same orders, and their worlds differ at most in what the script file in the control directory
holds, which is the one text here and the other there.  After a success each has written its
own script, and helpers and wrappers that are the same. -/
theorem launch_opaque
    (capturing : Bool)
    (body another : Text)
    (workspace : Workspace)
    (options : LaunchOptions)
    (answers : LaunchOrder → Except TaskFault Unit)
    (supply : Nat → UInt32)
    (world : World)
    (keeping : world.starter = .keeping) :
    let ended := fun (text : Text) =>
      let launch := launch ⟨text, capturing⟩ workspace (Launcher.answering answers) options
      launch.run.run (World.drawing supply) world
    let content := fun (text : Text) => options.platform.mark ++ Utf8.encode text
    (ended another).1 = (ended body).1 ∧
    (ended another).2.orders = (ended body).2.orders ∧
    (ended another).2 = { (ended body).2 with storage := (ended another).2.storage } ∧
    ((ended another).2.storage = (ended body).2.storage ∨
      ∃ handle : Handle, (ended body).2.made = handle.directory workspace :: world.made ∧
        handle.PartsAt workspace (content body) (content another) (ended body).2.storage
          (ended another).2.storage) ∧
    ∀ handle, (ended body).1 = .ok handle →
      ∃ helper wrapper, ∀ text ∈ [body, another],
        let holds := fun (path : Path) (bytes : Bytes) =>
          (ended text).2.storage.standing path = some (.file bytes)
        holds (handle.helperFile workspace) helper ∧
          holds (handle.scriptFile workspace) (content text) ∧
          holds (handle.wrapperFile workspace) wrapper := by
  intro ended content
  obtain ⟨outcome, later, laterOther, ends, endsOther, parted⟩ :=
    agree_launch capturing body another workspace options answers supply keeping
  have isEnded : ended body = (outcome, later) := ends
  have isEndedOther : ended another = (outcome, laterOther) := endsOther
  have sameOutcome : (ended another).1 = (ended body).1 := by
    rw [isEnded, isEndedOther]
  obtain rfl : (ended body).2 = later := congrArg Prod.snd isEnded
  obtain rfl : (ended another).2 = laterOther := congrArg Prod.snd isEndedOther
  obtain ⟨onlyFiles, differs⟩ := parted.worlds
  refine ⟨sameOutcome, ?_, onlyFiles, differs, ?_⟩
  · rw [onlyFiles]
  · intro handle succeeded
    let interpreter := options.platform.interpreter
    refine ⟨interpreter.encode (Script.helper interpreter),
      interpreter.encode (Script.wrapper interpreter (handle.scriptFile workspace)), ?_⟩
    intro text member
    have isOk : (ended text).1 = .ok handle := by
      rw [List.mem_pair] at member
      rcases member with rfl | rfl
      · exact succeeded
      · exact sameOutcome.trans succeeded
    have written := ensures_files ⟨text, capturing⟩ workspace options answers supply keeping
      handle isOk
    have isContent : interpreter.encode text = content text :=
      options.platform.encode_interpreter text
    rw [← isContent]
    exact ⟨written (Handle.helperName, _) List.mem_cons_self,
      written (Handle.scriptName, _) (List.mem_cons_of_mem _ List.mem_cons_self),
      written (Handle.wrapperName, _)
        (List.mem_cons_of_mem _ (List.mem_cons_of_mem _ List.mem_cons_self))⟩

end TaskScript

namespace OpaqueSample

def workspace : Workspace :=
  ⟨Path.ofText "/w".toList⟩

/-- A text with everything that means something in generated scripts. -/
def special : Text :=
  "\uFEFF\x7b\x7bscript\x7d\x7d'; `$x\r\n\n".toList

/-- A world in which the first directory is refused as taken. -/
def world : World :=
  { World.new (.inMemory Memory.new) workspace.root with
    faulty := true
    collisions := 1 }

def ended (text : Text) : Except TaskFault Handle × World :=
  world.run
    (TaskScript.launch ⟨text, true⟩ workspace (Launcher.answering fun _ => .ok ())
      LaunchOptions.default)

end OpaqueSample

open OpaqueSample in
/-- The text with all that is special gets the same order as the empty one. -/
theorem TaskScript.launch_opaque_sample :
    ∃ handle order, (ended special).1 = .ok handle ∧ (ended []).1 = .ok handle ∧
      (ended special).2.orders = [order] ∧ (ended []).2.orders = [order] ∧
      (ended special).2.storage.standing (handle.scriptFile workspace) =
        some (.file (Utf8.encode special)) ∧
      (ended []).2.storage.standing (handle.scriptFile workspace) = some (.file []) := by
  have ends := TaskScript.launch_opaque true special [] workspace LaunchOptions.default
    (fun _ => .ok ()) World.drawWord world rfl
  rw [World.drawing_drawWord] at ends
  obtain ⟨sameOutcome, sameOrders, _, _, success⟩ := ends
  change (ended []).1 = (ended special).1 at sameOutcome
  change (ended []).2.orders = (ended special).2.orders at sameOrders
  have succeeded : (ended []).1 = .ok (Handle.attach (TaskId.ofWord (World.drawWord 1)) true) := by
    decide +kernel
  have oneOrder : (ended []).2.orders.length = 1 := by decide +kernel
  obtain ⟨order, given⟩ := List.length_eq_one_iff.mp oneOrder
  obtain ⟨helper, wrapper, holds⟩ := success _ (sameOutcome.symm.trans succeeded)
  exact ⟨_, order, sameOutcome.symm.trans succeeded, succeeded, sameOrders.symm.trans given,
    given, (holds special List.mem_cons_self).2.1,
    (holds [] (List.mem_cons_of_mem _ List.mem_cons_self)).2.1⟩

end DetachedTasks
