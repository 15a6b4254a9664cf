import DetachedTasks.Proofs.KeptLogs
import DetachedTasks.Proofs.PollCycles
import DetachedTasks.Proofs.TornHandles

/-!
# What an invocation does to the files

An invocation looks, makes directories, writes scripts, saves fresh handles, and removes what
belongs to the one task that it cleans up.  None of this touches the log or the result of
another task, and no command ever saves a handle that it has handed on some log with.
-/

namespace DetachedTasks

open Sandbox (Storage)

/-! ## Calls -/

/-- A call that an invocation may put as long as a task is kept. -/
inductive FileCall.Tends
    (workspace : Workspace)
    (id : Text) : FileCall → Prop where
  | look {path : Path} {call : FileCall} (looks : call.LooksAt path) : Tends workspace id call
  | absolute (path : Path) : Tends workspace id (.absolute path)
  | grow (path : Path) : Tends workspace id (.createDirectories path)
  | claim {other : Text} (wellFormed : TaskId.isWellFormed other = true) :
      Tends workspace id (.createDirectory (workspace.controlDirectory other))
  | script {other name : Text} (wellFormed : TaskId.isWellFormed other = true)
      (member : name ∈ [Handle.helperName, Handle.scriptName, Handle.wrapperName])
      (content : Bytes) :
      Tends workspace id (.write (workspace.taskFile other name) content)
  | save {other : Text} {content : Bytes} (wellFormed : TaskId.isWellFormed other = true)
      (fresh : Handle.IsFreshPart other content) :
      Tends workspace id (.write (workspace.handleFile other) content)
  | removeHandle {other : Text} (wellFormed : TaskId.isWellFormed other = true)
      (different : other ≠ id) :
      Tends workspace id (.removeFile (workspace.handleFile other))
  | removeDirectory {other : Text} (wellFormed : TaskId.isWellFormed other = true)
      (different : other ≠ id) :
      Tends workspace id (.removeTree (workspace.controlDirectory other))

/-- The beginning of what is written may be written as well. -/
theorem FileCall.Tends.torn
    {workspace : Workspace}
    {id : Text}
    {path : Path}
    {content : Bytes}
    (tends : (FileCall.write path content).Tends workspace id)
    (count : Nat) :
    (FileCall.write path (content.take count)).Tends workspace id := by
  cases tends with
  | look looks => exact looks.elim
  | script wellFormed member content => exact .script wellFormed member _
  | save wellFormed fresh =>
      obtain ⟨capturing, length, rfl⟩ := fresh
      exact .save wellFormed ⟨capturing, min count length, List.take_take⟩

section Calls

variable {workspace : Workspace} {id : Text} {call : FileCall}

/-- The scripts of a task have other names than what its child writes. -/
theorem Deed.name_ne_script
    {name other : Text}
    (member : name ∈ fileNames)
    (script : other ∈ [Handle.helperName, Handle.scriptName, Handle.wrapperName]) :
    name ≠ other := by
  have all : ∀ first ∈ fileNames,
      ∀ second ∈ [Handle.helperName, Handle.scriptName, Handle.wrapperName],
        first ≠ second := by decide
  exact all name member other script

/-- What a call leaves at a path, or it has made a directory there. -/
def FileCall.Retains
    (call : FileCall)
    (storage : Storage)
    (path : Path) : Prop :=
  (storage.answer call).2.standing path = storage.standing path ∨
    storage.standing path = none ∧ (storage.answer call).2.standing path = some .directory

/-- A call that retains a path leaves what is held there. -/
theorem FileCall.Retains.held?
    {storage : Storage}
    {path : Path}
    (retains : call.Retains storage path) :
    (storage.answer call).2.held? path = storage.held? path := by
  rcases retains with same | ⟨vacant, stands⟩
  · exact Storage.held?_answer same
  · exact Storage.held?_of_directory vacant stands

/-- To look changes nothing anywhere. -/
theorem FileCall.retains_of_looksAt
    {path : Path}
    (looks : call.LooksAt path)
    (storage : Storage)
    (other : Path) :
    call.Retains storage other := by
  left
  rw [Storage.answer_of_looksAt looks]

/-- To spell a path out changes nothing anywhere. -/
theorem FileCall.retains_absolute
    (storage : Storage)
    (path other : Path) :
    (FileCall.absolute path).Retains storage other := by
  left
  cases storage with
  | inMemory memory => rfl
  | tree system => rfl

/-- To make directories changes no file. -/
theorem FileCall.retains_createDirectories
    (storage : Storage)
    (path other : Path) :
    (FileCall.createDirectories path).Retains storage other := by
  rcases (storage.grows_createDirectories path).standing other with
    same | ⟨vacant, stands, _⟩
  · exact Or.inl same
  · exact Or.inr ⟨vacant, stands⟩

/-- A write elsewhere leaves a path alone. -/
theorem FileCall.retains_write
    {storage : Storage}
    {path other : Path}
    (apart : storage.spot other ≠ storage.spot path)
    (content : Bytes) :
    (FileCall.write path content).Retains storage other := by
  left
  rcases storage.receives_or_refuses path content with ⟨_, receives⟩ | ⟨_, _, same⟩
  · exact receives.elsewhere _ apart
  · exact congrArg (·.standing other) same

/-- To make a directory changes no file. -/
theorem FileCall.retains_createDirectory
    (storage : Storage)
    (path other : Path) :
    (FileCall.createDirectory path).Retains storage other := by
  by_cases made : (storage.answer (.createDirectory path)).1 = .ok true
  · have gains := Storage.gains_of_made made
    by_cases here : storage.spot other = storage.spot path
    · have later : (storage.answer (.createDirectory path)).2.spot other =
          (storage.answer (.createDirectory path)).2.spot path := by
        rw [gains.spot, gains.spot, here]
      right
      rw [Storage.standing_congr here, Storage.standing_congr later]
      exact ⟨gains.vacant, gains.stands⟩
    · exact Or.inl (gains.elsewhere other here)
  · left
    rw [Storage.answer_of_not_made made]

/-- No such call touches what a child wrote. -/
theorem FileCall.Tends.retains
    (tends : call.Tends workspace id)
    (wellFormed : TaskId.isWellFormed id = true)
    (storage : Storage)
    {name : Text}
    (member : name ∈ Deed.fileNames) :
    call.Retains storage (workspace.taskFile id name) := by
  have plain := (Deed.isFileName_of_mem member).toIsName
  cases tends with
  | look looks => exact FileCall.retains_of_looksAt looks storage _
  | absolute path => exact FileCall.retains_absolute storage _ _
  | grow path => exact FileCall.retains_createDirectories storage _ _
  | claim otherWellFormed => exact FileCall.retains_createDirectory storage _ _
  | script otherWellFormed isScript content =>
      apply FileCall.retains_write
      rw [ne_eq, Workspace.spot_taskFile_eq_iff wellFormed otherWellFormed plain
        (isName_of_mem_scripts _ isScript)]
      exact fun same => Deed.name_ne_script member isScript same.2
  | save otherWellFormed fresh =>
      exact FileCall.retains_write
        (workspace.spot_taskFile_ne storage wellFormed otherWellFormed plain).2 _
  | @removeHandle other otherWellFormed different =>
      left
      rcases (storage.standing_removeFile (workspace.handleFile other)
        (workspace.taskFile id name)).2 with same | ⟨_, here, _⟩
      · exact same
      · exact absurd here
          (workspace.spot_taskFile_ne storage wellFormed otherWellFormed plain).2
  | @removeDirectory other otherWellFormed different =>
      left
      apply (storage.prunes_removeTree (workspace.controlDirectory other)).elsewhere
      intro below
      rw [Workspace.spot_controlDirectory (TaskId.isFileName otherWellFormed).toIsName,
        Workspace.spot_taskFile wellFormed plain] at below
      have within := List.prefix_append
        (storage.spot workspace.tasksDirectory ++ [.name (Utf8.encode id)])
        [.name (Utf8.encode name)]
      rw [List.append_assoc] at within
      exact different (Utf8.encode_injective (Workspace.same_of_below below within))

/-- No such call saves a handle that is not fresh. -/
theorem FileCall.Tends.savesFresh
    (tends : call.Tends workspace id)
    {storage : Storage}
    (fresh : workspace.SavesFresh storage) :
    workspace.SavesFresh (storage.answer call).2 := by
  apply fresh.of_standing
  intro kept wellFormed content stands
  have retained : call.Retains storage (workspace.handleFile kept) →
      storage.standing (workspace.handleFile kept) = some (.file content) := by
    rintro (same | ⟨_, isDirectory⟩)
    · exact same.symm.trans stands
    · rw [isDirectory] at stands
      cases stands
  cases tends with
  | look looks => exact Or.inl (retained (FileCall.retains_of_looksAt looks storage _))
  | absolute path => exact Or.inl (retained (FileCall.retains_absolute storage _ _))
  | grow path => exact Or.inl (retained (FileCall.retains_createDirectories storage _ _))
  | claim _ => exact Or.inl (retained (FileCall.retains_createDirectory storage _ _))
  | script otherWellFormed isScript held =>
      have apart := (workspace.spot_taskFile_ne storage otherWellFormed wellFormed
        (isName_of_mem_scripts _ isScript)).2
      exact Or.inl (retained (FileCall.retains_write apart.symm _))
  | @save other held otherWellFormed isFresh =>
      by_cases own : kept = other
      · subst own
        rcases storage.receives_or_refuses (workspace.handleFile kept) held with
          ⟨_, receives⟩ | ⟨_, _, same⟩
        · rw [receives.stands] at stands
          cases stands
          exact Or.inr isFresh
        · rw [same] at stands
          exact Or.inl stands
      · have apart : storage.spot (workspace.handleFile kept) ≠
            storage.spot (workspace.handleFile other) := fun same =>
          own (Workspace.eq_of_spot_handleFile (TaskId.isFileName wellFormed).toIsName
            (TaskId.isFileName otherWellFormed).toIsName same)
        exact Or.inl (retained (FileCall.retains_write apart _))
  | @removeHandle other _ _ =>
      rcases (storage.standing_removeFile (workspace.handleFile other)
        (workspace.handleFile kept)).2 with same | ⟨gone, _⟩
      · exact Or.inl (same.symm.trans stands)
      · rw [gone] at stands
        cases stands
  | @removeDirectory other _ _ =>
      rcases (storage.prunes_removeTree (workspace.controlDirectory other)).standing
        (workspace.handleFile kept) with same | gone
      · exact Or.inl (same.symm.trans stands)
      · rw [gone] at stands
        cases stands

/-- A call that tends to the task lets it go on. -/
theorem FileCall.Tends.goesOn
    (tends : call.Tends workspace id)
    (wellFormed : TaskId.isWellFormed id = true)
    (storage : Storage) :
    workspace.GoesOn id storage (storage.answer call).2 :=
  .of_held (storage.absolute?_answer call) tends.savesFresh fun _ member =>
    (tends.retains wellFormed storage member).held?

end Calls

/-! ## Answers -/

/-- To tend to a workspace.  Its root is given as some path, and whoever reads a saved handle
finds a fresh one. -/
def Terms.tending
    (workspace : Workspace)
    (id : Text)
    (root : Path) : Terms where
  allowed := fun
    | .file call => call.Tends workspace id
    | _ => True
  fair := fun
    | .file (.readText path), reply =>
        ∀ other, TaskId.isWellFormed other = true → path = workspace.handleFile other →
          ∀ text handle, reply = .ok text → Handle.ofToml text = .ok handle →
            ∃ flag, handle = Handle.attach other flag
    | .file (.absolute path), reply =>
        path = root → ∀ full, reply = .ok full → full.plain = workspace.root
    | _, _ => True

/-- A path that the workspace is opened by. -/
def Workspace.IsOpenedBy
    (workspace : Workspace)
    (storage : Storage)
    (root : Path) : Prop :=
  ∀ full ∈ storage.absolute? root, full.plain = workspace.root

instance
    (workspace : Workspace)
    (storage : Storage)
    (root : Path) : Decidable (workspace.IsOpenedBy storage root) :=
  inferInstanceAs (Decidable (∀ full ∈ storage.absolute? root, full.plain = workspace.root))

section Answers

variable {workspace : Workspace} {id : Text} {storage : Storage}

/-- A fresh handle is written in ASCII. -/
theorem Handle.ascii_attach
    (wellFormed : TaskId.isWellFormed id = true)
    (capturing : Bool) :
    ∀ character ∈ (attach id capturing).toToml, character.toNat < 0x80 := by
  have opens : opening.all (·.toNat < 0x80) = true := by decide
  have ends : ∀ flag, ('"' :: '\n' :: ending flag).all (·.toNat < 0x80) = true := by decide
  intro character member
  rw [toToml_attach wellFormed, List.mem_append, List.mem_append] at member
  rcases member with inOpening | inId | inEnding
  · exact of_decide_eq_true (List.all_eq_true.mp opens character inOpening)
  · have bare := TaskId.isBareKey_of_isWellFormed wellFormed inId
    exact Nat.lt_trans (Toml.Reader.printed_of_isBareKey bare).2 (by decide)
  · exact of_decide_eq_true (List.all_eq_true.mp (ends capturing) character inEnding)

/-- Whatever can be read where a fresh handle was saved was written in ASCII. -/
theorem Workspace.SavesFresh.part_of_readText
    (fresh : workspace.SavesFresh storage)
    (wellFormed : TaskId.isWellFormed id = true)
    {text : Text}
    (answered : (storage.answer (.readText (workspace.handleFile id))).1 = .ok text) :
    storage.look (workspace.handleFile id) = some (.file (Utf8.encode text)) ∧
      ∃ capturing count, text = (Handle.attach id capturing).toToml.take count := by
  obtain ⟨held, isFile, rfl⟩ := Storage.answer_readText_ok answered
  obtain ⟨capturing, count, rfl⟩ :=
    fresh id wellFormed held (Storage.standing_of_found (Storage.found_of_look isFile))
  rw [Utf8.take_encode_of_ascii (Handle.ascii_attach wellFormed capturing)] at isFile ⊢
  rw [Utf8.decodeLossy_encode]
  exact ⟨isFile, capturing, count, rfl⟩

/-- Whatever can be read where a fresh handle was saved is a fresh handle. -/
theorem Workspace.SavesFresh.attach_of_readText
    (fresh : workspace.SavesFresh storage)
    (wellFormed : TaskId.isWellFormed id = true)
    {text : Text}
    {handle : Handle}
    (answered : (storage.answer (.readText (workspace.handleFile id))).1 = .ok text)
    (read : Handle.ofToml text = .ok handle) :
    ∃ flag, handle = Handle.attach id flag := by
  obtain ⟨_, capturing, count, rfl⟩ := fresh.part_of_readText wellFormed answered
  exact Handle.ofToml_take wellFormed read

/-- A handle that was loaded once can be loaded. -/
theorem Workspace.SavesFresh.loads_of_readText
    (fresh : workspace.SavesFresh storage)
    (wellFormed : TaskId.isWellFormed id = true)
    {text : Text}
    {handle : Handle}
    (answered : (storage.answer (.readText (workspace.handleFile id))).1 = .ok text)
    (read : Handle.ofToml text = .ok handle) :
    workspace.Loads id storage := by
  intro content isFile
  rw [(fresh.part_of_readText wellFormed answered).1] at isFile
  cases isFile
  exact ⟨text, handle, rfl, read⟩

/-- The files answer as the terms say. -/
theorem Terms.tending_fair
    {root : Path}
    (fresh : workspace.SavesFresh storage)
    (opened : workspace.IsOpenedBy storage root)
    (call : FileCall) :
    (Terms.tending workspace id root).fair (.file call) (storage.answer call).1 := by
  cases call with
  | readText path =>
      rintro other wellFormed rfl text handle answered read
      exact fresh.attach_of_readText wellFormed answered read
  | absolute path =>
      rintro rfl full answered
      exact opened full (Storage.absolute?_of_answer answered)
  | _ => trivial

/-- Looking, and whatever is outside of the files, tends to every task. -/
theorem Terms.tending_serves
    (workspace : Workspace)
    (id : Text)
    (root : Path)
    (paths : List Path) :
    (Terms.tending workspace id root).Serves paths where
  outside := by
    intro request outside
    cases request with
    | file call => exact outside.elim
    | _ => trivial
  look := fun _ _ _ looks => .look looks

end Answers

/-! ## Invocations -/

/-- A command that removes nothing of a task. -/
def Command.Leaves
    (id : Text) : Command → Prop
  | .cleanup other => TaskId.isWellFormed other = true ∧ other ≠ id
  | _ => True

instance
    (id : Text)
    (command : Command) : Decidable (command.Leaves id) :=
  match command with
  | .cleanup other =>
      inferInstanceAs (Decidable (TaskId.isWellFormed other = true ∧ other ≠ id))
  | .launch _ => .isTrue trivial
  | .run _ => .isTrue trivial
  | .status _ => .isTrue trivial
  | .log _ => .isTrue trivial
  | .output _ => .isTrue trivial
  | .wait _ => .isTrue trivial

section Invocations

variable {workspace : Workspace} {id : Text} {root : Path}

open TaskProgram

/-- Settings are only read. -/
theorem Settings.loadOrDefault_isQuiet (file : Path) :
    (loadOrDefault file).Keeps Terms.quiet := by
  refine Meets.ask ⟨file, rfl⟩ fun found _ => ?_
  cases found with
  | false => exact Meets.ask trivial fun _ _ => Meets.pure trivial
  | true =>
      have raw : (loadRaw file).Keeps Terms.quiet := by
        refine Meets.ask ⟨file, rfl⟩ fun answer _ => ?_
        split
        · exact Meets.throw _
        · exact Meets.throw _
        · split
          · exact Meets.throw _
          · exact Meets.pure trivial
      refine Meets.bind raw fun settings _ => ?_
      cases settings.check with
      | error cause => exact Meets.throw _
      | ok checked => exact Meets.pure trivial

namespace Terms.Serves

variable {terms : Terms}

/-- Whoever may look at all files may do whatever is quiet. -/
theorem quiet
    (serves : ∀ paths, terms.Serves paths)
    (request : Request)
    (isQuiet : Terms.quiet.allowed request) :
    terms.allowed request := by
  cases request with
  | file call =>
      obtain ⟨path, looks⟩ := isQuiet
      exact (serves [path]).look path List.mem_cons_self call looks
  | _ => exact (serves []).outside _ trivial

/-- Whoever may look at all files may follow a task. -/
theorem carriesWait
    (serves : ∀ paths, terms.Serves paths)
    (workspace : Workspace) :
    terms.CarriesWait workspace fun _ => True where
  quiet := quiet serves
  poll := fun handle => (serves (handle.watched workspace)).poll
  unfinished := trivial
  stale := fun _ => trivial

/-- To follow a task is to poll it, to print and to pause. -/
theorem follow
    (serves : ∀ paths, terms.Serves paths)
    (settings : Settings)
    (polls : Nat)
    (handle : Handle) :
    (Application.follow workspace settings polls handle).Keeps terms :=
  (carriesWait serves workspace).follow trivial (fun _ _ => trivial) settings polls handle

end Terms.Serves

/-- To print is not to ask for files. -/
theorem TaskProgram.print_isOutside (content : Bytes) :
    (print content).Keeps Terms.outside := by
  refine Meets.ask trivial fun answer _ => ?_
  cases answer with
  | ok done => exact Meets.pure trivial
  | error cause => exact Meets.throw _

/-- A line that is printed is outside of the files. -/
theorem TaskProgram.printLine_isOutside (line : Text) :
    (printLine line).Keeps Terms.outside :=
  Meets.ask_last trivial

/-- What is announced at a launch is outside of the files. -/
theorem Application.announce_isOutside
    (followed : Bool)
    (line : Text) :
    (announce followed line).Keeps Terms.outside := by
  cases followed with
  | true => exact Meets.ask trivial fun _ _ => Meets.pure trivial
  | false => exact Meets.ask_last trivial

/-! ### Under the terms -/

section Tending

/-- A name is claimed below the directory of the tasks. -/
theorem Workspace.allocate_tends :
    workspace.allocate.Meets (Terms.tending workspace id root) fun other =>
      TaskId.isWellFormed other = true := by
  refine Meets.bind (Meets.call (.grow _)) fun _ _ => ?_
  apply (Terms.tending_serves workspace id root []).claim
  · exact fun word _ => .claim (TaskId.isWellFormed_ofWord word)
  · exact fun word _ _ => TaskId.isWellFormed_ofWord word

/-- A launch gives a fresh handle. -/
theorem Application.launchTask_tends
    (settings : Settings)
    (arguments : LaunchArguments)
    (followed : Bool) :
    (launchTask workspace settings arguments followed).Meets (Terms.tending workspace id root)
      fun handle => TaskId.isWellFormed handle.id = true ∧
        ∃ flag, handle = Handle.attach handle.id flag := by
  have body : (scriptBody arguments).Keeps (Terms.tending workspace id root) := by
    rw [scriptBody]
    split
    · refine Meets.ask (.look rfl) fun answer _ => ?_
      split
      · exact Meets.pure trivial
      · exact Meets.throw _
      · exact Meets.throw _
    · exact Meets.pure trivial
    · exact Meets.throw _
  refine Meets.bind body fun text _ => ?_
  have launched := (Terms.tending_serves workspace id root []).launch_attached
    Workspace.allocate_tends
    (fun handle wellFormed name member content => .script wellFormed member content)
    { body := text, capturing := arguments.capture }
    (Launcher.onThisMachine_isOutside (announce_isOutside followed))
    { platform := arguments.platform.getD settings.platform
      environment := Environment.ofList arguments.environment
      relayOutput := followed && settings.launch.relayOutput }
  exact Program.Meets.weaken launched (fun _ allowed => allowed) (fun _ _ fair => fair)
    fun _ kept handle same => ⟨(kept handle same).1, _, (kept handle same).2⟩

/-- Only fresh handles are saved. -/
theorem Handle.save_tends
    {handle : Handle}
    (wellFormed : TaskId.isWellFormed handle.id = true)
    (fresh : ∃ flag, handle = attach handle.id flag) :
    (handle.save workspace).Keeps (Terms.tending workspace id root) := by
  obtain ⟨flag, same⟩ := fresh
  have whole : Utf8.encode handle.toToml =
      (Utf8.encode (attach handle.id flag).toToml).take (Utf8.encode handle.toToml).length := by
    rw [← same, List.take_length]
  exact (Terms.tending_serves workspace id root []).save (.save wellFormed ⟨flag, _, whole⟩)

/-- What is loaded for a task is its own fresh handle. -/
theorem Handle.load_tends
    {other : Text}
    (wellFormed : TaskId.isWellFormed other = true) :
    (load workspace other).Meets (Terms.tending workspace id root) fun handle =>
      ∃ flag, handle = attach other flag := by
  apply (Terms.tending_serves workspace id root _).load_of_fair
  · exact fun reply fair text loaded answered read =>
      fair other wellFormed rfl text loaded answered read
  · exact ⟨false, rfl⟩

/-- Every command tends to a task that it leaves in place. -/
theorem Application.perform_tends
    (settings : Settings)
    (polls : Nat)
    {command : Command}
    (leaves : command.Leaves id) :
    (perform workspace settings polls command).Keeps (Terms.tending workspace id root) := by
  have serves := Terms.tending_serves workspace id root
  cases command with
  | launch arguments =>
      refine Meets.bind (launchTask_tends settings arguments false) fun handle launched => ?_
      refine Meets.bind (Handle.save_tends launched.1 launched.2) fun _ _ => ?_
      exact Meets.bind ((serves []).of_outside (printLine_isOutside _))
        fun _ _ => Meets.pure trivial
  | run arguments =>
      refine Meets.bind (launchTask_tends settings arguments true) fun handle launched => ?_
      refine Meets.bind (Handle.save_tends launched.1 launched.2) fun _ _ => ?_
      exact Terms.Serves.follow serves settings polls handle
  | status other =>
      refine Meets.bind (serves _).load fun handle _ => ?_
      refine Meets.bind (serves _).status fun status _ => ?_
      cases status with
      | running =>
          exact Meets.bind ((serves []).of_outside (printLine_isOutside _))
            fun _ _ => Meets.pure trivial
      | complete code =>
          exact Meets.bind ((serves []).of_outside (printLine_isOutside _))
            fun _ _ => Meets.pure trivial
  | log other =>
      refine Meets.bind (serves _).load fun handle _ => ?_
      refine Meets.bind (serves _).log fun log _ => ?_
      exact Meets.bind ((serves []).of_outside (print_isOutside log))
        fun _ _ => Meets.pure trivial
  | output other =>
      refine Meets.bind (serves _).load fun handle _ => ?_
      refine Meets.bind (serves _).output fun output _ => ?_
      cases output with
      | none => exact Meets.throw _
      | some output =>
          exact Meets.bind ((serves []).of_outside (print_isOutside output))
            fun _ _ => Meets.pure trivial
  | wait other =>
      refine Meets.bind (serves _).load fun handle _ => ?_
      exact Terms.Serves.follow serves settings polls handle
  | cleanup other =>
      obtain ⟨wellFormed, different⟩ := leaves
      refine Meets.bind (Handle.load_tends wellFormed) fun handle loaded => ?_
      obtain ⟨flag, rfl⟩ := loaded
      refine Meets.bind ((serves _).cleanup ?_ ?_) fun _ _ => Meets.pure trivial
      · exact .removeHandle wellFormed different
      · exact .removeDirectory wellFormed different

/-- The workspace is opened at its root. -/
theorem Workspace.openAt_tends :
    (openAt root).Meets (Terms.tending workspace id root) fun opened =>
      opened = workspace := by
  refine Meets.bind (Meets.call (.grow root)) fun _ _ => ?_
  have absolute : (TaskProgram.absolute root).Meets (Terms.tending workspace id root)
      fun full => full.plain = workspace.root :=
    Meets.call_of_fair (.absolute root) fun reply fair full answered =>
      fair rfl full answered
  refine Meets.bind absolute fun full same => Meets.pure ?_
  rw [same]

/-- Every invocation tends to the workspace that it opens. -/
theorem Application.run_tends
    (polls : Nat)
    {invocation : Invocation}
    (leaves : invocation.command.Leaves id) :
    (run polls invocation).Keeps (Terms.tending workspace id invocation.workspace) := by
  have serves := Terms.tending_serves workspace id invocation.workspace
  have settled : (Settings.loadOrDefault invocation.settings).Keeps
      (Terms.tending workspace id invocation.workspace) :=
    (Settings.loadOrDefault_isQuiet _).of_quiet (Terms.Serves.quiet serves)
  refine Meets.bind settled fun settings _ => ?_
  refine Meets.bind Workspace.openAt_tends fun opened same => ?_
  subst same
  exact Meets.ask trivial fun _ _ => perform_tends settings polls leaves

end Tending

end Invocations

end DetachedTasks
