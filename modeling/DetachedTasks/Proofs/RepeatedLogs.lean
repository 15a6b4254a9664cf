import DetachedTasks.Proofs.SureReaders

/-!
# A log that is shown again

One invocation comes after another.  Each of them runs to its end or is killed somewhere on
its way, and may then leave a part of the file that it was about to write.  Meanwhile the
children of all tasks go on.  No command leaves an offset behind that another one would load,
so whoever follows a task to its end shows the whole log, from its first byte on, however much
of it was shown before; and it is shown again to everybody who asks later.
-/

namespace DetachedTasks

open Sandbox (Storage)

/-! ## Histories -/

/-- A process of the command line program: what it is to do, how far it has come, and what it
has printed. -/
structure Session where
  command : Command
  rest : Program (Except TaskFault (Option Int32))
  printed : Bytes

/-- The exit code that a process has ended with. -/
def Session.code? (session : Session) : Option Int32 :=
  match session.rest with
  | .done (.ok code) => code
  | _ => none

/-- The files, and the process that was started last, if it was not killed. -/
structure Console where
  storage : Storage
  session : Option Session

/-- Something that happens in a workspace. -/
inductive Incident where
  /-- A command line is run with at most the given number of polls. -/
  | start (polls : Nat) (invocation : Invocation)
  /-- The process puts its next request. -/
  | resume (outside : Outside) (part : Nat)
  /-- The process is killed.  If it was to write a file, as many bytes may have been
  written. -/
  | kill (torn : Option Nat)
  /-- The child of a task does something to its files. -/
  | child (id : Text) (deed : Deed)

/-- The files that a process leaves that is killed. -/
def Session.leave
    (session : Session)
    (torn : Option Nat)
    (storage : Storage) : Storage :=
  match torn, session.rest with
  | some count, .ask (.file (.write path content)) _ =>
      (storage.answer (.write path (content.take count))).2
  | _, _ => storage

/-- The next request of a process. -/
def Session.resume
    (session : Session)
    (outside : Outside)
    (part : Nat)
    (storage : Storage) : Console :=
  match session.rest with
  | .done _ => ⟨storage, some session⟩
  | .ask request resume =>
      let answered := Terminal.respond outside part request ⟨storage, session.printed⟩
      ⟨answered.2.storage,
        some { session with rest := resume answered.1, printed := answered.2.printed }⟩

namespace Console

/-- One thing happens. -/
def step
    (workspace : Workspace)
    (console : Console) : Incident → Console
  | .start polls invocation =>
      { console with
        session := some ⟨invocation.command, (Application.run polls invocation).run, []⟩ }
  | .resume outside part =>
      match console.session with
      | none => console
      | some session => session.resume outside part console.storage
  | .kill torn =>
      match console.session with
      | none => console
      | some session => ⟨session.leave torn console.storage, none⟩
  | .child id deed =>
      { console with storage := deed.perform (workspace.controlDirectory id) console.storage }

/-- One thing after another happens. -/
def run
    (workspace : Workspace)
    (console : Console)
    (incidents : List Incident) : Console :=
  incidents.foldl (step workspace) console

end Console

/-- As long as a task is kept, its own child follows its order and no other task than itself
is cleaned up. Every command line opens the workspace. -/
def Incident.IsAdmitted
    (workspace : Workspace)
    (id : Text)
    (storage : Storage) : Incident → Prop
  | .start _ invocation =>
      invocation.command.Leaves id ∧ workspace.IsOpenedBy storage invocation.workspace
  | .child other deed =>
      TaskId.isWellFormed other = true ∧ (other = id → deed.IsDue workspace id storage)
  | _ => True

instance
    (workspace : Workspace)
    (id : Text)
    (storage : Storage)
    (incident : Incident) : Decidable (incident.IsAdmitted workspace id storage) :=
  match incident with
  | .start _ invocation =>
      inferInstanceAs (Decidable
        (invocation.command.Leaves id ∧ workspace.IsOpenedBy storage invocation.workspace))
  | .child other deed =>
      inferInstanceAs (Decidable (TaskId.isWellFormed other = true ∧
        (other = id → deed.IsDue workspace id storage)))
  | .resume _ _ => .isTrue trivial
  | .kill _ => .isTrue trivial

/-- A history during which a task is kept. -/
def Console.Admits
    (workspace : Workspace)
    (id : Text) : Console → List Incident → Prop
  | _, [] => True
  | console, incident :: incidents =>
      incident.IsAdmitted workspace id console.storage ∧
        (console.step workspace incident).Admits workspace id incidents

instance Console.decidableAdmits
    (workspace : Workspace)
    (id : Text) :
    (console : Console) → (incidents : List Incident) →
      Decidable (console.Admits workspace id incidents)
  | _, [] => .isTrue trivial
  | console, incident :: incidents =>
      let _ := decidableAdmits workspace id (console.step workspace incident) incidents
      inferInstanceAs (Decidable (incident.IsAdmitted workspace id console.storage ∧
        (console.step workspace incident).Admits workspace id incidents))

/-! ## What a process keeps to -/

/-- A process tends to the workspace, and if it shows the log of the task it shows all of
it. -/
structure Session.IsTrue
    (workspace : Workspace)
    (id : Text)
    (ended : Prop)
    (storage : Storage)
    (session : Session) : Prop where
  tends : ∃ root, workspace.IsOpenedBy storage root ∧
    session.rest.Meets (Terms.tending workspace id root) fun _ => True
  shows : session.command = .wait id ∨ session.command = .log id ∧ ended →
    TaskProgram.Attains workspace id
      (fun code after => ∀ exitCode, code = some exitCode → after.ShowsAll workspace id)
      session.rest ⟨storage, session.printed⟩

/-- What holds throughout a history. -/
structure Console.IsTrue
    (workspace : Workspace)
    (id : Text)
    (ended : Prop)
    (console : Console) : Prop where
  fresh : workspace.SavesFresh console.storage
  fits : (workspace.keptLog id console.storage).length < UInt64.size
  result : ended → workspace.HasResult id console.storage
  session : ∀ session, console.session = some session →
    session.IsTrue workspace id ended console.storage

section Histories

variable {workspace : Workspace} {id : Text} {ended : Prop} {storage : Storage}
  {session : Session} {console : Console}

theorem Workspace.IsOpenedBy.congr
    {root : Path}
    {after : Storage}
    (opened : workspace.IsOpenedBy storage root)
    (same : after.absolute? = storage.absolute?) :
    workspace.IsOpenedBy after root := by
  rw [IsOpenedBy, same]
  exact opened

/-- An answer to a process that tends to the workspace goes on with the files. -/
theorem Terminal.respond_goesOn
    {root : Path}
    (wellFormed : TaskId.isWellFormed id = true)
    {request : Request}
    (allowed : (Terms.tending workspace id root).allowed request)
    (outside : Outside)
    (part : Nat)
    (terminal : Terminal) :
    workspace.GoesOn id terminal.storage
      (Terminal.respond outside part request terminal).2.storage := by
  have same : workspace.GoesOn id terminal.storage terminal.storage :=
    (Workspace.Passes.refl workspace id terminal.storage).toGoesOn
  cases request with
  | file call => exact allowed.goesOn wellFormed terminal.storage
  | deliver chunk =>
      rw [respond]
      split <;> exact same
  | print content =>
      rw [respond]
      split <;> exact same
  | _ => exact same

/-- Whatever happens outside, a terminal answers as the terms expect. -/
theorem Terminal.respond_fair
    {root : Path}
    {terminal : Terminal}
    (fresh : workspace.SavesFresh terminal.storage)
    (opened : workspace.IsOpenedBy terminal.storage root)
    (request : Request)
    (outside : Outside)
    (part : Nat) :
    (Terms.tending workspace id root).fair request
      (Terminal.respond outside part request terminal).1 := by
  cases request with
  | file call => exact Terms.tending_fair fresh opened call
  | _ => trivial

/-- What one thing or several ones make of a console: the files go on, and what held still
holds. -/
structure Console.Advances
    (workspace : Workspace)
    (id : Text)
    (ended : Prop)
    (before after : Console) : Prop where
  goesOn : workspace.GoesOn id before.storage after.storage
  holds : after.IsTrue workspace id ended

theorem Console.Advances.refl
    (holds : console.IsTrue workspace id ended) :
    Console.Advances workspace id ended console console where
  goesOn := (Workspace.Passes.refl workspace id console.storage).toGoesOn
  holds := holds

/-- It is enough that the files go on and that the process is true to them. -/
theorem Console.IsTrue.advance
    (holds : console.IsTrue workspace id ended)
    {after : Console}
    (goesOn : workspace.GoesOn id console.storage after.storage)
    (session : ∀ session, after.session = some session →
      session.IsTrue workspace id ended after.storage) :
    Console.Advances workspace id ended console after where
  goesOn := goesOn
  holds :=
    { fresh := goesOn.fresh holds.fresh
      fits := goesOn.fits holds.fits
      result := fun isEnded => goesOn.result (holds.result isEnded)
      session }

/-- A process that starts is true to the task, as it has printed nothing yet. -/
theorem Console.IsTrue.start
    (wellFormed : TaskId.isWellFormed id = true)
    (holds : console.IsTrue workspace id ended)
    (polls : Nat)
    {invocation : Invocation}
    (leaves : invocation.command.Leaves id)
    (opened : workspace.IsOpenedBy console.storage invocation.workspace) :
    Console.Advances workspace id ended console
      (console.step workspace (.start polls invocation)) := by
  refine holds.advance (Workspace.Passes.refl workspace id console.storage).toGoesOn ?_
  intro session same
  cases same
  refine ⟨⟨invocation.workspace, opened, ?_⟩, fun shows => ?_⟩
  · exact Program.Meets.weaken (Application.run_tends polls leaves)
      (fun _ allowed => allowed) (fun _ _ fair => fair) fun _ _ => trivial
  · exact Application.run_attains wellFormed polls opened
      ⟨rfl, holds.fresh, holds.fits, holds.result⟩ shows

/-- A request that is answered keeps the process true to the task. -/
theorem Console.IsTrue.resume
    (wellFormed : TaskId.isWellFormed id = true)
    (holds : console.IsTrue workspace id ended)
    (outside : Outside)
    (part : Nat) :
    Console.Advances workspace id ended console
      (console.step workspace (.resume outside part)) := by
  rcases console with ⟨storage, session⟩
  cases session with
  | none => exact .refl holds
  | some session =>
      obtain ⟨⟨root, opened, meets⟩, shows⟩ := holds.session session rfl
      rcases session with ⟨command, rest, printed⟩
      cases rest with
      | done outcome => exact .refl holds
      | ask request resume =>
          let terminal : Terminal := ⟨storage, printed⟩
          have goesOn := Terminal.respond_goesOn wellFormed meets.1 outside part terminal
          have fair : (Terms.tending workspace id root).fair request
              (Terminal.respond outside part request terminal).1 :=
            Terminal.respond_fair holds.fresh opened request outside part
          refine holds.advance goesOn ?_
          intro session same
          cases same
          refine ⟨⟨root, opened.congr goesOn.absolute, meets.2 _ fair⟩, fun isShown => ?_⟩
          exact shows isShown terminal (.refl workspace id terminal) outside part

/-- A process that is killed may tear a write, and the task goes on all the same. -/
theorem Console.IsTrue.kill
    (wellFormed : TaskId.isWellFormed id = true)
    (holds : console.IsTrue workspace id ended)
    (torn : Option Nat) :
    Console.Advances workspace id ended console (console.step workspace (.kill torn)) := by
  rcases console with ⟨storage, session⟩
  cases session with
  | none => exact .refl holds
  | some session =>
      obtain ⟨⟨root, _, meets⟩, _⟩ := holds.session session rfl
      refine holds.advance ?_ (by simp [Console.step])
      show workspace.GoesOn id storage (session.leave torn storage)
      unfold Session.leave
      split
      · rename_i count path content resume same
        rw [same] at meets
        have tends : (FileCall.write path content).Tends workspace id := meets.1
        exact (tends.torn count).goesOn wellFormed storage
      · exact (Workspace.Passes.refl workspace id storage).toGoesOn

/-- A deed of any child keeps the process true to the task. -/
theorem Console.IsTrue.child
    (wellFormed : TaskId.isWellFormed id = true)
    (holds : console.IsTrue workspace id ended)
    {other : Text}
    {deed : Deed}
    (otherWellFormed : TaskId.isWellFormed other = true)
    (due : other = id → deed.IsDue workspace id console.storage) :
    Console.Advances workspace id ended console
      (console.step workspace (.child other deed)) := by
  have passes := deed.passes wellFormed otherWellFormed due
  refine holds.advance passes.toGoesOn ?_
  intro session isThere
  obtain ⟨⟨root, opened, meets⟩, shows⟩ := holds.session session isThere
  refine ⟨⟨root, opened.congr passes.absolute, meets⟩, fun isShown => ?_⟩
  refine Program.Attains.later (shows isShown) ?_ ⟨passes, rfl⟩
  intro outcome before after isLater attained code same exitCode isCode
  exact (attained code same exitCode isCode).later wellFormed isLater

/-- Whatever happens, the process stays true to the task. -/
theorem Console.IsTrue.step
    (wellFormed : TaskId.isWellFormed id = true)
    (holds : console.IsTrue workspace id ended)
    {incident : Incident}
    (admitted : incident.IsAdmitted workspace id console.storage) :
    Console.Advances workspace id ended console (console.step workspace incident) := by
  cases incident with
  | start polls invocation => exact holds.start wellFormed polls admitted.1 admitted.2
  | resume outside part => exact holds.resume wellFormed outside part
  | kill torn => exact holds.kill wellFormed torn
  | child other deed => exact holds.child wellFormed admitted.1 admitted.2

/-- Throughout a history the process stays true to the task. -/
theorem Console.IsTrue.run
    (wellFormed : TaskId.isWellFormed id = true)
    (holds : console.IsTrue workspace id ended)
    {incidents : List Incident}
    (admits : console.Admits workspace id incidents) :
    Console.Advances workspace id ended console (console.run workspace incidents) := by
  induction incidents generalizing console with
  | nil => exact .refl holds
  | cons incident incidents inductionHypothesis =>
      have first := holds.step wellFormed admits.1
      have rest := inductionHypothesis first.holds admits.2
      exact ⟨first.goesOn.trans rest.goesOn, rest.holds⟩

/-- A process that shows the log of the task and has come to its end has shown all of it. -/
theorem Console.IsTrue.showsAll
    (holds : console.IsTrue workspace id ended)
    (live : console.session = some session)
    (shows : session.command = .wait id ∨ session.command = .log id ∧ ended)
    {code : Int32}
    (done : session.code? = some code) :
    Terminal.ShowsAll workspace id ⟨console.storage, session.printed⟩ := by
  have attains := (holds.session session live).shows shows
  rcases session with ⟨command, rest, printed⟩
  cases rest with
  | ask request resume => cases done
  | done outcome =>
      cases outcome with
      | error fault => cases done
      | ok code => exact attains code rfl _ done

end Histories

/-- Whoever follows a task to its end has printed its whole log, whatever came before: the
log of a task that has ended, and of which nothing more will come.  Whoever asks for the log
next, and has the workspace open, prints the same and succeeds, unless standard output refuses
it.  So does everybody who follows the task or asks for its log later and comes to the end. -/
theorem Console.wait_shows_log
    (workspace : Workspace)
    (id : Text)
    (wellFormed : TaskId.isWellFormed id = true)
    (console : Console)
    (fresh : workspace.SavesFresh console.storage)
    (fits : (workspace.keptLog id console.storage).length < UInt64.size)
    (idle : console.session = none)
    (incidents : List Incident)
    (admits : console.Admits workspace id incidents)
    (session : Session)
    (live : (console.run workspace incidents).session = some session)
    (waits : session.command = .wait id)
    (code : Int32)
    (ended : session.code? = some code) :
    let after := console.run workspace incidents
    workspace.HasResult id after.storage ∧
    session.printed = workspace.keptLog id after.storage ∧
    (∀ settings polls,
      (Application.perform workspace settings polls (.log id)).Ends workspace id
        (fun outcome last =>
          outcome = .ok (some 0) ∧ last.printed = session.printed ∨
            last.printed <+: session.printed ∧
              ∃ cause, outcome = .error (.files (.standardOutput cause)))
        ⟨after.storage, []⟩) ∧
    ∀ later, after.Admits workspace id later →
      workspace.keptLog id (after.run workspace later).storage = session.printed ∧
      ∀ again, (after.run workspace later).session = some again →
        again.command = .wait id ∨ again.command = .log id →
        ∀ code, again.code? = some code → again.printed = session.printed := by
  intro after
  have begins : console.IsTrue workspace id False :=
    ⟨fresh, fits, False.elim, by simp [idle]⟩
  have holds := (begins.run wellFormed admits).holds
  have shown := holds.showsAll live (Or.inl waits) ended
  have answers := fun settings polls =>
    Application.log_ends wellFormed holds.fresh shown settings polls
  refine ⟨shown.ended, shown.whole, answers, ?_⟩
  intro later admitsLater
  -- The process that has ended is no reader of the log, so readers may count on the result.
  have goesOnWith : after.IsTrue workspace id True := by
    refine ⟨holds.fresh, holds.fits, fun _ => shown.ended, ?_⟩
    intro other same
    rw [live] at same
    cases same
    have stays := holds.session session live
    exact ⟨stays.tends, fun _ => stays.shows (Or.inl waits)⟩
  have advances := goesOnWith.run wellFormed admitsLater
  have final := advances.goesOn.final shown.ended
  refine ⟨final.trans shown.whole.symm, ?_⟩
  intro again isThere shows code done
  have readers : again.command = .wait id ∨ again.command = .log id ∧ True :=
    shows.imp_right fun asks => ⟨asks, trivial⟩
  have shownAgain := advances.holds.showsAll isThere readers done
  exact shownAgain.whole.trans (final.trans shown.whole.symm)

namespace RepeatedLogsSample

def workspace : Workspace :=
  ⟨Path.ofText "/w".toList⟩

/-- All goes well in the world outside. -/
def outside : Outside :=
  fun request => (Reply.calm.respond request Memory.new).1

def invocation (command : Command) : Invocation where
  workspace := Path.ofText "/w".toList
  settings := Path.ofText Settings.fileName
  level := none
  command := command

def arguments : LaunchArguments where
  file := none
  inline := some "exit 3".toList
  capture := false
  platform := none
  environment := []

def id : Text :=
  TaskId.ofWord Reply.calm.word

/-- A process goes on by so many requests. -/
def goOn (count : Nat) : List Incident :=
  List.replicate count (.resume outside 0)

/-- There is nothing yet. -/
def console : Console :=
  ⟨.inMemory Memory.new, none⟩

/-- A task is run, and its supervisor is killed when it has shown a part of the log.  Another
one waits for the task and begins with the log anew. -/
def history : List Incident :=
  .start 3 (invocation (.run arguments)) :: goOn 22
    ++ .child id (.log (Utf8.encode "ab\n".toList)) :: goOn 7
    ++ .kill none :: .start 3 (invocation (.wait id)) :: goOn 16
    ++ .child id (.log (Utf8.encode "c\n".toList)) ::
      .child id (.result (ResultText.ofExitCode 3)) :: goOn 10

/-- Somebody asks for the log. -/
def asking : List Incident :=
  .start 0 (invocation (.log id)) :: goOn 11

/-- What can be told of a process from outside. -/
def report (session : Session) : Command × Option Int32 × Bytes :=
  (session.command, session.code?, session.printed)

/-- Nothing was saved yet. -/
theorem savesFresh : workspace.SavesFresh console.storage := by
  intro other wellFormed content stands
  have spot : (workspace.handleFile other).location =
      workspace.tasksDirectory.location ++
        [.name (Utf8.encode (other ++ ".toml".toList))] :=
    Path.location_join (TaskId.isFileName_saved wellFormed).toIsName workspace.tasksDirectory
  have length : workspace.tasksDirectory.location.length = 2 := by decide
  have notRoot : (workspace.handleFile other).location ≠ [.root] := by
    intro same
    have lengths := congrArg List.length same
    rw [spot, List.length_append, length] at lengths
    cases lengths
  have vacant : Memory.new.entryAt (workspace.handleFile other) = none := by
    rw [Memory.entryAt, Memory.new, EntryMap.lookup_insert, if_neg notRoot,
      EntryMap.lookup_empty]
  change Memory.new.entryAt (workspace.handleFile other) = some (.file content) at stands
  rw [vacant] at stands
  cases stands

end RepeatedLogsSample

open RepeatedLogsSample in
theorem Console.wait_shows_log_sample :
    let after := console.run workspace history
    console.Admits workspace id history ∧ after.Admits workspace id asking ∧
      ∃ session again,
        after.session = some session ∧
        report session = (.wait id, some 3, Utf8.encode "ab\nc\n".toList) ∧
        workspace.keptLog id after.storage = session.printed ∧
        (after.run workspace asking).session = some again ∧
        again.command = .log id ∧ again.code? = some 0 ∧
        again.printed = session.printed := by
  intro after
  have admits : console.Admits workspace id history := by decide +kernel
  have admitsAsking : after.Admits workspace id asking := by decide +kernel
  have reported : after.session.map report =
      some (.wait id, some 3, Utf8.encode "ab\nc\n".toList) := by decide +kernel
  have asked : (after.run workspace asking).session.map
      (fun session => (session.command, session.code?)) = some (.log id, some 0) := by
    decide +kernel
  obtain ⟨session, live, isReport⟩ := Option.map_eq_some_iff.mp reported
  obtain ⟨again, liveAgain, isAgain⟩ := Option.map_eq_some_iff.mp asked
  have waits : session.command = .wait id := congrArg Prod.fst isReport
  have ended : session.code? = some 3 := congrArg (·.2.1) isReport
  have asks : again.command = .log id := congrArg Prod.fst isAgain
  have answered : again.code? = some 0 := congrArg Prod.snd isAgain
  obtain ⟨_, whole, _, later⟩ :=
    Console.wait_shows_log workspace id (by decide) console savesFresh
      (by decide +kernel) rfl history admits session live waits 3 ended
  obtain ⟨_, repeated⟩ := later asking admitsAsking
  exact ⟨admits, admitsAsking, session, again, live, isReport, whole.symm, liveAgain, asks,
    answered, repeated again liveAgain (Or.inr asks) 0 answered⟩

end DetachedTasks
