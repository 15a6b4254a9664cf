import DetachedTasks.Application
import DetachedTasks.Proofs.HandleRoundTrip
import DetachedTasks.Proofs.MemoryPrograms
import DetachedTasks.Proofs.StoragePrograms
import DetachedTasks.Proofs.TaskTerritory

/-!
# How far a cleanup reaches

A cleanup removes the file and the directory that its id names, and looks at nothing else.
An id is not checked: it is joined to the directory of all tasks, and an empty id names
that directory itself.  For an id that is a plain name, under which no handle of another
task was saved, a cleanup stays within its own task.
-/

namespace DetachedTasks

open Sandbox (Storage)

/-! ## What a cleanup may remove -/

/-- Files from which at most the saved handle and the control directory of an id were
removed. -/
structure Sandbox.Storage.IsCleaned
    (workspace : Workspace)
    (id : Text)
    (storage later : Storage) : Prop where
  spot : ∀ path, later.spot path = storage.spot path
  standing : ∀ path,
    later.standing path = storage.standing path ∨
      later.standing path = none ∧
        (storage.spot path = storage.spot (workspace.handleFile id) ∧
            (∃ content, storage.standing (workspace.handleFile id) = some (.file content)) ∨
          storage.spot (workspace.controlDirectory id) <+: storage.spot path ∧
            storage.standing (workspace.controlDirectory id) = some .directory)

/-- To remove what an id names, and otherwise only to look. -/
def Terms.cleaning
    (workspace : Workspace)
    (id : Text) : Terms where
  allowed := fun
    | .file call =>
        (∃ path, call.LooksAt path) ∨ call = .removeFile (workspace.handleFile id) ∨
          call = .removeTree (workspace.controlDirectory id)
    | _ => True
  fair := fun _ _ => True

/-- To look only, and to be told what is there. -/
def Terms.looking (storage : Storage) : Terms where
  allowed := fun
    | .file call => ∃ path, call.LooksAt path
    | _ => True
  fair := fun
    | .file call, answer => answer = (storage.answer call).1
    | _, _ => True

section Reach

variable {workspace : Workspace} {id : Text} {storage later : Storage}

namespace Sandbox.Storage.IsCleaned

/-- Files to which nothing has happened are as a cleanup may leave them. -/
theorem refl
    (workspace : Workspace)
    (id : Text)
    (storage : Storage) : IsCleaned workspace id storage storage :=
  ⟨fun _ => rfl, fun _ => Or.inl rfl⟩

/-- What stands later stood before. -/
theorem stood
    (cleaned : IsCleaned workspace id storage later)
    {path : Path}
    {entry : Entry}
    (stands : later.standing path = some entry) :
    storage.standing path = some entry := by
  rcases cleaned.standing path with same | ⟨gone, _⟩
  · exact same.symm.trans stands
  · rw [gone] at stands
    cases stands

/-- The removal of the saved handle is within the reach of a cleanup. -/
theorem removeFile
    (cleaned : IsCleaned workspace id storage later) :
    IsCleaned workspace id storage
      (later.answer (.removeFile (workspace.handleFile id))).2 := by
  have removed := standing_removeFile later (workspace.handleFile id)
  constructor
  · intro path
    exact (removed path).1.trans (cleaned.spot path)
  · intro path
    rcases (removed path).2 with same | ⟨gone, here, content, isFile⟩
    · rw [same]
      exact cleaned.standing path
    · rw [cleaned.spot, cleaned.spot] at here
      exact Or.inr ⟨gone, Or.inl ⟨here, content, cleaned.stood isFile⟩⟩

/-- The removal of the control directory is within the reach of a cleanup. -/
theorem removeTree
    (cleaned : IsCleaned workspace id storage later) :
    IsCleaned workspace id storage
      (later.answer (.removeTree (workspace.controlDirectory id))).2 := by
  have pruned := prunes_removeTree later (workspace.controlDirectory id)
  constructor
  · intro path
    exact (pruned.spot path).trans (cleaned.spot path)
  · intro path
    by_cases untouched :
        (later.answer (.removeTree (workspace.controlDirectory id))).2.standing path =
          later.standing path
    · rw [untouched]
      exact cleaned.standing path
    · have gone := (pruned.standing path).resolve_left untouched
      have below : later.spot (workspace.controlDirectory id) <+: later.spot path := by
        by_contra apart
        exact untouched (pruned.elsewhere path apart)
      have stands : later.standing (workspace.controlDirectory id) = some .directory := by
        by_contra spared
        exact untouched (pruned.spared spared path)
      rw [cleaned.spot, cleaned.spot] at below
      exact Or.inr ⟨gone, Or.inr ⟨below, cleaned.stood stands⟩⟩

end Sandbox.Storage.IsCleaned

/-- A program that only removes what an id names cleans at most that. -/
theorem Program.Meets.run_cleaning
    {promise : α → Prop}
    {program : Program α}
    (meets : program.Meets (Terms.cleaning workspace id) promise)
    (outside : Outside)
    (storage : Storage) :
    Storage.IsCleaned workspace id storage
      (program.run (Storage.respond outside) storage).2 := by
  apply (meets.run_storage _ _ _ outside (Storage.IsCleaned.refl workspace id storage)).2
  · intro call later allowed cleaned
    refine ⟨trivial, ?_⟩
    rcases allowed with ⟨path, looks⟩ | rfl | rfl
    · rw [Storage.answer_of_looksAt looks]
      exact cleaned
    · exact cleaned.removeFile
    · exact cleaned.removeTree
  · exact fun _ _ _ => trivial

/-- Looking at files, and whatever is outside of them, is within the reach of a cleanup. -/
theorem Terms.cleaning_serves
    (workspace : Workspace)
    (id : Text)
    (paths : List Path) :
    (Terms.cleaning workspace id).Serves paths where
  outside := by
    intro request outside
    cases request with
    | file call => exact False.elim outside
    | _ => trivial
  look := fun path _ _ looks => Or.inl ⟨path, looks⟩

/-- A cleanup asks for nothing that is out of its reach. -/
theorem Handle.cleanup_meets (handle : Handle) :
    (handle.cleanup workspace).Keeps (Terms.cleaning workspace handle.id) :=
  (Terms.cleaning_serves workspace handle.id _).cleanup (Or.inr (Or.inl rfl))
    (Or.inr (Or.inr rfl))

/-! ## What is loaded -/

/-- Under these terms a program may look wherever it likes. -/
theorem Terms.looking_serves
    (storage : Storage)
    (paths : List Path) :
    (Terms.looking storage).Serves paths where
  outside := by
    intro request outside
    cases request with
    | file call => exact False.elim outside
    | _ => trivial
  look := fun path _ _ looks => ⟨path, looks⟩

/-- If a handle is saved under an id, it is the handle of that id. -/
def Workspace.IsOwn
    (workspace : Workspace)
    (id : Text)
    (storage : Storage) : Prop :=
  ∀ text handle,
    (storage.answer (.readText (workspace.handleFile id))).1 = .ok text →
    Handle.ofToml text = .ok handle → handle.id = id

/-- Pieces that are all scalar values show the text of these values. -/
theorem Utf8.shown_of_scalars
    {pieces : List Utf8.Piece}
    {text : Text}
    (scalars : pieces.mapM Utf8.Piece.scalar? = some text) :
    pieces.map Utf8.Piece.shown = text := by
  induction pieces generalizing text with
  | nil =>
      cases scalars
      rfl
  | cons piece pieces inductionHypothesis =>
      rw [List.mapM_cons] at scalars
      cases piece with
      | malformed octets cutShort => cases scalars
      | scalar character =>
          cases rest : pieces.mapM Utf8.Piece.scalar? with
          | none =>
              rw [rest] at scalars
              cases scalars
          | some others =>
              rw [rest] at scalars
              cases scalars
              exact congrArg (character :: ·) (inductionHypothesis rest)

/-- A file that is read as text is shown as it is decoded. -/
theorem Sandbox.Storage.answer_readText_ok
    {path : Path}
    {text : Text}
    (answered : (storage.answer (.readText path)).1 = .ok text) :
    ∃ held, storage.look path = some (.file held) ∧ text = Utf8.decodeLossy held := by
  cases storage with
  | inMemory memory =>
      simp only [answer, Memory.answer, Memory.readText, Memory.read] at answered
      cases found : memory.entryAt path with
      | none => rw [found] at answered; cases answered
      | some entry =>
          cases entry with
          | directory => rw [found] at answered; cases answered
          | file held =>
              rw [found] at answered
              cases fault : Utf8.firstFault? held with
              | some first => simp only [bind, Except.bind, fault] at answered; cases answered
              | none =>
                  simp only [bind, Except.bind, fault] at answered
                  cases answered
                  exact ⟨held, found, rfl⟩
  | tree system =>
      simp only [answer, Posix.answer, Posix.during, Posix.textAt, Posix.contentAt]
        at answered
      cases found : system.entryAt path with
      | error fault => rw [found] at answered; cases answered
      | ok pair =>
          rcases pair with ⟨place, entry⟩
          rw [found] at answered
          cases entry with
          | directory => cases answered
          | file held =>
              simp only [bind, Except.bind] at answered
              cases decoded : Utf8.decode? held with
              | none => rw [decoded] at answered; cases answered
              | some other =>
                  rw [decoded] at answered
                  cases answered
                  refine ⟨held, ?_, (Utf8.shown_of_scalars decoded).symm⟩
                  rw [look, found]
                  rfl

/-- What a handle saved under its own id says is its own id. -/
theorem Workspace.isOwn_of_saved
    (saved : ∀ held, storage.look (workspace.handleFile id) = some (.file held) →
      ∃ handle : Handle, handle.id = id ∧ held = Utf8.encode handle.toToml) :
    workspace.IsOwn id storage := by
  intro text handle answered read
  obtain ⟨held, isFile, rfl⟩ := Storage.answer_readText_ok answered
  obtain ⟨written, same, rfl⟩ := saved held isFile
  rw [Utf8.decodeLossy_encode, Handle.ofToml_toToml] at read
  cases read
  exact same

/-- To load a handle changes nothing, and gives the handle of the id. -/
theorem Handle.run_load
    (own : workspace.IsOwn id storage)
    (outside : Outside) :
    let loaded := (Handle.load workspace id).run.run (Storage.respond outside) storage
    (∀ handle, loaded.1 = .ok handle → handle.id = id) ∧ loaded.2 = storage := by
  have meets :
      (Handle.load workspace id).Meets (Terms.looking storage) fun handle =>
        handle.id = id := by
    apply (Terms.looking_serves storage _).load_of_fair
    · intro reply fair text handle answered read
      apply own text handle _ read
      rw [← answered]
      exact fair.symm
    · rfl
  apply Program.Meets.run_storage (fun later => later = storage) _ _ outside meets rfl
  · rintro call later ⟨path, looks⟩ rfl
    exact ⟨rfl, Storage.answer_of_looksAt looks⟩
  · intro request answer outside
    cases request with
    | file call => exact False.elim outside
    | _ => trivial

/-! ## Plain ids -/

/-- The saved handle stands beside the control directory. -/
theorem Workspace.spot_handleFile
    (plain : Path.IsName (Utf8.encode id)) :
    storage.spot (workspace.handleFile id) =
      storage.spot workspace.tasksDirectory ++
        [.name (Utf8.encode (id ++ ".toml".toList))] :=
  Storage.spot_join (TaskId.isName_saved plain) storage workspace.tasksDirectory

/-- What lies below the spots of two saved handles lies below one. -/
theorem Workspace.eq_of_saved_below
    {base place : Location}
    {first second : Text}
    (below : base ++ [.name (Utf8.encode (first ++ ".toml".toList))] <+: place)
    (belowSecond : base ++ [.name (Utf8.encode (second ++ ".toml".toList))] <+: place) :
    first = second :=
  List.append_cancel_right
    (Utf8.encode_injective (Workspace.same_of_below below belowSecond))

/-- The place of a saved handle tells its id. -/
theorem Workspace.eq_of_spot_handleFile
    {other : Text}
    (plain : Path.IsName (Utf8.encode id))
    (otherPlain : Path.IsName (Utf8.encode other))
    (same : storage.spot (workspace.handleFile id) =
      storage.spot (workspace.handleFile other)) :
    id = other := by
  rw [spot_handleFile plain, spot_handleFile otherPlain] at same
  have below := List.prefix_refl (storage.spot workspace.tasksDirectory ++
    [Component.name (Utf8.encode (other ++ ".toml".toList))])
  exact eq_of_saved_below (same ▸ below) below

/-- Whatever is not in the directory of all tasks is as it was, and so are the control
directories and the saved handles of all other tasks. -/
structure Workspace.SparesOthers
    (workspace : Workspace)
    (id : Text)
    (storage later : Storage) : Prop where
  outside : ∀ path,
    storage.spot path = storage.spot workspace.tasksDirectory ∨
      ¬ storage.spot workspace.tasksDirectory <+: storage.spot path →
    later.standing path = storage.standing path
  directory : ∀ other, TaskId.isWellFormed other = true → other ≠ id → ∀ path,
    storage.spot (workspace.controlDirectory other) <+: storage.spot path →
    later.standing path = storage.standing path
  handle : ∀ other, TaskId.isWellFormed other = true → other ≠ id → ∀ content,
    storage.standing (workspace.handleFile other) = some (.file content) →
    later.standing (workspace.handleFile other) = some (.file content)

/-- A name in the directory of all tasks lies strictly below it. -/
theorem strictly_below
    {base place : Location}
    {component : Component}
    (below : base ++ [component] <+: place) :
    base <+: place ∧ place ≠ base := by
  refine ⟨(List.prefix_append _ _).trans below, ?_⟩
  rintro rfl
  have longer := below.length_le
  rw [List.length_append] at longer
  exact absurd longer (Nat.not_succ_le_self _)

/-- What is gone after a cleanup had the name of the task or of its saved handle in the
directory of all tasks, or lay below it. -/
theorem Sandbox.Storage.IsCleaned.gone
    (cleaned : Storage.IsCleaned workspace id storage later)
    (plain : Path.IsName (Utf8.encode id))
    (path : Path) :
    later.standing path = storage.standing path ∨
      storage.spot workspace.tasksDirectory ++
          [.name (Utf8.encode (id ++ ".toml".toList))] <+: storage.spot path ∨
        storage.spot workspace.tasksDirectory ++ [.name (Utf8.encode id)] <+:
            storage.spot path ∧
          storage.standing (workspace.controlDirectory id) = some .directory := by
  rcases cleaned.standing path with same | ⟨_, ⟨here, _⟩ | below⟩
  · exact Or.inl same
  · rw [here, Workspace.spot_handleFile plain]
    exact Or.inr (Or.inl (List.prefix_refl _))
  · rw [Workspace.spot_controlDirectory plain] at below
    exact Or.inr (Or.inr below)

/-- What is within the reach of the cleanup of one task belongs to no other task. -/
theorem Sandbox.Storage.IsCleaned.sparesOthers
    (plain : Path.IsName (Utf8.encode id))
    (cleaned : Storage.IsCleaned workspace id storage later) :
    workspace.SparesOthers id storage later := by
  constructor
  · intro path apart
    rcases cleaned.gone plain path with same | below | ⟨below, _⟩
    · exact same
    · obtain ⟨within, strict⟩ := strictly_below below
      exact absurd apart (not_or.mpr ⟨strict, not_not.mpr within⟩)
    · obtain ⟨within, strict⟩ := strictly_below below
      exact absurd apart (not_or.mpr ⟨strict, not_not.mpr within⟩)
  · intro other wellFormed different path below
    rw [workspace.spot_controlDirectory (TaskId.isFileName wellFormed).toIsName] at below
    rcases cleaned.gone plain path with same | belowOwn | ⟨belowOwn, _⟩
    · exact same
    · have sameName := Workspace.same_of_below belowOwn below
      exact absurd sameName (TaskId.saved_ne wellFormed id)
    · have sameName := Workspace.same_of_below below belowOwn
      exact absurd (Utf8.encode_injective sameName) different
  · intro other wellFormed different content stands
    have saved :
        storage.spot (workspace.handleFile other) =
          storage.spot workspace.tasksDirectory ++
            [.name (Utf8.encode (other ++ ".toml".toList))] :=
      Workspace.spot_handleFile (TaskId.isFileName wellFormed).toIsName
    have here :
        storage.spot workspace.tasksDirectory ++
            [.name (Utf8.encode (other ++ ".toml".toList))] <+:
          storage.spot (workspace.handleFile other) := by
      rw [saved]
    rcases cleaned.gone plain (workspace.handleFile other) with
      same | below | ⟨below, isDirectory⟩
    · exact same.trans stands
    · exact absurd (Workspace.eq_of_saved_below here below) different
    · -- The id is the name of the saved handle, which is a file and no directory.
      have sameName := Workspace.same_of_below below here
      have sameSpot :
          storage.spot (workspace.handleFile other) =
            storage.spot (workspace.controlDirectory id) := by
        rw [saved, Workspace.spot_controlDirectory plain, sameName]
      rw [Storage.standing_congr sameSpot, isDirectory] at stands
      cases stands

/-- A cleanup with a plain id removes nothing of another task, nothing outside the directory
of the tasks, and not that directory. -/
theorem Application.cleanup_sparesOthers
    (workspace : Workspace)
    (settings : Settings)
    (polls : Nat)
    (id : Text)
    (plain : Path.IsName (Utf8.encode id))
    (outside : Outside)
    (storage : Storage)
    (own : workspace.IsOwn id storage) :
    workspace.SparesOthers id storage
      ((perform workspace settings polls (.cleanup id)).run.run
        (Storage.respond outside) storage).2 := by
  obtain ⟨named, unchanged⟩ := Handle.run_load own outside
  have program :
      perform workspace settings polls (.cleanup id) =
        Handle.load workspace id >>= fun handle =>
          handle.cleanup workspace >>= fun _ => pure (some 0) := by
    rw [perform]
  rw [program, ExceptT.run_bind]
  change workspace.SparesOthers id storage
    (((Handle.load workspace id).run.bind _).run (Storage.respond outside) storage).2
  rw [Program.run_bind, unchanged]
  cases loaded : ((Handle.load workspace id).run.run (Storage.respond outside) storage).1 with
  | error fault => exact (Storage.IsCleaned.refl workspace id storage).sparesOthers plain
  | ok handle =>
      have same := named handle loaded
      subst same
      have meets : (handle.cleanup workspace >>= fun _ => pure (some (0 : Int32))).Keeps
          (Terms.cleaning workspace handle.id) :=
        TaskProgram.Meets.bind handle.cleanup_meets fun _ _ => TaskProgram.Meets.pure trivial
      exact (Program.Meets.run_cleaning meets outside storage).sparesOthers plain

end Reach

namespace CleanupSample

def workspace : Workspace :=
  ⟨Path.ofText "/w".toList⟩

/-- A task that has ended, with its saved handle. -/
def withTask
    (memory : Memory)
    (id : Text) : Memory :=
  let handle := Handle.attach id true
  (memory.addFile (handle.resultFile workspace) (ResultText.ofExitCode 3)).addFile
    (workspace.handleFile id) (Utf8.encode handle.toToml)

def first : Text := TaskId.ofWord 1

def second : Text := TaskId.ofWord 2

def storage : Storage :=
  .inMemory (withTask (withTask Memory.new first) second)

def outside : Outside :=
  fun request => (Reply.calm.respond request Memory.new).1

/-- The files after a cleanup. -/
def cleaned (id : Text) : Storage :=
  ((Application.perform workspace Settings.default 0 (.cleanup id)).run.run
    (Storage.respond outside) storage).2

end CleanupSample

open CleanupSample in
/-- One of two tasks is cleaned up. -/
theorem Application.cleanup_sparesOthers_sample :
    workspace.SparesOthers first storage (cleaned first) ∧
      (cleaned first).standing (workspace.controlDirectory first) = none ∧
      (cleaned first).standing (workspace.handleFile first) = none := by
  have own : workspace.IsOwn first storage := by
    apply Workspace.isOwn_of_saved
    intro held isFile
    refine ⟨Handle.attach first true, rfl, ?_⟩
    have saved :
        storage.look (workspace.handleFile first) =
          some (.file (Utf8.encode (Handle.attach first true).toToml)) := by decide +kernel
    rw [saved] at isFile
    cases isFile
    rfl
  have plain : Path.IsName (Utf8.encode first) :=
    (TaskId.isFileName (by decide)).toIsName
  refine ⟨?_, by decide +kernel, by decide +kernel⟩
  exact Application.cleanup_sparesOthers workspace Settings.default 0 first plain outside
    storage own

open CleanupSample in
/-- An empty id names the directory of all tasks, and a cleanup removes it. -/
theorem Application.not_cleanup_sparesOthers :
    ¬ ∀ (workspace : Workspace) (settings : Settings) (polls : Nat) (id : Text)
        (outside : Outside) (storage : Storage),
      workspace.SparesOthers id storage
        ((perform workspace settings polls (.cleanup id)).run.run
          (Storage.respond outside) storage).2 := by
  intro all
  have spared := (all workspace Settings.default 0 [] outside storage).directory second
    (by decide) (by decide) (workspace.controlDirectory second) (List.prefix_refl _)
  have gone : (cleaned []).standing (workspace.controlDirectory second) = none := by
    decide +kernel
  have stood : storage.standing (workspace.controlDirectory second) = some .directory := by
    decide +kernel
  rw [cleaned, spared, stood] at gone
  cases gone

end DetachedTasks
