import DetachedTasks.Proofs.LiveScene
import DetachedTasks.Proofs.TaskQueries

/-!
# Operations on a live task

What each operation of a handle can come to while the child goes on: one case for every way
that it ends, with what stood in the files at the moment that decided.
-/

namespace DetachedTasks

open Sandbox ResultText

namespace Scene

variable {directory : Path} {scene : Scene}

/-! ### Handing on a chunk -/

/-- How handing on a chunk ends, right after the log was read. -/
inductive Delivery
    (directory : Path)
    (scene : Scene)
    (attempt : Attempt)
    (others : List Attempt)
    (chunk : Bytes) : Except TaskFault Unit → Scene → Prop where
  | accepted
      {after : Scene}
      (leads : Leads directory scene after)
      (accepting : SinkMood.Accepting scene.moods)
      (attempts :
        after.attempts = { attempt with received := chunk, accepted := true } :: others) :
      Delivery directory scene attempt others chunk (.ok ()) after
  /-- The sink refused, after it had received a part of the chunk or all of it. -/
  | refused
      {after : Scene}
      {received : Bytes}
      {cause : SinkFault}
      (leads : Leads directory scene after)
      (refusing : ¬ SinkMood.Accepting scene.moods)
      (part : received <+: chunk)
      (attempts :
        after.attempts = { attempt with received, accepted := false } :: others) :
      Delivery directory scene attempt others chunk (.error (.sink cause)) after

/-- The first mood of a sink is for the chunk, the second one for the flush. -/
theorem accepting_moods_iff (scene : Scene) (chunk : Bytes) :
    SinkMood.Accepting scene.moods ↔
      (scene.advance directory).mood = .accepts ∧
        (((scene.advance directory).receive chunk).advance directory).mood = .accepts := by
  rw [SinkMood.accepting_iff, mood, mood, advance_moods, advance_moods, receive, advance_moods]

/-- Handing on a chunk ends in one of these ways. -/
theorem run_deliver
    {attempt : Attempt}
    {others : List Attempt}
    (attempts : scene.attempts = attempt :: others)
    (nothing : attempt.received = [])
    (open? : attempt.accepted = false)
    (chunk : Bytes) :
    Delivery directory scene attempt others chunk
      (run directory (Handle.deliver chunk).run scene).1
      (run directory (Handle.deliver chunk).run scene).2 := by
  rw [Handle.deliver, run_ask]
  cases mood : (scene.advance directory).mood with
  | refuses received cause =>
      have answered :
          handler directory (.deliver chunk) scene =
            (.error cause, (scene.advance directory).receive (chunk.take received)) := by
        simp only [handler, respond, mood]
      rw [answered, run_throw]
      refine .refused ((Leads.advance scene).trans (Leads.receive _ _)) ?_
        (List.take_prefix received chunk) ?_
      · rw [accepting_moods_iff scene chunk, mood]
        simp
      · simp [receive, attempts, nothing, ← open?]
  | accepts =>
      have answered :
          handler directory (.deliver chunk) scene =
            (.ok (), (scene.advance directory).receive chunk) := by
        simp only [handler, respond, mood]
      rw [answered, run_ask]
      have leads : Leads directory scene
          (((scene.advance directory).receive chunk).advance directory) :=
        ((Leads.advance scene).trans (Leads.receive _ _)).trans (Leads.advance _)
      cases later : (((scene.advance directory).receive chunk).advance directory).mood with
      | refuses received cause =>
          have flushed :
              handler directory .flush ((scene.advance directory).receive chunk) =
                (.error cause,
                  (((scene.advance directory).receive chunk).advance directory).passOn
                    false) := by
            simp only [handler, respond, later]
          rw [flushed, run_throw]
          refine .refused (leads.trans (Leads.passOn _ _)) ?_ (List.prefix_refl chunk) ?_
          · rw [accepting_moods_iff scene chunk, later]
            simp
          · simp [receive, passOn, attempts, nothing]
      | accepts =>
          have flushed :
              handler directory .flush ((scene.advance directory).receive chunk) =
                (.ok (),
                  (((scene.advance directory).receive chunk).advance directory).passOn
                    true) := by
            simp only [handler, respond, later]
          rw [flushed, run_pure]
          refine .accepted (leads.trans (Leads.passOn _ _))
            ((accepting_moods_iff scene chunk).mpr ⟨mood, later⟩) ?_
          simp [receive, passOn, attempts, nothing]

/-! ### Copying new log -/

section Copying

variable (handle : Handle) (workspace : Workspace)

/-- How a copy of new log ends. -/
inductive Copied
    (handle : Handle)
    (workspace : Workspace)
    (scene : Scene) : Except TaskFault (Bool × Handle) → Scene → Prop where
  | directoryMissing
      {after : Scene}
      (leads : Leads (handle.directory workspace) scene after)
      (attempts : after.attempts = scene.attempts)
      (gone : after.storage.look (handle.directory workspace) ≠ some .directory) :
      Copied handle workspace scene
        (.error (.controlDirectoryMissing (handle.directory workspace))) after
  | noLog
      {after : Scene}
      (leads : Leads (handle.directory workspace) scene after)
      (attempts : after.attempts = scene.attempts)
      (absent : after.storage.look (handle.logFile workspace) = none) :
      Copied handle workspace scene (.ok (false, handle)) after
  /-- Something stood in place of the log, and it could not be read. -/
  | unreadable
      {earlier after : Scene}
      {attempt : Attempt}
      {cause : FileFault}
      (leadsEarlier : Leads (handle.directory workspace) scene earlier)
      (leads : Leads (handle.directory workspace) earlier after)
      (stood : earlier.storage.look (handle.logFile workspace) ≠ none)
      (noFile : ∀ held, after.storage.look (handle.logFile workspace) ≠ some (.file held))
      (attempts : after.attempts = attempt :: scene.attempts)
      (offset : attempt.offset = handle.logOffset.toNat)
      (log : attempt.log = [])
      (received : attempt.received = []) :
      Copied handle workspace scene (.error (.files cause)) after
  | nothingNew
      {after : Scene}
      {attempt : Attempt}
      (leads : Leads (handle.directory workspace) scene after)
      (attempts : after.attempts = attempt :: scene.attempts)
      (offset : attempt.offset = handle.logOffset.toNat)
      (log : attempt.log = after.storage.content (handle.logFile workspace))
      (atEnd : attempt.log.length ≤ attempt.offset)
      (received : attempt.received = []) :
      Copied handle workspace scene (.ok (false, handle)) after
  | refused
      {middle after : Scene}
      {attempt : Attempt}
      {cause : SinkFault}
      (leadsMiddle : Leads (handle.directory workspace) scene middle)
      (leads : Leads (handle.directory workspace) middle after)
      (refusing : ¬ SinkMood.Accepting scene.moods)
      (attempts : after.attempts = attempt :: scene.attempts)
      (offset : attempt.offset = handle.logOffset.toNat)
      (log : attempt.log = middle.storage.content (handle.logFile workspace))
      (refused : attempt.accepted = false)
      (part : attempt.received <+: attempt.log.drop attempt.offset) :
      Copied handle workspace scene (.error (.sink cause)) after
  | delivered
      {middle after : Scene}
      {attempt : Attempt}
      (leadsMiddle : Leads (handle.directory workspace) scene middle)
      (leads : Leads (handle.directory workspace) middle after)
      (attempts : after.attempts = attempt :: scene.attempts)
      (offset : attempt.offset = handle.logOffset.toNat)
      (log : attempt.log = middle.storage.content (handle.logFile workspace))
      (beforeEnd : attempt.offset < attempt.log.length)
      (accepting : SinkMood.Accepting scene.moods)
      (accepted : attempt.accepted = true)
      (received : attempt.received = attempt.log.drop attempt.offset) :
      Copied handle workspace scene
        (.ok (true,
          { handle with
            logOffset :=
              handle.logOffset + (attempt.log.drop attempt.offset).length.toUInt64 }))
        after

/-- A program goes on only if the control directory is there. -/
theorem run_requireDirectory
    (scene : Scene)
    (next : Unit → TaskProgram α) :
    run (handle.directory workspace) (handle.requireDirectory workspace >>= next).run scene =
      if (scene.advance (handle.directory workspace)).storage.look
          (handle.directory workspace) = some .directory then
        run (handle.directory workspace) (next ()).run
          (scene.advance (handle.directory workspace))
      else
        (.error (.controlDirectoryMissing (handle.directory workspace)),
          scene.advance (handle.directory workspace)) := by
  rw [Handle.requireDirectory, bind_assoc, run_isDirectory]
  split
  · rename_i stands
    rw [if_pos (of_decide_eq_true stands)]
    rfl
  · rename_i gone
    rw [if_neg (mt decide_eq_true gone)]
    rfl

/-- How a question about a file of a task goes on. -/
inductive Sought
    (scene : Scene)
    (file : Path)
    (found missing : TaskProgram α) : Except TaskFault α × Scene → Prop where
  | directoryMissing
      {after : Scene}
      (leads : Leads (handle.directory workspace) scene after)
      (attempts : after.attempts = scene.attempts)
      (gone : after.storage.look (handle.directory workspace) ≠ some .directory) :
      Sought scene file found missing
        (.error (.controlDirectoryMissing (handle.directory workspace)), after)
  | missing
      {after : Scene}
      (leads : Leads (handle.directory workspace) scene after)
      (attempts : after.attempts = scene.attempts)
      (stands : after.storage.look (handle.directory workspace) = some .directory)
      (absent : after.storage.look file = none) :
      Sought scene file found missing (run (handle.directory workspace) missing.run after)
  | found
      {after : Scene}
      (leads : Leads (handle.directory workspace) scene after)
      (moods : after.moods = scene.moods)
      (attempts : after.attempts = scene.attempts)
      (stands : after.storage.look (handle.directory workspace) = some .directory)
      (stood : after.storage.look file ≠ none) :
      Sought scene file found missing (run (handle.directory workspace) found.run after)

theorem run_lookFor
    (scene : Scene)
    (file : Path)
    (found missing : TaskProgram α) :
    Sought handle workspace scene file found missing
      (run (handle.directory workspace) (handle.lookFor workspace file found missing).run
        scene) := by
  have one : Leads (handle.directory workspace) scene
      (scene.advance (handle.directory workspace)) := Leads.advance scene
  have next : Leads (handle.directory workspace)
      (scene.advance (handle.directory workspace))
      ((scene.advance (handle.directory workspace)).advance (handle.directory workspace)) :=
    Leads.advance _
  rw [Handle.lookFor, run_requireDirectory]
  split
  · rename_i stands
    have standsStill := next.look_directory.trans stands
    have attempts :
        ((scene.advance (handle.directory workspace)).advance
          (handle.directory workspace)).attempts = scene.attempts := by
      rw [advance_attempts, advance_attempts]
    rw [run_exists]
    cases present :
        ((scene.advance (handle.directory workspace)).advance
          (handle.directory workspace)).storage.look file with
    | none => exact .missing (one.trans next) attempts standsStill present
    | some entry =>
        have stood :
            ((scene.advance (handle.directory workspace)).advance
              (handle.directory workspace)).storage.look file ≠ none := by
          rw [present]
          exact Option.some_ne_none entry
        have moods :
            ((scene.advance (handle.directory workspace)).advance
              (handle.directory workspace)).moods = scene.moods := by
          rw [advance_moods, advance_moods]
        exact .found (one.trans next) moods attempts standsStill stood
  · rename_i gone
    exact .directoryMissing one (advance_attempts _ _) gone

variable {handle workspace}

/-- A copy of a log that is a file reads it, and hands on what is new. -/
theorem run_copyFound_file
    {earlier : Scene}
    (leads : Leads (handle.directory workspace) scene earlier)
    (moods : earlier.moods = scene.moods)
    (attempts : earlier.attempts = scene.attempts)
    {held : Bytes}
    (isFile :
      (earlier.advance (handle.directory workspace)).storage.look
        (handle.logFile workspace) = some (.file held)) :
    Copied handle workspace scene
      (run (handle.directory workspace) (handle.copyFound workspace).run earlier).1
      (run (handle.directory workspace) (handle.copyFound workspace).run earlier).2 := by
  have content :
      (earlier.advance (handle.directory workspace)).storage.content
        (handle.logFile workspace) = held := by
    rw [Storage.content, isFile]
  have leadsRead : Leads (handle.directory workspace) scene
      (earlier.reading (handle.directory workspace) (handle.logFile workspace)
        handle.logOffset) :=
    leads.trans (Leads.reading _ _ _)
  have begun :
      (earlier.reading (handle.directory workspace) (handle.logFile workspace)
        handle.logOffset).attempts =
        .begun (earlier.advance (handle.directory workspace)).storage
          (handle.logFile workspace) handle.logOffset :: scene.attempts := by
    rw [reading_attempts, attempts]
  rw [Handle.copyFound, run_readFrom, Storage.answer_readFrom_file isFile, run_fileAnswer_ok]
  by_cases nothing : (held.drop handle.logOffset.toNat).isEmpty = true
  · rw [if_pos nothing]
    refine .nothingNew leadsRead begun rfl rfl ?_ rfl
    simpa [Attempt.begun, content] using nothing
  · have beforeEnd : handle.logOffset.toNat < held.length := by
      simpa using nothing
    have outcome :
        Delivery (handle.directory workspace)
          (earlier.reading (handle.directory workspace) (handle.logFile workspace)
            handle.logOffset)
          _ _ (held.drop handle.logOffset.toNat) _ _ :=
      run_deliver begun rfl rfl (held.drop handle.logOffset.toNat)
    rw [if_neg nothing, ExceptT.run_bind, run_bind]
    generalize
      run (handle.directory workspace)
        (Handle.deliver (held.drop handle.logOffset.toNat)).run
        (earlier.reading (handle.directory workspace) (handle.logFile workspace)
          handle.logOffset) = both at outcome ⊢
    rcases both with ⟨answer, after⟩
    have sameMoods :
        (earlier.reading (handle.directory workspace) (handle.logFile workspace)
          handle.logOffset).moods = scene.moods := by
      rw [reading, advance_moods, moods]
    rw [← content] at beforeEnd outcome ⊢
    cases outcome with
    | accepted leadsAfter accepting attemptsAfter =>
        exact .delivered leadsRead leadsAfter attemptsAfter rfl rfl beforeEnd
          (sameMoods ▸ accepting) rfl rfl
    | refused leadsAfter refusing part attemptsAfter =>
        exact .refused leadsRead leadsAfter (sameMoods ▸ refusing) attemptsAfter rfl rfl rfl
          part

/-- A copy of a log that is no file reads nothing. -/
theorem run_copyFound_other
    {earlier : Scene}
    (leads : Leads (handle.directory workspace) scene earlier)
    (attempts : earlier.attempts = scene.attempts)
    (stood : earlier.storage.look (handle.logFile workspace) ≠ none)
    (noFile : ∀ held,
      (earlier.advance (handle.directory workspace)).storage.look
        (handle.logFile workspace) ≠ some (.file held)) :
    Copied handle workspace scene
      (run (handle.directory workspace) (handle.copyFound workspace).run earlier).1
      (run (handle.directory workspace) (handle.copyFound workspace).run earlier).2 := by
  have nothing :
      (earlier.advance (handle.directory workspace)).storage.content
        (handle.logFile workspace) = [] := by
    rw [Storage.content]
    split
    · rename_i held found
      exact absurd found (noFile held)
    · rfl
  have begun :
      (earlier.reading (handle.directory workspace) (handle.logFile workspace)
        handle.logOffset).attempts =
        .begun (earlier.advance (handle.directory workspace)).storage
          (handle.logFile workspace) handle.logOffset :: scene.attempts := by
    rw [reading_attempts, attempts]
  have leadsRead : Leads (handle.directory workspace) earlier
      (earlier.reading (handle.directory workspace) (handle.logFile workspace)
        handle.logOffset) := Leads.reading _ _ _
  rw [Handle.copyFound, run_readFrom]
  rcases (earlier.advance (handle.directory workspace)).storage.answer_readFrom
      (handle.logFile workspace) handle.logOffset with ⟨cause, answered⟩ | answered
  · rw [answered, run_fileAnswer_error]
    exact .unreadable leads leadsRead stood noFile begun rfl nothing rfl
  · rw [answered, run_fileAnswer_ok, nothing, List.drop_nil, List.isEmpty_nil, if_pos rfl]
    refine .nothingNew (leads.trans leadsRead) begun rfl rfl ?_ rfl
    rw [Attempt.begun, nothing]
    exact Nat.zero_le _

/-- A copy of new log ends in one of these ways. -/
theorem run_copyLog
    (handle : Handle)
    (workspace : Workspace)
    (scene : Scene) :
    Copied handle workspace scene
      (run (handle.directory workspace) (handle.copyLog workspace).run scene).1
      (run (handle.directory workspace) (handle.copyLog workspace).run scene).2 := by
  rw [Handle.copyLog_eq]
  have sought := run_lookFor handle workspace scene (handle.logFile workspace)
    (handle.copyFound workspace) (pure (false, handle))
  generalize
    run (handle.directory workspace)
      (handle.lookFor workspace (handle.logFile workspace) (handle.copyFound workspace)
        (pure (false, handle))).run scene = outcome at sought ⊢
  cases sought with
  | directoryMissing leads attempts gone => exact .directoryMissing leads attempts gone
  | missing leads attempts stands absent => exact .noLog leads attempts absent
  | found leads moods attempts stands stood =>
      rename_i middle
      by_cases isFile :
          ∃ held,
            (middle.advance (handle.directory workspace)).storage.look
              (handle.logFile workspace) = some (.file held)
      · obtain ⟨held, isFile⟩ := isFile
        exact run_copyFound_file leads moods attempts isFile
      · exact run_copyFound_other leads attempts stood (not_exists.mp isFile)

end Copying

/-! ### Looking at the result -/

/-- How a look at the result ends. -/
inductive Probed
    (handle : Handle)
    (workspace : Workspace)
    (scene : Scene) : Except TaskFault Status → Scene → Prop where
  | directoryMissing
      {after : Scene}
      (leads : Leads (handle.directory workspace) scene after)
      (attempts : after.attempts = scene.attempts)
      (gone : after.storage.look (handle.directory workspace) ≠ some .directory) :
      Probed handle workspace scene
        (.error (.controlDirectoryMissing (handle.directory workspace))) after
  | noResult
      {after : Scene}
      (leads : Leads (handle.directory workspace) scene after)
      (attempts : after.attempts = scene.attempts)
      (stands : after.storage.look (handle.directory workspace) = some .directory)
      (absent : after.storage.look (handle.resultFile workspace) = none) :
      Probed handle workspace scene (.ok .running) after
  /-- Something stood in place of the result, and it could not be read. -/
  | unreadable
      {earlier after : Scene}
      {cause : FileFault}
      (leadsEarlier : Leads (handle.directory workspace) scene earlier)
      (leads : Leads (handle.directory workspace) earlier after)
      (attempts : after.attempts = scene.attempts)
      (stood : earlier.storage.look (handle.resultFile workspace) ≠ none)
      (noFile : ∀ held,
        after.storage.look (handle.resultFile workspace) ≠ some (.file held)) :
      Probed handle workspace scene (.error (.files cause)) after
  | read
      {middle after : Scene}
      {held : Bytes}
      (leadsMiddle : Leads (handle.directory workspace) scene middle)
      (leads : Leads (handle.directory workspace) middle after)
      (attempts : after.attempts = scene.attempts)
      (stands : middle.storage.look (handle.directory workspace) = some .directory)
      (isFile : middle.storage.look (handle.resultFile workspace) = some (.file held)) :
      Probed handle workspace scene
        (statusOf (handle.resultFile workspace) held) after

theorem run_readStatus
    (directory : Path)
    (scene : Scene)
    (file : Path)
    (held : Bytes) :
    (run directory (readStatus file held).run scene).1 = statusOf file held ∧
      Leads directory scene (run directory (readStatus file held).run scene).2 ∧
      (run directory (readStatus file held).run scene).2.attempts = scene.attempts := by
  rw [readStatus, statusOf]
  cases ResultText.parse held with
  | error text => exact ⟨rfl, Leads.refl _ _, rfl⟩
  | ok code =>
      cases code with
      | none => exact ⟨rfl, Leads.advance _, advance_attempts _ _⟩
      | some code => exact ⟨rfl, Leads.advance _, advance_attempts _ _⟩

/-- A look at the result ends in one of these ways. -/
theorem run_status
    (handle : Handle)
    (workspace : Workspace)
    (scene : Scene) :
    Probed handle workspace scene
      (run (handle.directory workspace) (handle.status workspace).run scene).1
      (run (handle.directory workspace) (handle.status workspace).run scene).2 := by
  rw [Handle.status_eq]
  have sought := run_lookFor handle workspace scene (handle.resultFile workspace)
    (TaskProgram.read (handle.resultFile workspace) >>=
      readStatus (handle.resultFile workspace))
    (pure .running)
  generalize
    run (handle.directory workspace)
      (handle.lookFor workspace (handle.resultFile workspace)
        (TaskProgram.read (handle.resultFile workspace) >>=
          readStatus (handle.resultFile workspace))
        (pure .running)).run scene = outcome at sought ⊢
  cases sought with
  | directoryMissing leads attempts gone => exact .directoryMissing leads attempts gone
  | missing leads attempts stands absent => exact .noResult leads attempts stands absent
  | found leads moods attempts stands stood =>
      rename_i middle
      have last : Leads (handle.directory workspace) middle
          (middle.advance (handle.directory workspace)) := Leads.advance middle
      have lastAttempts :=
        (advance_attempts (handle.directory workspace) middle).trans attempts
      by_cases isFile :
          ∃ held,
            (middle.advance (handle.directory workspace)).storage.look
              (handle.resultFile workspace) = some (.file held)
      · obtain ⟨held, isFile⟩ := isFile
        obtain ⟨answer, leadsAfter, attemptsAfter⟩ :=
          run_readStatus (handle.directory workspace)
            (middle.advance (handle.directory workspace)) (handle.resultFile workspace) held
        rw [run_read_file isFile, answer]
        exact .read (leads.trans last) leadsAfter (attemptsAfter.trans lastAttempts)
          (last.look_directory.trans stands) isFile
      · have noFile := not_exists.mp isFile
        obtain ⟨cause, ended⟩ := run_read_other noFile _
        rw [ended]
        exact .unreadable leads last lastAttempts stood noFile

/-! ### Reading the captured output -/

/-- How reading the captured output ends. -/
inductive Shown
    (handle : Handle)
    (workspace : Workspace)
    (scene : Scene) : Except TaskFault (Option Bytes) → Scene → Prop where
  | notCapturing (notCapturing : handle.capturing = false) :
      Shown handle workspace scene (.ok none) scene
  | directoryMissing
      {after : Scene}
      (leads : Leads (handle.directory workspace) scene after)
      (attempts : after.attempts = scene.attempts)
      (gone : after.storage.look (handle.directory workspace) ≠ some .directory) :
      Shown handle workspace scene
        (.error (.controlDirectoryMissing (handle.directory workspace))) after
  | noOutput
      {after : Scene}
      (capturing : handle.capturing = true)
      (leads : Leads (handle.directory workspace) scene after)
      (attempts : after.attempts = scene.attempts)
      (absent : after.storage.look (handle.outputFile workspace) = none) :
      Shown handle workspace scene (.ok none) after
  /-- Something stood in place of the output, and it could not be read. -/
  | unreadable
      {earlier after : Scene}
      {cause : FileFault}
      (leadsEarlier : Leads (handle.directory workspace) scene earlier)
      (leads : Leads (handle.directory workspace) earlier after)
      (attempts : after.attempts = scene.attempts)
      (stood : earlier.storage.look (handle.outputFile workspace) ≠ none)
      (noFile : ∀ held,
        after.storage.look (handle.outputFile workspace) ≠ some (.file held)) :
      Shown handle workspace scene (.error (.files cause)) after
  | read
      {after : Scene}
      {held : Bytes}
      (capturing : handle.capturing = true)
      (leads : Leads (handle.directory workspace) scene after)
      (attempts : after.attempts = scene.attempts)
      (isFile : after.storage.look (handle.outputFile workspace) = some (.file held)) :
      Shown handle workspace scene (.ok (some held)) after

/-- Reading the captured output ends in one of these ways. -/
theorem run_output
    (handle : Handle)
    (workspace : Workspace)
    (scene : Scene) :
    Shown handle workspace scene
      (run (handle.directory workspace) (handle.output workspace).run scene).1
      (run (handle.directory workspace) (handle.output workspace).run scene).2 := by
  rw [Handle.output_eq]
  by_cases capturing : handle.capturing = true
  · rw [if_pos capturing]
    have sought := run_lookFor handle workspace scene (handle.outputFile workspace)
      (TaskProgram.read (handle.outputFile workspace) >>= fun held => pure (some held))
      (pure none)
    generalize
      run (handle.directory workspace)
        (handle.lookFor workspace (handle.outputFile workspace)
          (TaskProgram.read (handle.outputFile workspace) >>= fun held => pure (some held))
          (pure none)).run scene = outcome at sought ⊢
    cases sought with
    | directoryMissing leads attempts gone => exact .directoryMissing leads attempts gone
    | missing leads attempts stands absent => exact .noOutput capturing leads attempts absent
    | found leads moods attempts stands stood =>
        rename_i middle
        have last : Leads (handle.directory workspace) middle
            (middle.advance (handle.directory workspace)) := Leads.advance middle
        have lastAttempts :=
          (advance_attempts (handle.directory workspace) middle).trans attempts
        by_cases isFile :
            ∃ held,
              (middle.advance (handle.directory workspace)).storage.look
                (handle.outputFile workspace) = some (.file held)
        · obtain ⟨held, isFile⟩ := isFile
          rw [run_read_file isFile]
          exact .read capturing (leads.trans last) lastAttempts isFile
        · have noFile := not_exists.mp isFile
          obtain ⟨cause, ended⟩ := run_read_other noFile _
          rw [ended]
          exact .unreadable leads last lastAttempts stood noFile
  · rw [if_neg capturing]
    exact .notCapturing (Bool.eq_false_iff.mpr capturing)

/-! ### Polling -/

/-- A copy of new log changes nothing of a handle but its offset. -/
theorem Copied.moved
    {handle moved : Handle}
    {workspace : Workspace}
    {start stop : Scene}
    {copied : Bool}
    (copy : Copied handle workspace start (.ok (copied, moved)) stop) :
    ∃ offset, moved = { handle with logOffset := offset } := by
  cases copy with
  | noLog => exact ⟨handle.logOffset, rfl⟩
  | nothingNew => exact ⟨handle.logOffset, rfl⟩
  | delivered => exact ⟨_, rfl⟩

/-- How a poll cycle ends: with what its parts came to, one after another. -/
inductive Polled
    (handle : Handle)
    (workspace : Workspace)
    (scene : Scene) : PollOutcome → Scene → Prop where
  | copyFault
      {stop : Scene}
      {fault : TaskFault}
      (copy : Copied handle workspace scene (.error fault) stop) :
      Polled handle workspace scene ⟨.error fault, false, handle⟩ stop
  | statusFault
      {middle stop : Scene}
      {copied : Bool}
      {moved : Handle}
      {fault : TaskFault}
      (copy : Copied handle workspace scene (.ok (copied, moved)) middle)
      (probe : Probed moved workspace middle (.error fault) stop) :
      Polled handle workspace scene ⟨.error fault, copied, moved⟩ stop
  | running
      {middle stop : Scene}
      {copied : Bool}
      {moved : Handle}
      (copy : Copied handle workspace scene (.ok (copied, moved)) middle)
      (probe : Probed moved workspace middle (.ok .running) stop) :
      Polled handle workspace scene ⟨.ok none, copied, moved⟩ stop
  | tailFault
      {middle second stop : Scene}
      {copied : Bool}
      {moved : Handle}
      {exitCode : Int32}
      {fault : TaskFault}
      (copy : Copied handle workspace scene (.ok (copied, moved)) middle)
      (probe : Probed moved workspace middle (.ok (.complete exitCode)) second)
      (tail : Copied moved workspace second (.error fault) stop) :
      Polled handle workspace scene ⟨.error fault, copied, moved⟩ stop
  | outputFault
      {middle second third stop : Scene}
      {copied more : Bool}
      {moved last : Handle}
      {exitCode : Int32}
      {fault : TaskFault}
      (copy : Copied handle workspace scene (.ok (copied, moved)) middle)
      (probe : Probed moved workspace middle (.ok (.complete exitCode)) second)
      (tail : Copied moved workspace second (.ok (more, last)) third)
      (shown : Shown last workspace third (.error fault) stop) :
      Polled handle workspace scene ⟨.error fault, copied || more, last⟩ stop
  | complete
      {middle second third fourth : Scene}
      {copied more : Bool}
      {moved last : Handle}
      {exitCode : Int32}
      {output : Option Bytes}
      (copy : Copied handle workspace scene (.ok (copied, moved)) middle)
      (probe : Probed moved workspace middle (.ok (.complete exitCode)) second)
      (tail : Copied moved workspace second (.ok (more, last)) third)
      (shown : Shown last workspace third (.ok output) fourth) :
      Polled handle workspace scene
        ⟨.ok (some { exitCode, output }), copied || more, last⟩
        (fourth.advance (handle.directory workspace))

/-- A poll cycle ends in one of these ways. -/
theorem run_poll
    (handle : Handle)
    (workspace : Workspace)
    (scene : Scene) :
    Polled handle workspace scene
      (run (handle.directory workspace) (handle.poll workspace) scene).1
      (run (handle.directory workspace) (handle.poll workspace) scene).2 := by
  rw [Handle.poll, run_bind]
  have copy := run_copyLog handle workspace scene
  generalize
    run (handle.directory workspace) (handle.copyLog workspace).run scene = first
      at copy ⊢
  rcases first with ⟨answer, middle⟩
  cases answer with
  | error fault => exact .copyFault copy
  | ok pair =>
      rcases pair with ⟨copied, moved⟩
      obtain ⟨offset, movedEq⟩ := copy.moved
      have sameDirectory : moved.directory workspace = handle.directory workspace := by
        rw [movedEq]
        rfl
      simp only
      rw [run_bind]
      have probe := run_status moved workspace middle
      rw [sameDirectory] at probe
      generalize
        run (handle.directory workspace) (moved.status workspace).run middle = looked
          at probe ⊢
      rcases looked with ⟨answer, second⟩
      cases answer with
      | error fault => exact .statusFault copy probe
      | ok status =>
          cases status with
          | running => exact .running copy probe
          | complete exitCode =>
              simp only
              rw [Handle.finish, run_bind]
              have tail := run_copyLog moved workspace second
              rw [sameDirectory] at tail
              generalize
                run (handle.directory workspace) (moved.copyLog workspace).run second =
                  rest at tail ⊢
              rcases rest with ⟨answer, third⟩
              cases answer with
              | error fault => exact .tailFault copy probe tail
              | ok pair =>
                  rcases pair with ⟨more, last⟩
                  obtain ⟨lastOffset, lastEq⟩ := tail.moved
                  have lastDirectory :
                      last.directory workspace = handle.directory workspace := by
                    rw [lastEq, ← sameDirectory]
                    rfl
                  simp only
                  rw [run_bind]
                  have shown := run_output last workspace third
                  rw [lastDirectory] at shown
                  generalize
                    run (handle.directory workspace) (last.output workspace).run third =
                      read at shown ⊢
                  rcases read with ⟨answer, fourth⟩
                  cases answer with
                  | error fault => exact .outputFault copy probe tail shown
                  | ok output => exact .complete copy probe tail shown

end Scene

end DetachedTasks
