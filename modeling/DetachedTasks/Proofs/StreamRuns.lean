import DetachedTasks.Proofs.LogStreaming

/-!
# Runs of a streaming controller

A run is any sequence of moves: the child acts, the log is copied or the task is polled with
a sink that may refuse, the handle is written down, and the controller restarts with a handle
that was written down before.
-/

namespace DetachedTasks

open Sandbox

/-- One call that streams the log. -/
structure Call where
  /-- The log was copied by itself and not in a poll cycle. -/
  direct : Bool
  /-- The control directory was there when the call began. -/
  standing : Bool
  /-- What the sink was going to do with the chunks and flushes of the call. -/
  moods : List SinkMood
  /-- The offsets before and after the call. -/
  before : Nat
  after : Nat
  /-- What the log held before and after the call. -/
  logBefore : Bytes
  logAfter : Bytes
  attempts : List Attempt
  /-- The call said that something was handed on. -/
  progressed : Bool
  fault : Option TaskFault
  deriving Repr

/-- A call tells whether it has handed something on, hands on exactly what was new when it
read the log, and moves the offset by nothing else.  Where the log is longer than what was
handed on before, it does hand something on, unless the sink refuses. -/
structure Call.Faithful (call : Call) : Prop where
  few : call.attempts.length ≤ if call.direct then 1 else 2
  attempts : ∀ attempt ∈ call.attempts, attempt.Faithful
  fromLog : ∀ attempt ∈ call.attempts, call.logBefore <+: attempt.log
  inLog : ∀ attempt ∈ call.attempts, attempt.log <+: call.logAfter
  chained : Attempt.Chained call.before call.attempts call.after
  tells : call.progressed = true ↔ ∃ attempt ∈ call.attempts, attempt.succeeded = true
  /-- With new log there before the call, something is handed on exactly if the sink accepts. -/
  handsOn : call.standing = true → call.before < call.logBefore.length →
    (call.progressed = true ↔ SinkMood.Accepting call.moods)
  /-- A sink that never refuses gets whatever an attempt finds to be new. -/
  takes : (∀ mood ∈ call.moods, mood = .accepts) →
    ∀ attempt ∈ call.attempts, attempt.offset < attempt.log.length → attempt.succeeded = true
  still : call.progressed = false → call.after = call.before
  failed : call.direct = true → call.fault ≠ none → call.progressed = false

/-- A controller that streams the log of a task. -/
structure Stream where
  storage : Storage
  handle : Handle
  /-- The offset that the controller began with after its last restart. -/
  origin : Nat
  /-- The attempts since the last restart, last one first. -/
  attempts : List Attempt
  /-- All calls, last one first. -/
  calls : List Call
  /-- The written forms of the handle, in the order in which they were made. -/
  saved : List Text
  deriving Repr

/-- What may happen to a controller. -/
inductive Move where
  | act (deed : Deed)
  | copy (turns : List (List Deed)) (moods : List SinkMood)
  | poll (turns : List (List Deed)) (moods : List SinkMood)
  | write
  | restart (index : Nat)
  deriving Repr

namespace Stream

/-- What a call begins with. -/
def scene
    (stream : Stream)
    (turns : List (List Deed))
    (moods : List SinkMood) : Scene :=
  { storage := stream.storage
    turns
    moods
    attempts := [] }

/-- Keep what a call has done. -/
def called
    (workspace : Workspace)
    (stream : Stream)
    (after : Scene)
    (handle : Handle)
    (moods : List SinkMood)
    (direct progressed : Bool)
    (fault : Option TaskFault) : Stream :=
  { stream with
    storage := after.storage
    handle
    attempts := after.attempts ++ stream.attempts
    calls :=
      { direct
        standing :=
          stream.storage.look (stream.handle.directory workspace) = some .directory
        moods
        before := stream.handle.logOffset.toNat
        after := handle.logOffset.toNat
        logBefore := stream.storage.content (stream.handle.logFile workspace)
        logAfter := after.storage.content (stream.handle.logFile workspace)
        attempts := after.attempts
        progressed
        fault } :: stream.calls }

/-- One move. -/
def step
    (workspace : Workspace)
    (stream : Stream) : Move → Stream
  | .act deed =>
      { stream with
        storage := deed.perform (stream.handle.directory workspace) stream.storage }
  | .copy turns moods =>
      let (answer, after) :=
        Scene.run (stream.handle.directory workspace) (stream.handle.copyLog workspace).run
          (stream.scene turns moods)
      stream.called workspace after (Scene.handleAfter stream.handle answer) moods
        true (Scene.saysCopied answer) (TaskFault.of? answer)
  | .poll turns moods =>
      let (outcome, after) :=
        Scene.run (stream.handle.directory workspace) (stream.handle.poll workspace)
          (stream.scene turns moods)
      stream.called workspace after outcome.handle moods
        false outcome.progressed (TaskFault.of? outcome.verdict)
  | .write => { stream with saved := stream.saved ++ [stream.handle.toToml] }
  | .restart index =>
      match stream.saved[index]? with
      | none => stream
      | some text =>
          match Handle.ofToml text with
          | .error _ => stream
          | .ok handle =>
              { stream with
                handle
                origin := handle.logOffset.toNat
                attempts := [] }

/-- All moves, one after another. -/
def run
    (workspace : Workspace)
    (stream : Stream)
    (moves : List Move) : Stream :=
  moves.foldl (step workspace) stream

/-- What the log of a task holds. -/
def log
    (workspace : Workspace)
    (first : Handle)
    (stream : Stream) : Bytes :=
  stream.storage.content (first.logFile workspace)

/-- A controller that has not done anything yet. -/
structure IsFresh
    (workspace : Workspace)
    (stream : Stream) : Prop where
  origin : stream.origin = stream.handle.logOffset.toNat
  attempts : stream.attempts = []
  calls : stream.calls = []
  saved : stream.saved = []
  inLog : stream.handle.logOffset.toNat ≤ (stream.log workspace stream.handle).length

/-- A handle that differs from another one in its offset at most. -/
structure IsTwin (first handle : Handle) : Prop where
  sameId : handle.id = first.id
  sameCapturing : handle.capturing = first.capturing

/-- The controller works with handles on one task. -/
structure Owned
    (first : Handle)
    (stream : Stream) : Prop where
  handle : IsTwin first stream.handle
  saved : ∀ text ∈ stream.saved, ∃ handle, IsTwin first handle ∧ text = handle.toToml

variable {workspace : Workspace} {first : Handle} {stream : Stream}

/-- Twins share the control directory. -/
theorem IsTwin.directory
    {handle : Handle}
    (twin : IsTwin first handle) :
    handle.directory workspace = first.directory workspace := by
  rw [Handle.directory, twin.sameId, Handle.directory]

/-- Twins share the log. -/
theorem IsTwin.logFile
    {handle : Handle}
    (twin : IsTwin first handle) :
    handle.logFile workspace = first.logFile workspace := by
  rw [Handle.logFile, Handle.file, twin.directory, Handle.logFile, Handle.file]

/-! ### What a restart does -/

/-- A restart from something that was never saved is none. -/
theorem step_restart_none
    {index : Nat}
    (absent : stream.saved[index]? = none) :
    stream.step workspace (.restart index) = stream := by
  rw [step, absent]

/-- A restart goes on with the handle that was saved, at the offset it had then. -/
theorem step_restart_some
    {index : Nat}
    {handle : Handle}
    (saved : stream.saved[index]? = some handle.toToml) :
    stream.step workspace (.restart index) =
      { stream with
        handle
        origin := handle.logOffset.toNat
        attempts := [] } := by
  rw [step, saved]
  simp only [Handle.ofToml_toToml]

/-! ### What a call does -/

/-- What one call has done to a controller. -/
inductive Called
    (workspace : Workspace)
    (stream : Stream) : Stream → Prop where
  | mk
      {after : Scene}
      {handle : Handle}
      {moods : List SinkMood}
      {direct progressed : Bool}
      {fault : Option TaskFault}
      (leads : ∃ start : Scene, start.storage = stream.storage ∧
        Scene.Leads (stream.handle.directory workspace) start after)
      (moved : IsTwin stream.handle handle)
      (streams :
        (after.storage.content (stream.handle.logFile workspace)).length < UInt64.size →
          ∃ start : Scene, start.storage = stream.storage ∧ start.moods = moods ∧
            Scene.Streams workspace stream.handle handle start after after.attempts ∧
            after.attempts.length ≤ (if direct then 1 else 2) ∧
            (progressed = true ↔ ∃ attempt ∈ after.attempts, attempt.succeeded = true))
      (handsOn :
        stream.storage.look (stream.handle.directory workspace) = some .directory →
          stream.handle.logOffset.toNat <
              (stream.storage.content (stream.handle.logFile workspace)).length →
            (progressed = true ↔ SinkMood.Accepting moods))
      (failed : direct = true → fault ≠ none → progressed = false) :
      Called workspace stream (stream.called workspace after handle moods direct progressed fault)

/-- A call begins with no attempts, so what it has recorded is its own. -/
theorem recorded_of_streams
    {handle moved : Handle}
    {turns : List (List Deed)}
    {moods : List SinkMood}
    {after : Scene}
    {attempts : List Attempt}
    (streams :
      Scene.Streams workspace handle moved (stream.scene turns moods) after attempts) :
    after.attempts = attempts := by
  rw [streams.recorded]
  exact List.append_nil attempts

/-- A copy is recorded as the call that it was. -/
theorem called_copy
    (workspace : Workspace)
    (stream : Stream)
    (turns : List (List Deed))
    (moods : List SinkMood) :
    Called workspace stream (stream.step workspace (.copy turns moods)) := by
  have copied := Scene.run_copyLog stream.handle workspace (stream.scene turns moods)
  simp only [step]
  generalize
    Scene.run (stream.handle.directory workspace) (stream.handle.copyLog workspace).run
      (stream.scene turns moods) = both at copied ⊢
  rcases both with ⟨answer, after⟩
  refine .mk ⟨_, rfl, copied.reports.leads⟩ ?_ ?_ ?_ ?_
  · obtain ⟨offset, same⟩ := copied.reports.moved
    rw [same]
    exact ⟨rfl, rfl⟩
  · intro fits
    obtain ⟨attempts, few, streams, tells⟩ := copied.reports.streams fits
    have recorded := recorded_of_streams streams
    subst recorded
    exact ⟨_, rfl, rfl, streams, few, tells⟩
  · intro stands unread
    rcases copied.of_unread stands unread with ⟨accepting, _, same⟩ | ⟨refusing, _, same⟩
    · rw [same]
      exact ⟨fun _ => accepting, fun _ => rfl⟩
    · rw [same]
      exact ⟨fun impossible => absurd impossible Bool.false_ne_true,
        fun accepting => absurd accepting refusing⟩
  · intro _ faulty
    cases answer with
    | error fault => rfl
    | ok pair => exact absurd rfl faulty

/-- A poll is recorded as the call that it was. -/
theorem called_poll
    (workspace : Workspace)
    (stream : Stream)
    (turns : List (List Deed))
    (moods : List SinkMood) :
    Called workspace stream (stream.step workspace (.poll turns moods)) := by
  have polled := Scene.run_poll stream.handle workspace (stream.scene turns moods)
  simp only [step]
  generalize
    Scene.run (stream.handle.directory workspace) (stream.handle.poll workspace)
      (stream.scene turns moods) = both at polled ⊢
  rcases both with ⟨outcome, after⟩
  refine .mk ⟨_, rfl, polled.reports.leads⟩ ?_ ?_ ?_ ?_
  · obtain ⟨offset, same⟩ := polled.reports.moved
    rw [same]
    exact ⟨rfl, rfl⟩
  · intro fits
    obtain ⟨attempts, few, streams, tells⟩ := polled.reports.streams fits
    have recorded := recorded_of_streams streams
    subst recorded
    exact ⟨_, rfl, rfl, streams, few, tells⟩
  · intro stands unread
    exact polled.of_unread stands unread
  · intro impossible
    cases impossible

/-! ### What every move preserves -/

/-- A call leaves a handle on the same task. -/
theorem Called.owned
    {next : Stream}
    (called : Called workspace stream next)
    (owned : Owned first stream) :
    Owned first next := by
  cases called with
  | mk leads moved streams handsOn failed =>
      exact ⟨⟨moved.sameId.trans owned.handle.sameId,
        moved.sameCapturing.trans owned.handle.sameCapturing⟩, owned.saved⟩

/-- During a call the log is only added to. -/
theorem Called.log_grows
    {next : Stream}
    (called : Called workspace stream next)
    (owned : Owned first stream) :
    stream.log workspace first <+: next.log workspace first := by
  cases called with
  | mk leads moved streams handsOn failed =>
      obtain ⟨start, sameStorage, leads⟩ := leads
      have grown := leads.log_grows
      rw [owned.handle.directory, sameStorage] at grown
      exact grown

/-- A call is kept with its attempts, and it is faithful. -/
theorem Called.exists_faithful
    {next : Stream}
    (called : Called workspace stream next)
    (fits :
      (next.storage.content (stream.handle.logFile workspace)).length < UInt64.size) :
    ∃ call : Call,
      next.calls = call :: stream.calls ∧ next.attempts = call.attempts ++ stream.attempts ∧
      next.origin = stream.origin ∧ next.saved = stream.saved ∧
      call.before = stream.handle.logOffset.toNat ∧
      call.after = next.handle.logOffset.toNat ∧
      call.logAfter = next.storage.content (stream.handle.logFile workspace) ∧
      call.Faithful := by
  cases called with
  | mk leads moved streams handsOn failed =>
      rename_i after handle moods direct progressed fault
      obtain ⟨start, sameStorage, sameMoods, streams, few, tells⟩ := streams fits
      have noSuccess : progressed = false →
          ∀ attempt ∈ after.attempts, attempt.succeeded = false := by
        intro nothing attempt member
        by_contra succeeded
        have impossible := tells.mpr ⟨attempt, member, by simpa using succeeded⟩
        rw [nothing] at impossible
        cases impossible
      refine ⟨_, rfl, rfl, rfl, rfl, rfl, rfl, rfl,
        ⟨few, streams.faithful, ?_, streams.inLog, streams.chained, tells,
          fun stands => handsOn (of_decide_eq_true stands),
          fun willing => streams.takes (sameMoods ▸ willing),
          fun nothing => streams.chained.eq_of_no_success (noSuccess nothing), failed⟩⟩
      intro attempt inCall
      have fromLog := streams.fromLog attempt inCall
      rwa [Scene.logOf, sameStorage] at fromLog

/-- A restart does nothing, or it goes on with a handle that was written down. -/
theorem Owned.restart_cases
    (owned : Owned first stream)
    (index : Nat) :
    stream.step workspace (.restart index) = stream ∨
      ∃ handle, IsTwin first handle ∧
        stream.step workspace (.restart index) =
          { stream with
            handle
            origin := handle.logOffset.toNat
            attempts := [] } := by
  cases found : stream.saved[index]? with
  | none => exact Or.inl (step_restart_none found)
  | some text =>
      obtain ⟨handle, twin, shape⟩ := owned.saved text (List.mem_of_getElem? found)
      subst shape
      exact Or.inr ⟨handle, twin, step_restart_some found⟩

/-- Every move leaves a handle on the same task. -/
theorem Owned.step
    (owned : Owned first stream)
    (move : Move) :
    Owned first (stream.step workspace move) := by
  cases move with
  | act deed => exact ⟨owned.handle, owned.saved⟩
  | copy turns moods => exact (called_copy workspace stream turns moods).owned owned
  | poll turns moods => exact (called_poll workspace stream turns moods).owned owned
  | write =>
      refine ⟨owned.handle, ?_⟩
      intro text member
      rcases List.mem_append.mp member with old | new
      · exact owned.saved text old
      · exact ⟨stream.handle, owned.handle, List.mem_singleton.mp new⟩
  | restart index =>
      rcases owned.restart_cases index with same | ⟨handle, twin, resumed⟩
      · rw [same]
        exact owned
      · rw [resumed]
        exact ⟨twin, owned.saved⟩

/-- No move takes anything of the log away. -/
theorem Owned.log_prefix_step
    (owned : Owned first stream)
    (move : Move) :
    stream.log workspace first <+: (stream.step workspace move).log workspace first := by
  cases move with
  | act deed =>
      have grown := deed.log_prefix_perform (first.directory workspace) stream.storage
      rw [Stream.step, owned.handle.directory]
      exact grown
  | copy turns moods => exact (called_copy workspace stream turns moods).log_grows owned
  | poll turns moods => exact (called_poll workspace stream turns moods).log_grows owned
  | write => exact List.prefix_refl _
  | restart index =>
      rcases owned.restart_cases index with same | ⟨handle, twin, resumed⟩
      · rw [same]
      · rw [resumed]
        exact List.prefix_refl _

/-- Throughout a run the log is only added to. -/
theorem Owned.log_prefix_run
    (owned : Owned first stream)
    (moves : List Move) :
    stream.log workspace first <+: (stream.run workspace moves).log workspace first := by
  induction moves generalizing stream with
  | nil => exact List.prefix_refl _
  | cons move moves inductionHypothesis =>
      exact (owned.log_prefix_step move).trans (inductionHypothesis (owned.step move))

/-- What holds of a controller at every moment of a run. -/
structure Sound
    (workspace : Workspace)
    (first : Handle)
    (stream : Stream) : Prop where
  owned : Owned first stream
  inLog : stream.handle.logOffset.toNat ≤ (stream.log workspace first).length
  chained : Attempt.Chained stream.origin stream.attempts stream.handle.logOffset.toNat
  attempts : ∀ attempt ∈ stream.attempts,
    attempt.Faithful ∧ attempt.log <+: stream.log workspace first
  calls : ∀ call ∈ stream.calls,
    call.Faithful ∧ call.logAfter <+: stream.log workspace first
  saved : ∀ text ∈ stream.saved, ∃ handle,
    IsTwin first handle ∧ text = handle.toToml ∧
      handle.logOffset.toNat ≤ (stream.log workspace first).length

/-- Whatever only adds to the log keeps what was known. -/
theorem Sound.grow
    (sound : Sound workspace first stream)
    {storage : Storage}
    (grown : stream.log workspace first <+: ({ stream with storage }).log workspace first) :
    Sound workspace first { stream with storage } where
  owned := ⟨sound.owned.handle, sound.owned.saved⟩
  inLog := Nat.le_trans sound.inLog grown.length_le
  chained := sound.chained
  attempts := by
    intro attempt member
    obtain ⟨faithful, inLog⟩ := sound.attempts attempt member
    exact ⟨faithful, inLog.trans grown⟩
  calls := by
    intro call member
    obtain ⟨faithful, inLog⟩ := sound.calls call member
    exact ⟨faithful, inLog.trans grown⟩
  saved := by
    intro text member
    obtain ⟨handle, twin, shape, inLog⟩ := sound.saved text member
    exact ⟨handle, twin, shape, Nat.le_trans inLog grown.length_le⟩

theorem Called.sound
    {next : Stream}
    (called : Called workspace stream next)
    (sound : Sound workspace first stream)
    (fits : (next.log workspace first).length < UInt64.size) :
    Sound workspace first next := by
  have owned := called.owned sound.owned
  have grown := called.log_grows sound.owned
  have sameLog : stream.handle.logFile workspace = first.logFile workspace :=
    sound.owned.handle.logFile
  rw [log, ← sameLog] at fits
  obtain ⟨call, calls, attempts, origin, saved, before, after, logAfter, faithful⟩ :=
    called.exists_faithful fits
  have inNext : call.logAfter = next.log workspace first := by
    rw [logAfter, sameLog, log]
  have newInLog : ∀ attempt ∈ call.attempts, attempt.log <+: next.log workspace first :=
    fun attempt member => inNext ▸ faithful.inLog attempt member
  have chained := faithful.chained
  rw [before, after] at chained
  refine ⟨owned, ?_, ?_, ?_, ?_, ?_⟩
  · exact chained.inLog (Nat.le_trans sound.inLog grown.length_le) newInLog
  · rw [origin, attempts]
    exact sound.chained.append chained
  · intro attempt member
    rw [attempts] at member
    rcases List.mem_append.mp member with new | old
    · exact ⟨faithful.attempts attempt new, newInLog attempt new⟩
    · obtain ⟨wasFaithful, inLog⟩ := sound.attempts attempt old
      exact ⟨wasFaithful, inLog.trans grown⟩
  · intro other member
    rw [calls] at member
    rcases List.mem_cons.mp member with rfl | old
    · exact ⟨faithful, inNext ▸ List.prefix_refl _⟩
    · obtain ⟨wasFaithful, inLog⟩ := sound.calls other old
      exact ⟨wasFaithful, inLog.trans grown⟩
  · intro text member
    rw [saved] at member
    obtain ⟨handle, twin, shape, inLog⟩ := sound.saved text member
    exact ⟨handle, twin, shape, Nat.le_trans inLog grown.length_le⟩

/-- One move keeps all of it. -/
theorem Sound.step
    (sound : Sound workspace first stream)
    (move : Move)
    (fits : ((stream.step workspace move).log workspace first).length < UInt64.size) :
    Sound workspace first (stream.step workspace move) := by
  have owned : Owned first (stream.step workspace move) := sound.owned.step move
  cases move with
  | act deed => exact sound.grow (sound.owned.log_prefix_step (.act deed))
  | copy turns moods => exact (called_copy workspace stream turns moods).sound sound fits
  | poll turns moods => exact (called_poll workspace stream turns moods).sound sound fits
  | write =>
      refine ⟨owned, sound.inLog, sound.chained, sound.attempts, sound.calls, ?_⟩
      intro text member
      rcases List.mem_append.mp member with old | new
      · exact sound.saved text old
      · exact ⟨stream.handle, sound.owned.handle, List.mem_singleton.mp new, sound.inLog⟩
  | restart index =>
      cases found : stream.saved[index]? with
      | none =>
          rw [step_restart_none found]
          exact sound
      | some text =>
          obtain ⟨handle, twin, shape, inLog⟩ :=
            sound.saved text (List.mem_of_getElem? found)
          subst shape
          rw [step_restart_some found]
          exact ⟨⟨twin, sound.owned.saved⟩, inLog, .start,
            fun _ member => absurd member List.not_mem_nil, sound.calls, sound.saved⟩

/-- So does a whole run. -/
theorem Sound.run
    (sound : Sound workspace first stream)
    (moves : List Move)
    (fits : ((stream.run workspace moves).log workspace first).length < UInt64.size) :
    Sound workspace first (stream.run workspace moves) := by
  induction moves generalizing stream with
  | nil => exact sound
  | cons move moves inductionHypothesis =>
      have later :
          (stream.step workspace move).log workspace first <+:
            (stream.run workspace (move :: moves)).log workspace first :=
        (sound.owned.step move).log_prefix_run moves
      have fitsNow := Nat.lt_of_le_of_lt later.length_le fits
      exact inductionHypothesis (sound.step move fitsNow) fits

/-- A stream that has just begun is sound. -/
theorem IsFresh.sound
    (fresh : stream.IsFresh workspace) :
    Sound workspace stream.handle stream where
  owned := by
    refine ⟨⟨rfl, rfl⟩, ?_⟩
    rw [fresh.saved]
    exact fun _ member => absurd member List.not_mem_nil
  inLog := fresh.inLog
  chained := by
    rw [fresh.attempts, fresh.origin]
    exact .start
  attempts := by
    rw [fresh.attempts]
    exact fun _ member => absurd member List.not_mem_nil
  calls := by
    rw [fresh.calls]
    exact fun _ member => absurd member List.not_mem_nil
  saved := by
    rw [fresh.saved]
    exact fun _ member => absurd member List.not_mem_nil

/-! ### Nothing is lost -/

/-- What a run owes to whoever reads the log through it. -/
structure Lossless
    (workspace : Workspace)
    (first : Handle)
    (stream : Stream) : Prop where
  /-- The offset stays inside the log. -/
  inLog : stream.handle.logOffset.toNat ≤ (stream.log workspace first).length
  /-- Every call was faithful, and the log of that time is a part of the present one. -/
  calls : ∀ call ∈ stream.calls,
    call.Faithful ∧ call.logAfter <+: stream.log workspace first
  /-- What was handed on since the last restart is the log between the two offsets. -/
  delivered :
    Attempt.delivered stream.attempts =
      ((stream.log workspace first).take stream.handle.logOffset.toNat).drop stream.origin
  /-- A restart goes on exactly at the offset of the handle that was written down. -/
  restart : ∀ (index : Nat) (text : Text), stream.saved[index]? = some text →
    ∃ handle, text = handle.toToml ∧ IsTwin first handle ∧
      handle.logOffset.toNat ≤ (stream.log workspace first).length ∧
      stream.step workspace (.restart index) =
        { stream with
          handle
          origin := handle.logOffset.toNat
          attempts := [] }

/-- Streaming loses nothing and repeats nothing, over every run of appends, copies, polls
and restarts; and a call that begins with new log in the directory of the task hands it on,
unless the sink refuses. -/
theorem run_lossless
    (workspace : Workspace)
    (start : Stream)
    (fresh : start.IsFresh workspace)
    (moves : List Move)
    (fits : ((start.run workspace moves).log workspace start.handle).length < UInt64.size) :
    (start.run workspace moves).Lossless workspace start.handle := by
  have sound := fresh.sound.run moves fits
  refine ⟨sound.inLog, sound.calls, ?_, ?_⟩
  · exact sound.chained.delivered
      (fun attempt member => (sound.attempts attempt member).1)
      (fun attempt member => (sound.attempts attempt member).2)
  · intro index text saved
    obtain ⟨handle, twin, shape, inLog⟩ := sound.saved text (List.mem_of_getElem? saved)
    subst shape
    exact ⟨handle, rfl, twin, inLog, step_restart_some saved⟩

/-- A controller of a task in memory whose log holds two bytes. -/
def sampleStart : Stream :=
  let handle := Handle.attach "durable-00000001".toList false
  { storage := .inMemory
      (Memory.new.addFile (handle.logFile ⟨Path.ofText "/w".toList⟩) [0x61, 0x62])
    handle
    origin := 0
    attempts := []
    calls := []
    saved := [] }

/-- A flush that is refused, a copy while the log grows, a restart with an old handle, a poll
cycle with a sink that refuses, a copy, and a poll cycle that hands on what came last. -/
def sampleMoves : List Move :=
  [.copy [] [.accepts, .refuses 0 .flushRefused], .write, .copy [[], [.log [0x63]]] [],
    .act (.log [0x64]), .restart 0, .poll [] [.refuses 1 .writeRefused], .copy [] [],
    .act (.log [0x65]), .poll [] [.accepts, .accepts]]

/-- Two of the calls meet a sink that refuses, and these are the ones that make no progress. -/
theorem run_lossless_sample :
    sampleStart.IsFresh ⟨Path.ofText "/w".toList⟩ ∧
      ((sampleStart.run ⟨Path.ofText "/w".toList⟩ sampleMoves).calls.map fun call =>
          (call.direct, call.before, call.logBefore.length, call.progressed)) =
        [(false, 4, 5, true), (true, 0, 4, true), (false, 0, 4, false), (true, 0, 2, true),
          (true, 0, 2, false)] ∧
      (∀ call ∈ (sampleStart.run ⟨Path.ofText "/w".toList⟩ sampleMoves).calls,
        call.progressed = true ↔ SinkMood.Accepting call.moods) ∧
      (sampleStart.run ⟨Path.ofText "/w".toList⟩ sampleMoves).Lossless
        ⟨Path.ofText "/w".toList⟩ sampleStart.handle := by
  have fresh : sampleStart.IsFresh ⟨Path.ofText "/w".toList⟩ :=
    ⟨rfl, rfl, rfl, rfl, by decide⟩
  have fits :
      ((sampleStart.run ⟨Path.ofText "/w".toList⟩ sampleMoves).log
        ⟨Path.ofText "/w".toList⟩ sampleStart.handle).length < UInt64.size := by decide +kernel
  have unread : ∀ call ∈ (sampleStart.run ⟨Path.ofText "/w".toList⟩ sampleMoves).calls,
      call.standing = true ∧ call.before < call.logBefore.length := by decide +kernel
  have lossless := run_lossless _ sampleStart fresh sampleMoves fits
  refine ⟨fresh, by decide +kernel, ?_, lossless⟩
  intro call member
  obtain ⟨stands, longer⟩ := unread call member
  exact (lossless.calls call member).1.handsOn stands longer

end Stream

end DetachedTasks
