import DetachedTasks.Proofs.HandleRoundTrip
import DetachedTasks.Proofs.LiveCalls

/-!
# Streaming the log

The offset of a handle moves only when a chunk was handed on in full, and then it moves to
the end of what was read.  So the chunks that were handed on since the handle was made or
loaded are, put together, what the log holds between the first offset and the present one.
A log is taken to be shorter than what an offset can count, which no log in a memory exceeds.
-/

namespace DetachedTasks

open Sandbox

namespace Attempt

/-- The offset that counts after an attempt. -/
def next (attempt : Attempt) : Nat :=
  if attempt.succeeded then attempt.log.length else attempt.offset

/-- What a sink receives in an attempt is new log, and all of it if the attempt succeeds. -/
structure Faithful (attempt : Attempt) : Prop where
  part : attempt.received <+: attempt.log.drop attempt.offset
  whole :
    attempt.succeeded = true → attempt.received = attempt.log.drop attempt.offset

/-- Past the end of the log a sink receives nothing. -/
theorem Faithful.received_of_past
    {attempt : Attempt}
    (faithful : attempt.Faithful)
    (past : attempt.log.length ≤ attempt.offset) :
    attempt.received = [] := by
  have part := faithful.part
  rwa [List.drop_eq_nil_of_le past, List.prefix_nil] at part

/-- What the successful ones of some attempts have handed on; the last attempt comes first
in the list. -/
def delivered : List Attempt → Bytes
  | [] => []
  | attempt :: earlier =>
      delivered earlier ++ if attempt.succeeded then attempt.received else []

/-- Attempts, last one first, each of which begins at the offset that counts after the one
before it. -/
inductive Chained (origin : Nat) : List Attempt → Nat → Prop where
  | start : Chained origin [] origin
  | attempt
      {attempt : Attempt}
      {earlier : List Attempt}
      (before : Chained origin earlier attempt.offset) :
      Chained origin (attempt :: earlier) attempt.next

/-- Two chains are one chain if the second starts where the first one ends. -/
theorem Chained.append
    {origin middle last : Nat}
    {earlier later : List Attempt}
    (first : Chained origin earlier middle)
    (second : Chained middle later last) :
    Chained origin (later ++ earlier) last := by
  induction second with
  | start => exact first
  | attempt _ inductionHypothesis => exact .attempt inductionHypothesis

/-- An attempt never moves back. -/
theorem offset_le_next (attempt : Attempt) :
    attempt.offset ≤ attempt.next := by
  rw [next]
  split
  · rename_i succeeded
    simp only [Attempt.succeeded, Bool.and_eq_true, decide_eq_true_eq] at succeeded
    exact Nat.le_of_lt succeeded.1
  · exact Nat.le_refl _

/-- A chain ends at its origin or behind it. -/
theorem Chained.le
    {origin last : Nat}
    {attempts : List Attempt}
    (chained : Chained origin attempts last) :
    origin ≤ last := by
  induction chained with
  | start => exact Nat.le_refl _
  | attempt _ inductionHypothesis =>
      exact Nat.le_trans inductionHypothesis (offset_le_next _)

/-- A chain that begins inside the log ends there. -/
theorem Chained.inLog
    {origin last : Nat}
    {attempts : List Attempt}
    (chained : Chained origin attempts last)
    {log : Bytes}
    (begins : origin ≤ log.length)
    (inLog : ∀ attempt ∈ attempts, attempt.log <+: log) :
    last ≤ log.length := by
  induction chained with
  | start => exact begins
  | attempt before inductionHypothesis =>
      rename_i attempt earlier
      rw [Attempt.next]
      split
      · exact (inLog attempt List.mem_cons_self).length_le
      · exact inductionHypothesis
          fun other member => inLog other (List.mem_cons_of_mem _ member)

/-- Without a success the offset stays. -/
theorem Chained.eq_of_no_success
    {origin last : Nat}
    {attempts : List Attempt}
    (chained : Chained origin attempts last)
    (noSuccess : ∀ attempt ∈ attempts, attempt.succeeded = false) :
    last = origin := by
  induction chained with
  | start => rfl
  | attempt before inductionHypothesis =>
      have failed := noSuccess _ List.mem_cons_self
      have earlier := inductionHypothesis
        fun other member => noSuccess other (List.mem_cons_of_mem _ member)
      rw [next, failed, ← earlier]
      rfl

/-- What was handed on is the part of the log between the two offsets. -/
theorem Chained.delivered
    {origin last : Nat}
    {attempts : List Attempt}
    (chained : Chained origin attempts last)
    (faithful : ∀ attempt ∈ attempts, attempt.Faithful)
    {log : Bytes}
    (inLog : ∀ attempt ∈ attempts, attempt.log <+: log) :
    Attempt.delivered attempts = (log.take last).drop origin := by
  induction chained with
  | start =>
      rw [Attempt.delivered, List.drop_eq_nil_of_le]
      exact List.length_take_le _ _
  | attempt before inductionHypothesis =>
      rename_i attempt earlier
      have own := faithful attempt List.mem_cons_self
      have ownLog := inLog attempt List.mem_cons_self
      have sofar := inductionHypothesis
        (fun other member => faithful other (List.mem_cons_of_mem _ member))
        (fun other member => inLog other (List.mem_cons_of_mem _ member))
      rw [Attempt.delivered, sofar, next]
      by_cases succeeded : attempt.succeeded = true
      · have bounds := succeeded
        simp only [Attempt.succeeded, Bool.and_eq_true, decide_eq_true_eq] at bounds
        have read : log.take attempt.log.length = attempt.log :=
          (List.prefix_iff_eq_take.mp ownLog).symm
        have readBefore : log.take attempt.offset = attempt.log.take attempt.offset := by
          obtain ⟨behind, shape⟩ := ownLog
          rw [← shape, List.take_append_of_le_length (Nat.le_of_lt bounds.1)]
        have reached : origin ≤ (attempt.log.take attempt.offset).length := by
          rw [List.length_take, Nat.min_eq_left (Nat.le_of_lt bounds.1)]
          exact before.le
        rw [if_pos succeeded, if_pos succeeded, own.whole succeeded, read, readBefore,
          ← List.drop_append_of_le_length reached, List.take_append_drop]
      · rw [if_neg succeeded, if_neg succeeded, List.append_nil]

end Attempt

namespace Scene

/-- The log of a task. -/
def logOf
    (handle : Handle)
    (workspace : Workspace)
    (scene : Scene) : Bytes :=
  scene.storage.content (handle.logFile workspace)

/-- What an operation that streams the log has done: which attempts it has made, and where
they have brought the offset. -/
structure Streams
    (workspace : Workspace)
    (before after : Handle)
    (start stop : Scene)
    (attempts : List Attempt) : Prop where
  leads : Leads (before.directory workspace) start stop
  recorded : stop.attempts = attempts ++ start.attempts
  faithful : ∀ attempt ∈ attempts, attempt.Faithful
  fromLog : ∀ attempt ∈ attempts, start.logOf before workspace <+: attempt.log
  inLog : ∀ attempt ∈ attempts, attempt.log <+: stop.logOf before workspace
  chained : Attempt.Chained before.logOffset.toNat attempts after.logOffset.toNat
  /-- With a sink that refuses nothing, every attempt succeeds that has something to copy. -/
  takes : (∀ mood ∈ start.moods, mood = .accepts) →
    ∀ attempt ∈ attempts, attempt.offset < attempt.log.length → attempt.succeeded = true
  sameId : after.id = before.id
  sameCapturing : after.capturing = before.capturing

namespace Streams

variable {workspace : Workspace} {handle middle last : Handle} {start between stop : Scene}

/-- Where nothing was attempted nothing was streamed. -/
theorem quiet
    (leads : Leads (handle.directory workspace) start stop)
    (recorded : stop.attempts = start.attempts) :
    Streams workspace handle handle start stop [] where
  leads := leads
  recorded := recorded
  faithful := fun _ member => absurd member List.not_mem_nil
  fromLog := fun _ member => absurd member List.not_mem_nil
  inLog := fun _ member => absurd member List.not_mem_nil
  chained := .start
  takes := fun _ _ member => absurd member List.not_mem_nil
  sameId := rfl
  sameCapturing := rfl

variable {earlier later : List Attempt}

/-- A handle that has moved on has the same control directory. -/
theorem sameDirectory
    (first : Streams workspace handle middle start between earlier) :
    middle.directory workspace = handle.directory workspace := by
  rw [Handle.directory, first.sameId, Handle.directory]

/-- A handle that has moved on has the same log. -/
theorem sameLog
    (first : Streams workspace handle middle start between earlier) :
    middle.logFile workspace = handle.logFile workspace := by
  rw [Handle.logFile, Handle.file, first.sameDirectory, Handle.logFile, Handle.file]

/-- Streams in a row make one stream, with the attempts of both. -/
theorem trans
    (first : Streams workspace handle middle start between earlier)
    (second : Streams workspace middle last between stop later) :
    Streams workspace handle last start stop (later ++ earlier) := by
  have sameDirectory := first.sameDirectory
  have sameLog := first.sameLog
  have secondLeads := second.leads
  rw [sameDirectory] at secondLeads
  refine ⟨first.leads.trans secondLeads, ?_, ?_, ?_, ?_,
    first.chained.append second.chained, ?_, second.sameId.trans first.sameId,
    second.sameCapturing.trans first.sameCapturing⟩
  · rw [second.recorded, first.recorded, List.append_assoc]
  · intro attempt member
    rcases List.mem_append.mp member with isLater | isEarlier
    · exact second.faithful attempt isLater
    · exact first.faithful attempt isEarlier
  · intro attempt member
    rcases List.mem_append.mp member with isLater | isEarlier
    · have fromLog := second.fromLog attempt isLater
      rw [logOf, sameLog] at fromLog
      exact first.leads.log_grows.trans fromLog
    · exact first.fromLog attempt isEarlier
  · intro attempt member
    rcases List.mem_append.mp member with isLater | isEarlier
    · have inLog := second.inLog attempt isLater
      rwa [logOf, sameLog] at inLog
    · exact (first.inLog attempt isEarlier).trans secondLeads.log_grows
  · intro willing attempt member
    have stillWilling : ∀ mood ∈ between.moods, mood = .accepts :=
      fun mood next => willing mood (first.leads.moods.subset next)
    rcases List.mem_append.mp member with isLater | isEarlier
    · exact second.takes stillWilling attempt isLater
    · exact first.takes willing attempt isEarlier

/-- So with such a sink what fails leaves nothing behind. -/
theorem received_of_failed
    {attempts : List Attempt}
    (streams : Streams workspace handle last start stop attempts)
    (willing : ∀ mood ∈ start.moods, mood = .accepts)
    {attempt : Attempt}
    (member : attempt ∈ attempts)
    (failed : attempt.succeeded = false) :
    attempt.received = [] := by
  apply (streams.faithful attempt member).received_of_past
  by_contra beforeEnd
  have succeeded := streams.takes willing attempt member (Nat.not_le.mp beforeEnd)
  rw [failed] at succeeded
  cases succeeded

end Streams

/-- The handle that counts after a copy of new log. -/
def handleAfter
    (handle : Handle) : Except TaskFault (Bool × Handle) → Handle
  | .ok (_, moved) => moved
  | .error _ => handle

/-- Whether a copy of new log says that something was handed on. -/
def saysCopied : Except TaskFault (Bool × Handle) → Bool
  | .ok (copied, _) => copied
  | .error _ => false

/-- An offset that goes on by what was read stands at the end of it. -/
theorem toNat_offset_add
    {offset : UInt64}
    {place : Nat}
    {log : Bytes}
    (same : place = offset.toNat)
    (beforeEnd : place < log.length)
    (fits : log.length < UInt64.size) :
    (offset + (log.drop place).length.toUInt64).toNat = log.length := by
  subst same
  have size : UInt64.size = 2 ^ 64 := rfl
  rw [List.length_drop, UInt64.toNat_add, UInt64.toNat_ofNat']
  omega

section Copying

variable {handle : Handle} {workspace : Workspace} {start middle stop : Scene}
  {attempt : Attempt}

/-- One attempt, which has read the log at some moment, moves the handle to where the next
one begins. -/
theorem Streams.attempted
    (first : Leads (handle.directory workspace) start middle)
    (rest : Leads (handle.directory workspace) middle stop)
    (recorded : stop.attempts = attempt :: start.attempts)
    (offset : attempt.offset = handle.logOffset.toNat)
    (log : attempt.log = middle.logOf handle workspace)
    (faithful : attempt.Faithful)
    (takes : (∀ mood ∈ start.moods, mood = .accepts) →
      attempt.offset < attempt.log.length → attempt.succeeded = true)
    {moved : UInt64}
    (next : moved.toNat = attempt.next) :
    Streams workspace handle { handle with logOffset := moved } start stop [attempt] := by
  refine ⟨first.trans rest, recorded, ?_, ?_, ?_, ?_, ?_, rfl, rfl⟩
  · intro other member
    rw [List.mem_singleton.mp member]
    exact faithful
  · intro other member
    rw [List.mem_singleton.mp member, log]
    exact first.log_grows
  · intro other member
    rw [List.mem_singleton.mp member, log]
    exact rest.log_grows
  · have chained : Attempt.Chained handle.logOffset.toNat [attempt] attempt.next :=
      .attempt (offset ▸ .start)
    rwa [← next] at chained
  · intro willing other member
    rw [List.mem_singleton.mp member]
    exact takes willing

/-- What became of the log between two scenes: nothing of the handle has changed but its
offset, by at most so many attempts, and it is said whether one of them succeeded. -/
structure Reports
    (most : Nat)
    (workspace : Workspace)
    (before after : Handle)
    (start stop : Scene)
    (said : Bool) : Prop where
  leads : Leads (before.directory workspace) start stop
  moved : ∃ offset, after = { before with logOffset := offset }
  streams : (stop.logOf before workspace).length < UInt64.size →
    ∃ attempts, attempts.length ≤ most ∧
      Streams workspace before after start stop attempts ∧
      (said = true ↔ ∃ attempt ∈ attempts, attempt.succeeded = true)

namespace Reports

variable {last : Handle} {most more : Nat} {said saidNext : Bool}

theorem quiet
    (leads : Leads (handle.directory workspace) start stop)
    (recorded : stop.attempts = start.attempts) :
    Reports most workspace handle handle start stop false where
  leads := leads
  moved := ⟨handle.logOffset, rfl⟩
  streams := fun _ => ⟨[], Nat.zero_le _, .quiet leads recorded, by simp⟩

/-- One attempt that is recorded as it went is all there is to report. -/
theorem attempted
    (first : Leads (handle.directory workspace) start middle)
    (rest : Leads (handle.directory workspace) middle stop)
    (recorded : stop.attempts = attempt :: start.attempts)
    (offset : attempt.offset = handle.logOffset.toNat)
    (log : attempt.log = middle.logOf handle workspace)
    (faithful : attempt.Faithful)
    (takes : (∀ mood ∈ start.moods, mood = .accepts) →
      attempt.offset < attempt.log.length → attempt.succeeded = true)
    {moved : UInt64}
    (next : attempt.log.length < UInt64.size → moved.toNat = attempt.next) :
    Reports 1 workspace handle { handle with logOffset := moved } start stop
      attempt.succeeded where
  leads := first.trans rest
  moved := ⟨moved, rfl⟩
  streams := by
    intro fits
    have inLog : attempt.log <+: stop.logOf handle workspace := by
      rw [log]
      exact rest.log_grows
    have shorter := Nat.lt_of_le_of_lt inLog.length_le fits
    exact ⟨[attempt], Nat.le_refl _,
      .attempted first rest recorded offset log faithful takes (next shorter), by simp⟩

/-- An attempt that does not succeed leaves the handle as it is. -/
theorem failed
    (first : Leads (handle.directory workspace) start middle)
    (rest : Leads (handle.directory workspace) middle stop)
    (recorded : stop.attempts = attempt :: start.attempts)
    (offset : attempt.offset = handle.logOffset.toNat)
    (log : attempt.log = middle.logOf handle workspace)
    (part : attempt.received <+: attempt.log.drop attempt.offset)
    (failed : attempt.succeeded = false)
    (takes : (∀ mood ∈ start.moods, mood = .accepts) →
      attempt.log.length ≤ attempt.offset) :
    Reports 1 workspace handle handle start stop false := by
  have faithful : attempt.Faithful := by
    refine ⟨part, fun succeeded => ?_⟩
    rw [failed] at succeeded
    cases succeeded
  have stays : handle.logOffset.toNat = attempt.next := by
    rw [Attempt.next, failed, ← offset]
    rfl
  have reports := attempted first rest recorded offset log faithful
    (fun willing beforeEnd => absurd (takes willing) (Nat.not_le.mpr beforeEnd)) fun _ => stays
  rwa [failed] at reports

/-- A report of at most so many attempts is one of at most more. -/
theorem mono
    (reports : Reports most workspace handle last start stop said)
    (less : most ≤ more) :
    Reports more workspace handle last start stop said where
  leads := reports.leads
  moved := reports.moved
  streams := by
    intro fits
    obtain ⟨attempts, few, streams, tells⟩ := reports.streams fits
    exact ⟨attempts, Nat.le_trans few less, streams, tells⟩

theorem trans
    {between : Handle}
    (first : Reports most workspace handle between start middle said)
    (second : Reports more workspace between last middle stop saidNext) :
    Reports (most + more) workspace handle last start stop (said || saidNext) := by
  obtain ⟨offset, rfl⟩ := first.moved
  obtain ⟨lastOffset, rfl⟩ := second.moved
  refine ⟨first.leads.trans second.leads, ⟨lastOffset, rfl⟩, fun fits => ?_⟩
  have fitsBefore := Nat.lt_of_le_of_lt second.leads.log_grows.length_le fits
  obtain ⟨earlier, few, streams, tells⟩ := first.streams fitsBefore
  obtain ⟨later, fewLater, streamsLater, tellsLater⟩ := second.streams fits
  refine ⟨later ++ earlier, ?_, streams.trans streamsLater, ?_⟩
  · rw [List.length_append, Nat.add_comm]
    exact Nat.add_le_add few fewLater
  · rw [Bool.or_eq_true, tells, tellsLater]
    simp only [List.mem_append, or_and_right, exists_or]
    exact Or.comm

/-- Where nothing follows, the report stays the same. -/
theorem trans_quiet
    {between : Handle}
    (first : Reports most workspace handle between start middle said)
    (second : Reports 0 workspace between last middle stop false) :
    Reports most workspace handle last start stop said := by
  have both := first.trans second
  rwa [Bool.or_false] at both

end Reports

/-- What a copy of new log does, and that it says so. -/
theorem Copied.reports
    {answer : Except TaskFault (Bool × Handle)}
    (copied : Copied handle workspace start answer stop) :
    Reports 1 workspace handle (handleAfter handle answer) start stop
      (saysCopied answer) := by
  cases copied with
  | directoryMissing leads attempts gone => exact .quiet leads attempts
  | noLog leads attempts absent => exact .quiet leads attempts
  | unreadable leadsEarlier leads stood noFile attempts offset log received =>
      have nothing : stop.logOf handle workspace = [] := by
        rw [logOf, Storage.content]
        split
        · rename_i held found
          exact absurd found (noFile held)
        · rfl
      refine .failed (leadsEarlier.trans leads) (.refl _ _) attempts offset
        (log.trans nothing.symm) ?_ ?_ fun _ => ?_
      · rw [received]
        exact List.nil_prefix
      · simp [Attempt.succeeded, log]
      · rw [log]
        exact Nat.zero_le _
  | nothingNew leads attempts offset log atEnd received =>
      refine .failed leads (.refl _ _) attempts offset log ?_ ?_ fun _ => atEnd
      · rw [received]
        exact List.nil_prefix
      · simp [Attempt.succeeded, Nat.not_lt.mpr atEnd]
  | refused leadsMiddle leads refusing attempts offset log refused part =>
      refine .failed leadsMiddle leads attempts offset log part ?_
        fun willing => absurd (SinkMood.accepting_of_forall willing) refusing
      simp [Attempt.succeeded, refused]
  | delivered leadsMiddle leads attempts offset log beforeEnd accepting accepted received =>
      rename_i middle attempt
      have succeeded : attempt.succeeded = true := by
        simp [Attempt.succeeded, beforeEnd, accepted]
      have reports := Reports.attempted leadsMiddle leads attempts offset log
        ⟨received ▸ List.prefix_refl _, fun _ => received⟩
        (fun _ _ => succeeded)
        fun fits => (toNat_offset_add offset beforeEnd fits).trans (if_pos succeeded).symm
      rwa [succeeded] at reports

/-- A log that is longer than what was handed on stays longer. -/
theorem Leads.log_longer
    {offset : Nat}
    (leads : Leads (handle.directory workspace) start stop)
    (unread : offset < (start.logOf handle workspace).length) :
    offset < (stop.logOf handle workspace).length :=
  Nat.lt_of_lt_of_le unread leads.log_grows.length_le

/-- A log that holds anything beyond an offset is a file. -/
theorem isFile_of_log_longer
    {offset : Nat}
    (unread : offset < (start.logOf handle workspace).length) :
    ∃ held, start.storage.look (handle.logFile workspace) = some (.file held) := by
  rw [logOf, Storage.content] at unread
  split at unread
  · exact ⟨_, ‹_›⟩
  · cases unread

/-- A copy that finds more in the log than was handed on hands it on if the sink takes it,
and else it says that the sink refused. -/
theorem Copied.of_unread
    {answer : Except TaskFault (Bool × Handle)}
    (copied : Copied handle workspace start answer stop)
    (stands : start.storage.look (handle.directory workspace) = some .directory)
    (unread : handle.logOffset.toNat < (start.logOf handle workspace).length) :
    (SinkMood.Accepting start.moods ∧ ∃ moved, answer = .ok (true, moved)) ∨
      (¬ SinkMood.Accepting start.moods ∧ ∃ cause, answer = .error (.sink cause)) := by
  cases copied with
  | directoryMissing leads attempts gone =>
      exact absurd (leads.look_directory.trans stands) gone
  | noLog leads attempts absent =>
      obtain ⟨held, isFile⟩ := isFile_of_log_longer (leads.log_longer unread)
      rw [absent] at isFile
      cases isFile
  | unreadable leadsEarlier leads stood noFile attempts offset log received =>
      obtain ⟨held, isFile⟩ :=
        isFile_of_log_longer ((leadsEarlier.trans leads).log_longer unread)
      exact absurd isFile (noFile held)
  | nothingNew leads attempts offset log atEnd received =>
      rw [log, offset] at atEnd
      exact absurd (leads.log_longer unread) (Nat.not_lt.mpr atEnd)
  | refused leadsMiddle leads refusing attempts offset log refused part =>
      exact Or.inr ⟨refusing, _, rfl⟩
  | delivered leadsMiddle leads attempts offset log beforeEnd accepting accepted received =>
      exact Or.inl ⟨accepting, _, rfl⟩

end Copying

/-! ### Polling -/

section Polling

variable {handle : Handle} {workspace : Workspace}

/-- A look at the result leaves the log alone. -/
theorem Probed.reports
    {start stop : Scene}
    {answer : Except TaskFault Status}
    (probed : Probed handle workspace start answer stop) :
    Reports 0 workspace handle handle start stop false := by
  cases probed with
  | directoryMissing leads attempts gone => exact .quiet leads attempts
  | noResult leads attempts stands absent => exact .quiet leads attempts
  | unreadable leadsEarlier leads attempts stood noFile =>
      exact .quiet (leadsEarlier.trans leads) attempts
  | read leadsMiddle leads attempts stands isFile =>
      exact .quiet (leadsMiddle.trans leads) attempts

/-- So does reading the captured output. -/
theorem Shown.reports
    {start stop : Scene}
    {answer : Except TaskFault (Option Bytes)}
    (shown : Shown handle workspace start answer stop) :
    Reports 0 workspace handle handle start stop false := by
  cases shown with
  | notCapturing notCapturing => exact .quiet (.refl _ _) rfl
  | directoryMissing leads attempts gone => exact .quiet leads attempts
  | noOutput capturing leads attempts absent => exact .quiet leads attempts
  | unreadable leadsEarlier leads attempts stood noFile =>
      exact .quiet (leadsEarlier.trans leads) attempts
  | read capturing leads attempts isFile => exact .quiet leads attempts

/-- What a poll cycle does with the log, and that it says so. -/
theorem Polled.reports
    {start stop : Scene}
    {outcome : PollOutcome}
    (polled : Polled handle workspace start outcome stop) :
    Reports 2 workspace handle outcome.handle start stop outcome.progressed := by
  have once : 1 ≤ 2 := Nat.le_succ 1
  cases polled with
  | copyFault copy => exact copy.reports.mono once
  | statusFault copy probe => exact (copy.reports.trans_quiet probe.reports).mono once
  | running copy probe => exact (copy.reports.trans_quiet probe.reports).mono once
  | tailFault copy probe tail =>
      have reports := (copy.reports.trans_quiet probe.reports).trans tail.reports
      rwa [saysCopied, saysCopied, Bool.or_false] at reports
  | outputFault copy probe tail shown =>
      have reports := (copy.reports.trans_quiet probe.reports).trans tail.reports
      exact reports.trans_quiet shown.reports
  | complete copy probe tail shown =>
      obtain ⟨offset, rfl⟩ := copy.moved
      obtain ⟨lastOffset, rfl⟩ := tail.moved
      have reports := (copy.reports.trans_quiet probe.reports).trans tail.reports
      exact (reports.trans_quiet shown.reports).trans_quiet
        (.quiet (Leads.advance _) (advance_attempts _ _))

/-- A poll cycle that finds more in the log than was handed on says that some was handed on
exactly if the sink takes it. -/
theorem Polled.of_unread
    {start stop : Scene}
    {outcome : PollOutcome}
    (polled : Polled handle workspace start outcome stop)
    (stands : start.storage.look (handle.directory workspace) = some .directory)
    (unread : handle.logOffset.toNat < (start.logOf handle workspace).length) :
    outcome.progressed = true ↔ SinkMood.Accepting start.moods := by
  have said : ∀ {copied : Bool} {moved : Handle} {middle : Scene},
      Copied handle workspace start (.ok (copied, moved)) middle →
        copied = true ∧ SinkMood.Accepting start.moods := by
    intro copied moved middle copy
    rcases copy.of_unread stands unread with ⟨accepting, _, same⟩ | ⟨_, _, impossible⟩
    · cases same
      exact ⟨rfl, accepting⟩
    · cases impossible
  cases polled with
  | copyFault copy =>
      rcases copy.of_unread stands unread with ⟨_, _, impossible⟩ | ⟨refusing, _⟩
      · cases impossible
      · exact ⟨fun impossible => absurd impossible Bool.false_ne_true,
          fun accepting => absurd accepting refusing⟩
  | statusFault copy probe => exact ⟨fun _ => (said copy).2, fun _ => (said copy).1⟩
  | running copy probe => exact ⟨fun _ => (said copy).2, fun _ => (said copy).1⟩
  | tailFault copy probe tail => exact ⟨fun _ => (said copy).2, fun _ => (said copy).1⟩
  | outputFault copy probe tail shown =>
      exact ⟨fun _ => (said copy).2, fun _ => by rw [(said copy).1, Bool.true_or]⟩
  | complete copy probe tail shown =>
      exact ⟨fun _ => (said copy).2, fun _ => by rw [(said copy).1, Bool.true_or]⟩

end Polling

end Scene

end DetachedTasks
