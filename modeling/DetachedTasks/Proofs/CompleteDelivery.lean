import DetachedTasks.Proofs.ChildLife
import DetachedTasks.Proofs.LogStreaming
import DetachedTasks.Proofs.ResultReading

/-!
# Complete delivery

The child closes its log before it writes its result.  So a poll cycle that has seen the
result finds the log at its final length, and its second copy of the log hands on exactly
what was missing, whatever the child did between any two file system calls of the cycle.
-/

namespace DetachedTasks

open Sandbox

namespace Attempt

/-- All that a sink has received in some attempts; the last one comes first in the list. -/
def receipts : List Attempt → Bytes
  | [] => []
  | attempt :: earlier => receipts earlier ++ attempt.received

theorem receipts_append
    (later earlier : List Attempt) :
    receipts (later ++ earlier) = receipts earlier ++ receipts later := by
  induction later with
  | nil => exact (List.append_nil _).symm
  | cons attempt later inductionHypothesis =>
      rw [List.cons_append, receipts, inductionHypothesis, List.append_assoc, ← receipts]

/-- If what fails leaves nothing behind, the sink has what was handed on and nothing else. -/
theorem receipts_eq_delivered
    {attempts : List Attempt}
    (calm : ∀ attempt ∈ attempts, attempt.succeeded = false → attempt.received = []) :
    receipts attempts = delivered attempts := by
  induction attempts with
  | nil => rfl
  | cons attempt earlier inductionHypothesis =>
      have sofar := inductionHypothesis
        fun other member => calm other (List.mem_cons_of_mem _ member)
      rw [receipts, delivered, sofar]
      by_cases succeeded : attempt.succeeded = true
      · rw [if_pos succeeded]
      · have nothing := calm attempt List.mem_cons_self (Bool.eq_false_iff.mpr succeeded)
        rw [if_neg succeeded, nothing]

end Attempt

/-- What a child that has ended is reported as. -/
def Child.report
    (child : Child)
    (capturing : Bool) : TaskResult where
  exitCode := child.exitCode
  output := if capturing then child.output else none

namespace Scene

variable {child : Child} {handle : Handle} {workspace : Workspace} {laid : Storage}
  {start stop : Scene}

/-! ### The operations of a poll cycle -/

/-- With a calm sink a copy of new log does not fail. -/
theorem Copied.ok
    {answer : Except TaskFault (Bool × Handle)}
    (copied : Copied handle workspace start answer stop)
    (isLaid : IsLaid (handle.directory workspace) laid)
    (lives : child.Lives (handle.directory workspace) laid start) :
    ∃ more moved, answer = .ok (more, moved) := by
  cases copied with
  | directoryMissing leads attempts gone =>
      exact absurd ((lives.lead leads).look_directory isLaid) gone
  | noLog leads attempts absent => exact ⟨_, _, rfl⟩
  | unreadable leadsEarlier leads stood noFile attempts offset log received =>
      have was := (lives.lead leadsEarlier).isFile_of_look isLaid Deed.logName_mem stood
      obtain ⟨held, isFile⟩ := leads.isFile Deed.logName_mem was
      exact absurd isFile (noFile held)
  | nothingNew leads attempts offset log atEnd received => exact ⟨_, _, rfl⟩
  | refused leadsMiddle leads refusing attempts offset log refused part =>
      exact absurd (SinkMood.accepting_of_forall lives.willing) refusing
  | delivered leadsMiddle leads attempts offset log beforeEnd accepting accepted received =>
      exact ⟨_, _, rfl⟩

/-- A copy that does not fail hands on all that the log held when it began. -/
theorem Copied.reaches
    {more : Bool}
    {moved : Handle}
    (copied : Copied handle workspace start (.ok (more, moved)) stop)
    (fits : (stop.logOf handle workspace).length < UInt64.size) :
    (start.logOf handle workspace).length ≤ moved.logOffset.toNat := by
  have grown :
      start.logOf handle workspace <+: stop.logOf handle workspace :=
    copied.reports.leads.log_grows
  cases copied with
  | noLog leads attempts absent =>
      have nothing : stop.logOf handle workspace = [] := by
        rw [logOf, Storage.content, absent]
      rw [nothing, List.prefix_nil] at grown
      rw [grown]
      exact Nat.zero_le _
  | nothingNew leads attempts offset log atEnd received =>
      rw [log, offset] at atEnd
      exact Nat.le_trans grown.length_le atEnd
  | delivered leadsMiddle leads attempts offset log beforeEnd accepting accepted received =>
      rename_i middle attempt
      have fromStart : start.logOf handle workspace <+: attempt.log := by
        rw [log]
        exact leadsMiddle.log_grows
      have inStop : attempt.log <+: stop.logOf handle workspace := by
        rw [log]
        exact leads.log_grows
      rw [toNat_offset_add offset beforeEnd
        (Nat.lt_of_le_of_lt inStop.length_le fits)]
      exact fromStart.length_le

/-- Without a result later on there was none before. -/
theorem noResult_of_leads
    {middle : Scene}
    (isLaid : IsLaid (handle.directory workspace) laid)
    (lives : child.Lives (handle.directory workspace) laid start)
    (leads : Leads (handle.directory workspace) start middle)
    (absent : middle.storage.look (handle.resultFile workspace) = none) :
    start.storage.look (handle.resultFile workspace) = none := by
  by_contra stood
  have was := lives.isFile_of_look isLaid Deed.resultName_mem stood
  obtain ⟨held, isFile⟩ := leads.isFile Deed.resultName_mem was
  have isFileNow :
      middle.storage.look (handle.resultFile workspace) = some (.file held) := isFile
  rw [absent] at isFileNow
  cases isFileNow

/-- A look at the result finds none, or it finds the whole one. -/
theorem Probed.verdict
    {answer : Except TaskFault Status}
    (probed : Probed handle workspace start answer stop)
    (isLaid : IsLaid (handle.directory workspace) laid)
    (lives : child.Lives (handle.directory workspace) laid start)
    (blank : child.lineEnd.all Text.isBlank = true) :
    (answer = .ok .running ∧ start.storage.look (handle.resultFile workspace) = none) ∨
      (answer = .ok (.complete child.exitCode) ∧
        ∃ held, stop.storage.look (handle.resultFile workspace) = some (.file held)) := by
  cases probed with
  | directoryMissing leads attempts gone =>
      exact absurd ((lives.lead leads).look_directory isLaid) gone
  | noResult leads attempts stands absent =>
      exact Or.inl ⟨rfl, noResult_of_leads isLaid lives leads absent⟩
  | unreadable leadsEarlier leads attempts stood noFile =>
      have was := (lives.lead leadsEarlier).isFile_of_look isLaid Deed.resultName_mem stood
      obtain ⟨held, isFile⟩ := leads.isFile Deed.resultName_mem was
      exact absurd isFile (noFile held)
  | read leadsMiddle leads attempts stands isFile =>
      obtain ⟨whole, _, _⟩ := (lives.lead leadsMiddle).complete_of_result isLaid isFile
      refine Or.inr ⟨?_, leads.isFile Deed.resultName_mem ⟨_, isFile⟩⟩
      rw [whole, ResultText.statusOf, Child.result, ResultText.parse_exitCode child.exitCode blank]

/-- Behind the result the captured output is there as a whole. -/
theorem Shown.verdict
    {answer : Except TaskFault (Option Bytes)}
    (shown : Shown handle workspace start answer stop)
    (isLaid : IsLaid (handle.directory workspace) laid)
    (lives : child.Lives (handle.directory workspace) laid start)
    (ended : ∃ held, start.storage.look (handle.resultFile workspace) = some (.file held)) :
    answer = .ok (if handle.capturing then child.output else none) := by
  have final : Leads (handle.directory workspace) start stop →
      stop.storage.look (handle.outputFile workspace) = child.output.map .file := by
    intro leads
    obtain ⟨held, isFile⟩ := leads.isFile Deed.resultName_mem ended
    exact ((lives.lead leads).complete_of_result isLaid isFile).2.2
  cases shown with
  | notCapturing notCapturing => rw [if_neg (by simp [notCapturing])]
  | directoryMissing leads attempts gone =>
      exact absurd ((lives.lead leads).look_directory isLaid) gone
  | noOutput capturing leads attempts absent =>
      rw [final leads, Option.map_eq_none_iff] at absent
      rw [if_pos capturing, absent]
  | unreadable leadsEarlier leads attempts stood noFile =>
      have was := (lives.lead leadsEarlier).isFile_of_look isLaid Deed.outputName_mem stood
      obtain ⟨held, isFile⟩ := leads.isFile Deed.outputName_mem was
      exact absurd isFile (noFile held)
  | read capturing leads attempts isFile =>
      rw [final leads] at isFile
      obtain ⟨content, found, same⟩ := Option.map_eq_some_iff.mp isFile
      cases same
      rw [if_pos capturing, found]

/-- A poll cycle does not fail; it answers nothing if it finds no result, and else what the
child is reported as. -/
theorem Polled.answer
    {outcome : PollOutcome}
    (polled : Polled handle workspace start outcome stop)
    (isLaid : IsLaid (handle.directory workspace) laid)
    (lives : child.Lives (handle.directory workspace) laid start)
    (blank : child.lineEnd.all Text.isBlank = true) :
    (outcome.verdict = .ok none ∧
        start.storage.look (handle.resultFile workspace) = none) ∨
      (outcome.verdict = .ok (some (child.report handle.capturing)) ∧
        ∃ held, stop.storage.look (handle.resultFile workspace) = some (.file held)) := by
  cases polled with
  | copyFault copy =>
      obtain ⟨more, moved, impossible⟩ := copy.ok isLaid lives
      cases impossible
  | statusFault copy probe =>
      obtain ⟨offset, rfl⟩ := copy.moved
      rcases probe.verdict isLaid (lives.lead copy.reports.leads) blank with
        ⟨impossible, _⟩ | ⟨impossible, _⟩ <;> cases impossible
  | running copy probe =>
      obtain ⟨offset, rfl⟩ := copy.moved
      rcases probe.verdict isLaid (lives.lead copy.reports.leads) blank with
        ⟨_, absent⟩ | ⟨impossible, _⟩
      · exact Or.inl ⟨rfl, noResult_of_leads isLaid lives copy.reports.leads absent⟩
      · cases impossible
  | tailFault copy probe tail =>
      obtain ⟨offset, rfl⟩ := copy.moved
      obtain ⟨more, moved, impossible⟩ :=
        tail.ok isLaid ((lives.lead copy.reports.leads).lead probe.reports.leads)
      cases impossible
  | outputFault copy probe tail shown =>
      obtain ⟨offset, rfl⟩ := copy.moved
      obtain ⟨lastOffset, rfl⟩ := tail.moved
      rcases probe.verdict isLaid (lives.lead copy.reports.leads) blank with
        ⟨impossible, _⟩ | ⟨_, held, isFile⟩
      · cases impossible
      · have livesThen := (lives.lead copy.reports.leads).lead probe.reports.leads
        have ended := tail.reports.leads.isFile Deed.resultName_mem ⟨held, isFile⟩
        have impossible := shown.verdict isLaid (livesThen.lead tail.reports.leads) ended
        cases impossible
  | complete copy probe tail shown =>
      obtain ⟨offset, rfl⟩ := copy.moved
      obtain ⟨lastOffset, rfl⟩ := tail.moved
      rcases probe.verdict isLaid (lives.lead copy.reports.leads) blank with
        ⟨impossible, _⟩ | ⟨same, held, isFile⟩
      · cases impossible
      · have livesThen := (lives.lead copy.reports.leads).lead probe.reports.leads
        have ended := tail.reports.leads.isFile Deed.resultName_mem ⟨held, isFile⟩
        have answered := shown.verdict isLaid (livesThen.lead tail.reports.leads) ended
        refine Or.inr ⟨?_, ?_⟩
        · cases same
          cases answered
          rfl
        · exact (shown.reports.leads.trans (Leads.advance _)).isFile Deed.resultName_mem ended

/-- When a poll cycle answers with a result, it has handed on the whole log. -/
theorem Polled.reaches
    {outcome : PollOutcome}
    (polled : Polled handle workspace start outcome stop)
    {result : TaskResult}
    (answered : outcome.verdict = .ok (some result))
    (isLaid : IsLaid (handle.directory workspace) laid)
    (lives : child.Lives (handle.directory workspace) laid start)
    (blank : child.lineEnd.all Text.isBlank = true)
    (fits : child.log.length < UInt64.size) :
    child.log.length ≤ outcome.handle.logOffset.toNat := by
  cases polled with
  | copyFault copy => cases answered
  | statusFault copy probe => cases answered
  | running copy probe => cases answered
  | tailFault copy probe tail => cases answered
  | outputFault copy probe tail shown => cases answered
  | complete copy probe tail shown =>
      obtain ⟨offset, rfl⟩ := copy.moved
      obtain ⟨lastOffset, rfl⟩ := tail.moved
      rcases probe.verdict isLaid (lives.lead copy.reports.leads) blank with
        ⟨impossible, _⟩ | ⟨_, held, isFile⟩
      · cases impossible
      · -- The log was final before the second copy began.
        have livesThen := (lives.lead copy.reports.leads).lead probe.reports.leads
        have final := (livesThen.complete_of_result isLaid isFile).2.1
        have livesLater := livesThen.lead tail.reports.leads
        have reached := tail.reaches
          (Nat.lt_of_le_of_lt (livesLater.log_begun isLaid).length_le fits)
        rw [← final]
        exact reached

end Scene

/-! ### Watching a task -/

/-- A controller that polls a task again and again. -/
structure Watch where
  scene : Scene
  handle : Handle
  deriving Repr

namespace Watch

/-- A controller to which nothing of the log was handed on yet, with a sink that never
refuses, and a child that acts in the given turns. -/
def attach
    (id : Text)
    (capturing : Bool)
    (storage : Storage)
    (turns : List (List Deed)) : Watch where
  scene := { storage, turns, moods := [], attempts := [] }
  handle := Handle.attach id capturing

/-- One poll cycle: what it came to, and the controller after it. -/
def poll
    (workspace : Workspace)
    (watch : Watch) : PollOutcome × Watch :=
  let (outcome, scene) :=
    Scene.run (watch.handle.directory workspace) (watch.handle.poll workspace) watch.scene
  (outcome, { scene, handle := outcome.handle })

/-- The controller after some poll cycles. -/
def after
    (workspace : Workspace)
    (watch : Watch) : Nat → Watch
  | 0 => watch
  | count + 1 => ((watch.after workspace count).poll workspace).2

/-- All that the sink has received. -/
def received (watch : Watch) : Bytes :=
  Attempt.receipts watch.scene.attempts

/-- What the log holds. -/
def log
    (workspace : Workspace)
    (watch : Watch) : Bytes :=
  watch.scene.logOf watch.handle workspace

/-- There is a result. -/
def HasResult
    (workspace : Workspace)
    (watch : Watch) : Prop :=
  watch.scene.storage.look (watch.handle.resultFile workspace) ≠ none

/-- What holds between the poll cycles of a controller. -/
structure Follows
    (child : Child)
    (workspace : Workspace)
    (first : Handle)
    (laid : Storage)
    (watch : Watch) : Prop where
  sameId : watch.handle.id = first.id
  sameCapturing : watch.handle.capturing = first.capturing
  lives : child.Lives (first.directory workspace) laid watch.scene
  inLog : watch.handle.logOffset.toNat ≤ (watch.log workspace).length
  received : watch.received = (watch.log workspace).take watch.handle.logOffset.toNat

/-- What one poll cycle owes to its caller. -/
structure Delivers
    (child : Child)
    (workspace : Workspace)
    (capturing : Bool)
    (before : Watch)
    (outcome : PollOutcome)
    (after : Watch) : Prop where
  /-- The sink holds the log up to the offset. -/
  inLog : after.handle.logOffset.toNat ≤ (after.log workspace).length
  received : after.received = (after.log workspace).take after.handle.logOffset.toNat
  /-- There is no fault, and there is no answer unless a result was found. -/
  faultless : ∃ found, outcome.verdict = .ok found
  unfinished : ¬ after.HasResult workspace → outcome.verdict = .ok none
  finished : before.HasResult workspace → outcome.verdict ≠ .ok none
  /-- With the answer the sink holds the final log, and the answer is right. -/
  complete : ∀ result, outcome.verdict = .ok (some result) →
    after.received = child.log ∧
      after.log workspace = child.log ∧
      result.exitCode = child.exitCode ∧
      result.output = if capturing then child.output else none

section Delivering

variable {child : Child} {workspace : Workspace} {first : Handle} {laid : Storage}
  {watch : Watch}

theorem Follows.directory
    (follows : Follows child workspace first laid watch) :
    watch.handle.directory workspace = first.directory workspace := by
  rw [Handle.directory, follows.sameId, Handle.directory]

/-- What the log and the sink come to by attempts that leave nothing of a failure behind. -/
theorem Follows.streams
    (follows : Follows child workspace first laid watch)
    {handle : Handle}
    {stop : Scene}
    {attempts : List Attempt}
    (streams : Scene.Streams workspace watch.handle handle watch.scene stop attempts) :
    Follows child workspace first laid { scene := stop, handle } := by
  have log :
      Watch.log workspace { scene := stop, handle } =
        stop.logOf watch.handle workspace := by
    rw [Watch.log, Scene.logOf, streams.sameLog, Scene.logOf]
  have grown :
      watch.log workspace <+: stop.logOf watch.handle workspace :=
    streams.leads.log_grows
  have leads := streams.leads
  rw [follows.directory] at leads
  refine ⟨streams.sameId.trans follows.sameId,
    streams.sameCapturing.trans follows.sameCapturing, follows.lives.lead leads, ?_, ?_⟩
  · rw [log]
    exact streams.chained.inLog (Nat.le_trans follows.inLog grown.length_le) streams.inLog
  · have added :
        Attempt.receipts attempts =
          ((stop.logOf watch.handle workspace).take handle.logOffset.toNat).drop
            watch.handle.logOffset.toNat := by
      rw [Attempt.receipts_eq_delivered fun _ member failed =>
        streams.received_of_failed follows.lives.willing member failed]
      exact streams.chained.delivered streams.faithful streams.inLog
    have had :
        watch.received =
          ((stop.logOf watch.handle workspace).take handle.logOffset.toNat).take
            watch.handle.logOffset.toNat := by
      rw [follows.received, List.take_take, Nat.min_eq_left streams.chained.le]
      obtain ⟨behind, shape⟩ := grown
      rw [← shape, List.take_append_of_le_length follows.inLog]
    rw [log, Watch.received, streams.recorded, Attempt.receipts_append, ← Watch.received,
      had, added, List.take_append_drop]

/-- A poll cycle delivers what it has to, and a further one goes on from there. -/
theorem Follows.step
    (follows : Follows child workspace first laid watch)
    (isLaid : IsLaid (first.directory workspace) laid)
    (blank : child.lineEnd.all Text.isBlank = true)
    (fits : child.log.length < UInt64.size) :
    Follows child workspace first laid (watch.poll workspace).2 ∧
      Delivers child workspace first.capturing watch
        (watch.poll workspace).1 (watch.poll workspace).2 := by
  have polled := Scene.run_poll watch.handle workspace watch.scene
  simp only [poll]
  generalize
    Scene.run (watch.handle.directory workspace) (watch.handle.poll workspace) watch.scene =
      both at polled ⊢
  rcases both with ⟨outcome, stop⟩
  have lives := follows.lives
  rw [← follows.directory] at isLaid lives
  have livesAfter := lives.lead polled.reports.leads
  obtain ⟨attempts, _, streams, _⟩ := polled.reports.streams
    (Nat.lt_of_le_of_lt (livesAfter.log_begun isLaid).length_le fits)
  have followsAfter := follows.streams streams
  have sameResult :
      outcome.handle.resultFile workspace = watch.handle.resultFile workspace := by
    rw [Handle.resultFile, Handle.file, streams.sameDirectory, Handle.resultFile, Handle.file]
  refine ⟨followsAfter, ?_⟩
  rcases polled.answer isLaid lives blank with
    ⟨unfinished, absent⟩ | ⟨finished, ⟨held, isFile⟩⟩
  · refine ⟨followsAfter.inLog, followsAfter.received, ⟨none, unfinished⟩,
      fun _ => unfinished, fun present => absurd absent present, ?_⟩
    intro result answered
    rw [unfinished] at answered
    cases answered
  · have reached := polled.reaches finished isLaid lives blank fits
    have final :
        Watch.log workspace { scene := stop, handle := outcome.handle } = child.log := by
      rw [Watch.log, Scene.logOf, streams.sameLog]
      exact (livesAfter.complete_of_result isLaid isFile).2.1
    refine ⟨followsAfter.inLog, followsAfter.received, ⟨_, finished⟩, ?_, ?_, ?_⟩
    · intro absent
      apply absurd _ absent
      rw [HasResult, sameResult, isFile]
      exact Option.some_ne_none _
    · intro _ unanswered
      rw [finished] at unanswered
      cases unanswered
    · intro result answered
      rw [finished] at answered
      cases answered
      refine ⟨?_, final, rfl, ?_⟩
      · rw [followsAfter.received, final]
        exact List.take_of_length_le reached
      · rw [Child.report, follows.sameCapturing]

/-- So does every further one. -/
theorem Follows.after
    (follows : Follows child workspace first laid watch)
    (isLaid : IsLaid (first.directory workspace) laid)
    (blank : child.lineEnd.all Text.isBlank = true)
    (fits : child.log.length < UInt64.size)
    (count : Nat) :
    Follows child workspace first laid (watch.after workspace count) := by
  induction count with
  | zero => exact follows
  | succ count inductionHypothesis =>
      exact (inductionHypothesis.step isLaid blank fits).1

theorem follows_attach
    {id : Text}
    {capturing : Bool}
    {turns : List (List Deed)}
    (schedule : turns.flatten <+: child.deeds) :
    Follows child workspace (.attach id capturing) laid (attach id capturing laid turns) where
  sameId := rfl
  sameCapturing := rfl
  lives := ⟨⟨[], schedule, rfl⟩, rfl⟩
  inLog := Nat.zero_le _
  received := List.take_zero.symm

end Delivering

/-- Whatever a child does between any two file system calls, every poll cycle leaves in the
sink exactly the log up to the offset, and the cycle that answers leaves the final log. -/
theorem poll_delivers
    (workspace : Workspace)
    (id : Text)
    (capturing : Bool)
    (child : Child)
    (blank : child.lineEnd.all Text.isBlank = true)
    (fits : child.log.length < UInt64.size)
    (laid : Storage)
    (isLaid : IsLaid (workspace.controlDirectory id) laid)
    (turns : List (List Deed))
    (schedule : turns.flatten <+: child.deeds)
    (count : Nat) :
    Delivers child workspace capturing
      ((attach id capturing laid turns).after workspace count)
      (((attach id capturing laid turns).after workspace count).poll workspace).1
      (((attach id capturing laid turns).after workspace count).poll workspace).2 := by
  have start : Follows child workspace (.attach id capturing) laid
      (attach id capturing laid turns) := follows_attach schedule
  have now := start.after isLaid blank fits count
  exact (now.step isLaid blank fits).2

/-- A child that appends twice, captures one byte and ends with a negative exit code. -/
def sampleChild : Child where
  chunks := [[0x61], [0x62, 0x63]]
  output := some [0x6F]
  exitCode := -3
  lineEnd := "\r\n".toList

/-- A control directory in memory. -/
def sampleStorage : Storage :=
  .inMemory (Memory.new.ensureDirectory
    (Workspace.controlDirectory ⟨Path.ofText "/w".toList⟩ "durable-00000001".toList))

/-- The second piece and the result come between the first copy and the look at the result. -/
def sampleTurns : List (List Deed) :=
  [[], [.log [0x61]], [], [.log [0x62, 0x63]], [.output [0x6F]], [.result sampleChild.result]]

theorem poll_delivers_sample :
    sampleChild.log = [0x61, 0x62, 0x63] ∧
      (((attach "durable-00000001".toList true sampleStorage sampleTurns).poll
        ⟨Path.ofText "/w".toList⟩).1.verdict.toOption =
          some (some { exitCode := -3, output := some [0x6F] })) ∧
      Delivers sampleChild ⟨Path.ofText "/w".toList⟩ true
        (attach "durable-00000001".toList true sampleStorage sampleTurns)
        ((attach "durable-00000001".toList true sampleStorage sampleTurns).poll
          ⟨Path.ofText "/w".toList⟩).1
        ((attach "durable-00000001".toList true sampleStorage sampleTurns).poll
          ⟨Path.ofText "/w".toList⟩).2 := by
  have isLaid :
      IsLaid (Workspace.controlDirectory ⟨Path.ofText "/w".toList⟩
        "durable-00000001".toList) sampleStorage := by
    refine ⟨by decide, by decide, ?_⟩
    intro name member
    simp only [Deed.fileNames, List.mem_cons, List.not_mem_nil, or_false] at member
    rcases member with isLog | isOutput | isResult
    · subst isLog
      rfl
    · subst isOutput
      rfl
    · subst isResult
      rfl
  have schedule : sampleTurns.flatten <+: sampleChild.deeds := by decide
  exact ⟨by decide, by decide +kernel,
    poll_delivers _ _ true sampleChild (by decide) (by decide) sampleStorage isLaid
      sampleTurns schedule 0⟩

end Watch

end DetachedTasks
