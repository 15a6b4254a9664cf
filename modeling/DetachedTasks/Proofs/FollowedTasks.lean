import DetachedTasks.Proofs.CompleteDelivery
import DetachedTasks.Proofs.PollLoop

/-!
# Following a task to its end

The commands that follow a task end with the exit code that its child wrote.  What a parent
process sees of it is the remainder modulo 256, so that a failure is seen as one unless its
exit code is a multiple of 256.
-/

namespace DetachedTasks

open Sandbox (Storage)

/-! ## Exit statuses -/

namespace Application

/-- A parent process sees an exit code modulo 256. -/
theorem toNat_exitStatus (code : Int32) :
    (exitStatus code).toNat = (code.toInt % 256).toNat := by
  have unsigned : code.toUInt32.toNat = code.toBitVec.toNat := rfl
  have signed : code.toInt = code.toBitVec.toInt := rfl
  rw [exitStatus, UInt32.toNat_toUInt8, unsigned, signed, BitVec.toInt_eq_toNat_cond]
  split
  · omega
  · omega

/-- The exit status is zero exactly for the multiples of 256. -/
theorem exitStatus_eq_zero_iff (code : Int32) :
    exitStatus code = 0 ↔ 256 ∣ code.toInt := by
  rw [← UInt8.toNat_inj, toNat_exitStatus, Int.dvd_iff_emod_eq_zero]
  have bound := Int.emod_nonneg code.toInt (by decide : (256 : Int) ≠ 0)
  show (code.toInt % 256).toNat = 0 ↔ _
  omega

end Application

/-! ## What a run is answered -/

/-- A request, and the answer to it. -/
structure Exchange where
  request : Request
  answer : request.Answer

/-- What a program asks and what it is answered, in order. -/
def Program.exchanges
    (handler : Program.Handler State) : Program α → State → List Exchange
  | .done _, _ => []
  | .ask request resume, state =>
      let (answer, next) := handler request state
      ⟨request, answer⟩ :: (resume answer).exchanges handler next

/-- A program that is answered fairly ends as promised. -/
theorem Program.Meets.of_exchanges
    {terms : Terms}
    {promise : α → Prop}
    {program : Program α}
    (meets : program.Meets terms promise)
    (handler : Program.Handler State)
    (state : State)
    (fair : ∀ exchange ∈ program.exchanges handler state,
      terms.fair exchange.request exchange.answer) :
    promise (program.run handler state).1 := by
  induction program generalizing state with
  | done value => exact meets
  | ask request resume inductionHypothesis =>
      apply inductionHypothesis
      · exact meets.2 _ (fair _ List.mem_cons_self)
      · exact fun exchange member => fair exchange (List.mem_cons_of_mem _ member)

/-- A program of which nothing is wanted meets whatever terms allow everything. -/
theorem Program.meets_of_allowed
    {terms : Terms}
    (allowed : ∀ request, terms.allowed request)
    (program : Program α) :
    program.Meets terms fun _ => True := by
  induction program with
  | done value => trivial
  | ask request resume inductionHypothesis =>
      exact ⟨allowed request, fun answer _ => inductionHypothesis answer⟩

/-- Whoever reads a result file finds the whole result of a child there, or nothing yet. -/
def Terms.reporting (child : Child) : Terms where
  allowed := fun _ => True
  fair := fun
    | .file (.read path), answer =>
        ∀ (directory : Path) (held : Bytes),
          path = directory.joinText Handle.resultName → answer = .ok held →
            held = child.result ∨ ResultText.parse held = .ok none
    | _, _ => True

section Reporting

variable {child : Child} {workspace : Workspace} {handle : Handle}

open TaskProgram

/-- Every program may ask for anything under these terms. -/
theorem meets_reporting
    (program : Program α) :
    program.Meets (Terms.reporting child) fun _ => True :=
  program.meets_of_allowed fun _ => trivial

/-- No program breaks these terms, whatever it ends with. -/
theorem keeps_reporting
    (program : TaskProgram α) :
    program.Keeps (Terms.reporting child) :=
  (meets_reporting program.run).weaken (fun _ _ => trivial) (fun _ _ fair => fair)
    fun _ _ _ _ => trivial

/-- A status is the one of the child. -/
theorem Handle.status_reports
    (blank : child.lineEnd.all Text.isBlank = true) :
    (handle.status workspace).Meets (Terms.reporting child) fun status =>
      status = .running ∨ status = .complete child.exitCode := by
  rw [Handle.status_eq, Handle.lookFor]
  refine Meets.bind (keeps_reporting _) fun _ _ => ?_
  refine Meets.ask trivial fun found _ => ?_
  cases found with
  | false => exact Meets.pure (Or.inl rfl)
  | true =>
      have read : (TaskProgram.read (handle.resultFile workspace)).Meets
          (Terms.reporting child) fun held =>
            held = child.result ∨ ResultText.parse held = .ok none :=
        Meets.call_of_fair trivial fun reply fair held answered =>
          fair _ held rfl answered
      refine Meets.bind read fun held shown => ?_
      rw [ResultText.readStatus]
      rcases shown with whole | nothing
      · rw [whole, Child.result, ResultText.parse_exitCode child.exitCode blank]
        exact Meets.ask trivial fun _ _ => Meets.pure (Or.inr rfl)
      · rw [nothing]
        exact Meets.ask trivial fun _ _ => Meets.pure (Or.inl rfl)

/-- A verdict that speaks of no other exit code than that of the child. -/
def Child.IsVerdict
    (child : Child)
    (verdict : Except TaskFault (Option TaskResult)) : Prop :=
  ∀ result, verdict = .ok (some result) → result.exitCode = child.exitCode

/-- A fault is no verdict about an exit code. -/
theorem Child.isVerdict_error
    (child : Child)
    (fault : TaskFault) :
    child.IsVerdict (.error fault) := by
  intro result impossible
  cases impossible

/-- A task that is still running is no verdict about an exit code. -/
theorem Child.isVerdict_none (child : Child) :
    child.IsVerdict (.ok none) := by
  intro result impossible
  cases impossible

/-- A poll that finds a result reports the code that the child wrote. -/
theorem Handle.poll_reports
    (blank : child.lineEnd.all Text.isBlank = true)
    (handle : Handle) :
    (handle.poll workspace).Meets (Terms.reporting child) fun outcome =>
      child.IsVerdict outcome.verdict := by
  refine Program.Meets.bind (keeps_reporting (handle.copyLog workspace)) fun copied _ => ?_
  cases copied with
  | error fault => exact child.isVerdict_error fault
  | ok pair =>
      rcases pair with ⟨progressed, moved⟩
      refine Program.Meets.bind (moved.status_reports blank) fun status reported => ?_
      cases status with
      | error fault => exact child.isVerdict_error fault
      | ok status =>
          rcases reported status rfl with rfl | rfl
          · exact child.isVerdict_none
          · refine Program.Meets.bind (keeps_reporting (moved.copyLog workspace))
              fun copied _ => ?_
            cases copied with
            | error fault => exact child.isVerdict_error fault
            | ok pair =>
                rcases pair with ⟨more, last⟩
                refine Program.Meets.bind (keeps_reporting (last.output workspace))
                  fun output _ => ?_
                cases output with
                | error fault => exact child.isVerdict_error fault
                | ok output =>
                    refine ⟨trivial, fun _ _ result same => ?_⟩
                    cases same
                    rfl

/-- So does every verdict of somebody who waits. -/
theorem Terms.reporting_carriesWait
    (blank : child.lineEnd.all Text.isBlank = true) :
    (Terms.reporting child).CarriesWait workspace child.IsVerdict where
  quiet := fun _ _ => trivial
  poll := Handle.poll_reports blank
  unfinished := child.isVerdict_none
  stale := fun _ => child.isVerdict_error _

/-- Whoever follows a task ends with the exit code of its child. -/
theorem Application.follow_reports
    (blank : child.lineEnd.all Text.isBlank = true)
    (settings : Settings)
    (polls : Nat)
    (handle : Handle) :
    (Application.follow workspace settings polls handle).Meets (Terms.reporting child)
      fun code => ∀ exitCode, code = some exitCode → exitCode = child.exitCode := by
  refine (Terms.reporting_carriesWait blank).follow nofun ?_ settings polls handle
  intro result isVerdict exitCode same
  cases same
  exact isVerdict result rfl

end Reporting

/-- The commands that follow a task. -/
def Command.follows : Command → Bool
  | .run _ => true
  | .wait _ => true
  | _ => false

/-- A command that follows a task ends with the exit code of its child. -/
theorem Application.run_reports
    {child : Child}
    (blank : child.lineEnd.all Text.isBlank = true)
    (polls : Nat)
    {invocation : Invocation}
    (follows : invocation.command.follows = true) :
    (Application.run polls invocation).Meets (Terms.reporting child)
      fun code => ∀ exitCode, code = some exitCode → exitCode = child.exitCode := by
  refine TaskProgram.Meets.bind (keeps_reporting _) fun settings _ => ?_
  refine TaskProgram.Meets.bind (keeps_reporting _) fun workspace _ => ?_
  refine TaskProgram.Meets.ask trivial fun _ _ => ?_
  cases command : invocation.command with
  | run arguments =>
      refine TaskProgram.Meets.bind (keeps_reporting _) fun handle _ => ?_
      refine TaskProgram.Meets.bind (keeps_reporting _) fun _ _ => ?_
      exact Application.follow_reports blank settings polls handle
  | wait id =>
      refine TaskProgram.Meets.bind (keeps_reporting _) fun handle _ => ?_
      exact Application.follow_reports blank settings polls handle
  | _ =>
      rw [command] at follows
      cases follows

/-! ## The end is reached -/

/-- A child that does all it does in the turns of a scene, with a sink that never refuses. -/
structure Child.Finishes
    (child : Child)
    (directory : Path)
    (laid : Storage)
    (scene : Scene) : Prop where
  acted : ∃ done,
    done ++ scene.turns.flatten = child.deeds ∧
      scene.storage = Deed.performAll directory laid done
  calm : scene.moods = []

namespace Child.Finishes

variable {child : Child} {directory : Path} {laid : Storage} {scene after : Scene}

/-- A child that finishes within the scene lives in it. -/
theorem lives
    (finishes : child.Finishes directory laid scene) :
    child.Lives directory laid scene := by
  obtain ⟨done, all, storage⟩ := finishes.acted
  exact ⟨⟨done, all ▸ List.prefix_refl _, storage⟩, finishes.calm⟩

/-- However far the scene has gone, the child still finishes in what is left of it. -/
theorem lead
    (finishes : child.Finishes directory laid scene)
    (leads : Scene.Leads directory scene after) :
    child.Finishes directory laid after where
  acted := by
    obtain ⟨done, all, storage⟩ := finishes.acted
    obtain ⟨count, turns, storageAfter⟩ := leads.acted
    refine ⟨done ++ (scene.turns.take count).flatten, ?_, ?_⟩
    · rw [turns, List.append_assoc, ← List.flatten_append, List.take_append_drop, all]
    · rw [storageAfter, storage, Deed.performAll_append]
  calm := (finishes.lives.lead leads).calm

/-- After the last turn there is a result. -/
theorem result
    (finishes : child.Finishes directory laid scene)
    (isLaid : IsLaid directory laid)
    (isOver : scene.turns = []) :
    scene.storage.look (directory.joinText Handle.resultName) ≠ none := by
  obtain ⟨done, all, storage⟩ := finishes.acted
  rw [isOver, List.flatten_nil, List.append_nil] at all
  have held : Deed.heldAfter Handle.resultName none child.deeds = some child.result := by
    rw [Child.deeds, Deed.heldAfter_append, Deed.heldAfter, List.foldl_cons, List.foldl_nil]
    exact if_pos rfl
  rw [storage, all, isLaid.look_performAll child.deeds Deed.resultName_mem, held]
  exact Option.some_ne_none _

end Child.Finishes

section Ending

variable {child : Child} {workspace : Workspace} {laid : Storage} {scene : Scene}

/-- Every look takes one turn, as long as there are any. -/
theorem Scene.length_turns_advance
    (directory : Path)
    (scene : Scene) :
    (scene.advance directory).turns.length = scene.turns.length - 1 := by
  rw [advance]
  split
  · rename_i isOver
    rw [isOver, List.length_nil]
  · rename_i deeds turns shape
    rw [shape]
    rfl

/-- Turns that were taken do not come back. -/
theorem Scene.Leads.length_turns_le
    {directory : Path}
    {after : Scene}
    (leads : Scene.Leads directory scene after) :
    after.turns.length ≤ scene.turns.length := by
  obtain ⟨count, turns, _⟩ := leads.acted
  rw [turns, List.length_drop]
  exact Nat.sub_le _ _

/-- A wait polls, and goes on from where the poll has ended. -/
theorem Scene.run_pollUntil_succ
    (directory : Path)
    (workspace : Workspace)
    (options : PollOptions)
    (remaining : Nat)
    (lastProgress : Duration)
    (handle : Handle)
    (scene : Scene) :
    run directory
        (Handle.pollUntil workspace options (remaining + 1) lastProgress handle) scene =
      run directory
        (Handle.afterPoll workspace options remaining lastProgress
          (run directory (handle.poll workspace) scene).1)
        (run directory (handle.poll workspace) scene).2 := by
  rw [Handle.pollUntil_succ]
  exact run_bind _ _

/-- The clock of a scene stands still. -/
theorem Scene.run_renew
    (directory : Path)
    (progressed : Bool)
    (scene : Scene) :
    ∃ later, Leads directory scene later ∧
      run directory (Handle.renew ⟨0⟩ progressed) scene = (⟨0⟩, later) := by
  cases progressed with
  | true => exact ⟨_, Leads.advance scene, rfl⟩
  | false => exact ⟨_, Leads.refl _ _, rfl⟩

/-- A patience that has not run out at the start never does while the clock stands still. -/
theorem Scene.run_overdueNow?
    (directory : Path)
    {options : PollOptions}
    (patient : Handle.overdue? options ⟨0⟩ ⟨0⟩ = none)
    (scene : Scene) :
    ∃ later, Leads directory scene later ∧
      run directory (Handle.overdueNow? options ⟨0⟩) scene = (none, later) := by
  rw [Handle.overdueNow?]
  split
  · exact ⟨_, Leads.advance scene, congrArg (·, _) patient⟩
  · exact ⟨_, Leads.refl _ _, rfl⟩

/-- After a poll that has found no result, whoever does not give up polls again. -/
theorem Scene.run_afterPoll
    (workspace : Workspace)
    (directory : Path)
    {options : PollOptions}
    (patient : Handle.overdue? options ⟨0⟩ ⟨0⟩ = none)
    (remaining : Nat)
    {outcome : PollOutcome}
    (unfinished : outcome.verdict = .ok none)
    (scene : Scene) :
    ∃ later, Leads directory scene later ∧
      run directory (Handle.afterPoll workspace options remaining ⟨0⟩ outcome) scene =
        run directory (Handle.pollUntil workspace options remaining ⟨0⟩ outcome.handle)
          (later.advance directory) := by
  obtain ⟨renewed, leadsRenewed, renew⟩ := run_renew directory outcome.progressed scene
  obtain ⟨judged, leadsJudged, judge⟩ := run_overdueNow? directory patient renewed
  refine ⟨judged, leadsRenewed.trans leadsJudged, ?_⟩
  rw [Handle.afterPoll, unfinished]
  refine (run_bind _ _).trans ?_
  rw [renew]
  refine (run_bind _ _).trans ?_
  rw [judge]
  rfl

/-- Somebody who waits longer than the child acts, and does not give up, gets its result. -/
theorem Scene.run_pollUntil
    (blank : child.lineEnd.all Text.isBlank = true)
    {options : PollOptions}
    (patient : Handle.overdue? options ⟨0⟩ ⟨0⟩ = none)
    {handle : Handle}
    (isLaid : IsLaid (handle.directory workspace) laid)
    (finishes : child.Finishes (handle.directory workspace) laid scene)
    {remaining : Nat}
    (enough : scene.turns.length < remaining) :
    (Scene.run (handle.directory workspace)
        (Handle.pollUntil workspace options remaining ⟨0⟩ handle) scene).1.verdict =
      .ok (some (child.report handle.capturing)) := by
  induction remaining generalizing handle scene with
  | zero => exact absurd enough (Nat.not_lt_zero _)
  | succ remaining inductionHypothesis =>
      rw [run_pollUntil_succ]
      have polled := run_poll handle workspace scene
      generalize
        run (handle.directory workspace) (handle.poll workspace) scene = both at polled ⊢
      rcases both with ⟨outcome, after⟩
      rcases polled.answer isLaid finishes.lives blank with
        ⟨unfinished, absent⟩ | ⟨finished, _⟩
      · -- There was no result, so the child still had a turn, and this cycle has used one.
        have notOver : scene.turns.length ≠ 0 := by
          intro isOver
          exact finishes.result isLaid (List.length_eq_zero_iff.mp isOver) absent
        obtain ⟨later, leads, goesOn⟩ := run_afterPoll workspace
          (handle.directory workspace) patient remaining unfinished after
        have reached := (polled.reports.leads.trans leads).trans (Leads.advance later)
        have fewer := (polled.reports.leads.trans leads).length_turns_le
        have enoughStill :
            (later.advance (handle.directory workspace)).turns.length < remaining := by
          rw [length_turns_advance]
          omega
        obtain ⟨offset, moved⟩ := polled.reports.moved
        have laidStill :
            IsLaid (Handle.directory { handle with logOffset := offset } workspace) laid :=
          isLaid
        rw [goesOn, moved]
        exact inductionHypothesis laidStill (finishes.lead reached) enoughStill
      · change outcome.verdict = _ at finished
        rw [Handle.afterPoll, finished]
        rfl

/-- Somebody who follows a task for longer than its child acts, and does not give up, ends
with the exit code of the child. -/
theorem Scene.run_follow
    (blank : child.lineEnd.all Text.isBlank = true)
    {settings : Settings}
    (patient : Handle.overdue? settings.pollOptions ⟨0⟩ ⟨0⟩ = none)
    {handle : Handle}
    (isLaid : IsLaid (handle.directory workspace) laid)
    (finishes : child.Finishes (handle.directory workspace) laid scene)
    {polls : Nat}
    (enough : scene.turns.length < polls) :
    (Scene.run (handle.directory workspace)
        (Application.follow workspace settings polls handle).run scene).1 =
      .ok (some child.exitCode) := by
  have waited : ∀ later : Scene, Leads (handle.directory workspace) scene later →
      (run (handle.directory workspace) (do
          let start ← Program.request .now
          Handle.pollUntil workspace settings.pollOptions polls start handle)
        later).1.verdict = .ok (some (child.report handle.capturing)) := by
    intro later leads
    have reached := leads.trans (Leads.advance later)
    have fewer := reached.length_turns_le
    rw [run_bind]
    exact run_pollUntil blank patient isLaid (finishes.lead reached)
      (Nat.lt_of_le_of_lt fewer enough)
  have answered : (run (handle.directory workspace)
      (handle.wait workspace settings.pollOptions polls) scene).1.verdict =
        .ok (some (child.report handle.capturing)) := by
    rw [Handle.wait, run_bind]
    apply waited
    rw [Handle.watch]
    split
    · exact (Leads.advance scene).trans (Leads.advance _)
    · exact Leads.refl _ _
  rw [Application.follow, ExceptT.run_bind_lift, run_bind]
  generalize
    run (handle.directory workspace) (handle.wait workspace settings.pollOptions polls) scene =
      both at answered ⊢
  rcases both with ⟨⟨verdict, last⟩, after⟩
  change verdict = _ at answered
  subst answered
  show (run (handle.directory workspace)
    (if (child.report handle.capturing).output.isSome then _ else _ :
      TaskProgram (Option Int32)).run after).1 = _
  split
  · rfl
  · rfl

end Ending

/-! ## What the parent sees -/

namespace Application

/-- The exit status that an exit code comes to is what is left of it modulo 256.  So it tells
success from failure, unless the exit code is a multiple of 256 other than zero. -/
structure Shows
    (code : Int32)
    (status : UInt8) : Prop where
  value : status.toNat = (code.toInt % 256).toNat
  tells : (status = 0 ↔ code = 0) ↔ (code = 0 ∨ ¬ 256 ∣ code.toInt)

/-- What an exit code leaves to the parent is what remains of it modulo 256. -/
theorem shows_exitStatus (code : Int32) :
    Shows code (exitStatus code) := by
  refine ⟨toNat_exitStatus code, ?_⟩
  rw [exitStatus_eq_zero_iff]
  constructor
  · intro tells
    by_cases success : code = 0
    · exact Or.inl success
    · exact Or.inr fun divides => success (tells.mp divides)
  · rintro (success | fails)
    · simp [success]
    · constructor
      · exact fun divides => absurd divides fails
      · rintro rfl
        exact absurd (Int.dvd_zero 256) fails

/-- A command that follows a task to its end, whatever else happens to the files and whenever
the child acts, ends with the exit code of the child; and whoever follows a task that nothing
else disturbs does reach its end.  The exit status shows that exit code. -/
theorem exitStatus_of_followed
    (child : Child)
    (blank : child.lineEnd.all Text.isBlank = true) :
    (∀ (handler : Program.Handler State) (state : State) (polls : Nat)
        (invocation : Invocation),
      let outcome := ((run polls invocation).run.run handler state).1
      invocation.command.follows = true →
      (∀ exchange ∈ (run polls invocation).run.exchanges handler state,
        (Terms.reporting child).fair exchange.request exchange.answer) →
      ∀ code, outcome = .ok (some code) →
        code = child.exitCode ∧ Shows child.exitCode (statusOf outcome)) ∧
    (∀ (workspace : Workspace) (handle : Handle) (laid : Storage) (turns : List (List Deed))
        (settings : Settings) (polls : Nat),
      let outcome :=
        (Scene.run (handle.directory workspace) (follow workspace settings polls handle).run
          { storage := laid, turns, moods := [], attempts := [] }).1
      IsLaid (handle.directory workspace) laid →
      turns.flatten = child.deeds →
      Handle.overdue? settings.pollOptions ⟨0⟩ ⟨0⟩ = none →
      turns.length < polls →
      outcome = .ok (some child.exitCode) ∧ Shows child.exitCode (statusOf outcome)) := by
  constructor
  · intro handler state polls invocation outcome follows fair code ended
    have reports := (run_reports blank polls follows).of_exchanges handler state fair
    have same : code = child.exitCode := reports _ ended code rfl
    refine ⟨same, ?_⟩
    rw [ended, same]
    exact shows_exitStatus child.exitCode
  · intro workspace handle laid turns settings polls outcome isLaid schedule patient enough
    have finishes : child.Finishes (handle.directory workspace) laid
        { storage := laid, turns, moods := [], attempts := [] } :=
      ⟨⟨[], schedule, rfl⟩, rfl⟩
    have ended : outcome = .ok (some child.exitCode) :=
      Scene.run_follow blank patient isLaid finishes enough
    refine ⟨ended, ?_⟩
    rw [ended]
    exact shows_exitStatus child.exitCode

namespace FollowedSample

def workspace : Workspace :=
  ⟨Path.ofText "/w".toList⟩

def handle : Handle :=
  Handle.attach (TaskId.ofWord 1) false

/-- A child that logs one byte and ends with some exit code. -/
def child (code : Int32) : Child where
  chunks := [[0x61]]
  output := none
  exitCode := code
  lineEnd := "\r\n".toList

/-- A control directory in memory. -/
def laid : Storage :=
  .inMemory (Memory.new.ensureDirectory (handle.directory workspace))

/-- The child starts late, so that the task is polled several times. -/
def scene (code : Int32) : Scene where
  storage := laid
  turns := List.replicate 12 [] ++ [[.log [0x61]], [], [], [.result (child code).result]]
  moods := []
  attempts := []

def invocation : Invocation where
  workspace := workspace.root
  settings := Path.ofText "/durable.toml".toList
  level := none
  command := .wait handle.id

/-- What comes of waiting for the child. -/
def outcome (code : Int32) : Except TaskFault (Option Int32) :=
  (Scene.run (handle.directory workspace) (run 20 invocation).run (scene code)).1

/-- Whatever is read as a whole is the result. -/
def checks
    (child : Child)
    (exchange : Exchange) : Bool :=
  match exchange with
  | ⟨.file (.read _), .ok held⟩ => held = child.result
  | _ => true

/-- An exchange that passes the check is a fair one. -/
theorem fair_of_checks
    {child : Child}
    {exchange : Exchange}
    (checked : checks child exchange = true) :
    (Terms.reporting child).fair exchange.request exchange.answer := by
  rcases exchange with ⟨request, answer⟩
  cases request with
  | file call =>
      cases call with
      | read path =>
          intro directory held _ answered
          subst answered
          exact Or.inl (of_decide_eq_true checked)
      | _ => trivial
  | _ => trivial

/-- The files of the scene are those of a task that was just launched. -/
theorem isLaid : IsLaid (handle.directory workspace) laid := by
  refine ⟨by decide, by decide, ?_⟩
  intro name member
  simp only [Deed.fileNames, List.mem_cons, List.not_mem_nil, or_false] at member
  rcases member with rfl | rfl | rfl
  · rfl
  · rfl
  · rfl

end FollowedSample

open FollowedSample in
/-- A task that ends with minus three leaves the status 253 to the parent. -/
theorem exitStatus_of_followed_sample :
    outcome (-3) = .ok (some (-3)) ∧
      Shows (-3) (statusOf (outcome (-3))) ∧
      (Scene.run (handle.directory workspace)
          (follow workspace Settings.default 20 handle).run (scene (-3))).1 =
        .ok (some (-3)) := by
  obtain ⟨commands, follows⟩ := exitStatus_of_followed (child (-3)) (by decide)
  have ended : outcome (-3) = .ok (some (-3)) := by decide +kernel
  have checked : ((run 20 invocation).run.exchanges
      (Scene.handler (handle.directory workspace)) (scene (-3))).all
        (checks (child (-3))) = true := by decide +kernel
  have shown := commands (Scene.handler (handle.directory workspace)) (scene (-3)) 20
    invocation rfl
    (fun exchange member => fair_of_checks (List.all_eq_true.mp checked exchange member))
    (-3) ended
  exact ⟨ended, shown.2,
    (follows workspace handle laid (scene (-3)).turns Settings.default 20 isLaid (by decide)
      (by decide) (by decide)).1⟩

open FollowedSample in
/-- A failure is not always seen as one. -/
theorem not_exitStatus_tells :
    ¬ ∀ (code : Int32),
      outcome code = .ok (some code) →
      (statusOf (outcome code) = 0 ↔ code = 0) := by
  intro tells
  have ended : outcome 256 = .ok (some 256) := by decide +kernel
  have status : statusOf (outcome 256) = 0 := by
    rw [ended]
    rfl
  exact absurd ((tells 256 ended).mp status) (by decide)

end Application

end DetachedTasks
