import DetachedTasks.Proofs.StoragePrograms
import DetachedTasks.Proofs.TaskPlaces

/-!
# What an allocation has done

Of a program that is run among others one can keep a record: the numbers it drew, and its
calls with the files right before each of them.  Between two calls others may have done
anything.  From its record one can tell how an allocation went, whatever the others did.
-/

namespace DetachedTasks

open Sandbox (Storage)

/-! ## Records -/

/-- What is kept of a request: a drawn number, or a call and the files right before it. -/
inductive Fact where
  | drew (word : UInt32)
  | called (call : FileCall) (before : Storage)

/-- What is recorded of a request. -/
def Fact.record
    (storage : Storage) : (request : Request) → request.Answer → List Fact
  | .file call, _ => [.called call storage]
  | .freshWord, word => [.drew word]
  | _, _ => []

namespace Program

/-- Let a program do its next request. -/
def turn
    (outside : Outside)
    (storage : Storage) : Program α → Program α × Storage × List Fact
  | .done value => (.done value, storage, [])
  | .ask request resume =>
      let (answer, later) := storage.respond outside request
      (resume answer, later, Fact.record storage request answer)

/-- Whatever happens between its requests, a program ends with a record and a value as
wanted. -/
def Recounts
    (goal : List Fact → α → Prop) : Program α → List Fact → Prop
  | .done value, past => goal past value
  | .ask request resume, past =>
      ∀ outside storage,
        let answer := (Storage.respond outside request storage).1
        (resume answer).Recounts goal (past ++ Fact.record storage request answer)

namespace Recounts

variable {goal : List Fact → α → Prop} {past : List Fact}

/-- One request of a program, with whatever stands in the files by then. -/
theorem turn
    {program : Program α}
    (recounts : program.Recounts goal past)
    (outside : Outside)
    (storage : Storage) :
    (program.turn outside storage).1.Recounts goal
      (past ++ (program.turn outside storage).2.2) := by
  cases program with
  | done value =>
      rw [Program.turn, List.append_nil]
      exact recounts
  | ask request resume => exact recounts outside storage

/-- A call that may fail is recorded; what follows goes on with what it gave. -/
theorem call
    {goal : List Fact → Except TaskFault β → Prop}
    {request : FileCall}
    {answer : request.Answer → Except FileFault α}
    {next : α → TaskProgram β}
    (failed : ∀ storage : Storage, ∀ fault,
      answer (storage.answer request).1 = .error fault →
      goal (past ++ [.called request storage]) (.error (.files fault)))
    (goesOn : ∀ storage : Storage, ∀ value,
      answer (storage.answer request).1 = .ok value →
      (next value).run.Recounts goal (past ++ [.called request storage])) :
    (do
      let value ← TaskProgram.fileAnswer (answer (← TaskProgram.ask (.file request)))
      next value : TaskProgram β).run.Recounts goal past := by
  intro outside storage
  change (TaskProgram.fileAnswer (answer (storage.answer request).1) >>= next).run.Recounts goal
    (past ++ [.called request storage])
  cases outcome : answer (storage.answer request).1 with
  | error fault => exact failed storage fault outcome
  | ok value => exact goesOn storage value outcome

theorem draw
    {goal : List Fact → Except TaskFault β → Prop}
    {next : UInt32 → TaskProgram β}
    (goesOn : ∀ word, (next word).run.Recounts goal (past ++ [.drew word])) :
    (TaskProgram.ask .freshWord >>= next).run.Recounts goal past :=
  fun outside _ => goesOn (outside .freshWord)

theorem note
    {goal : List Fact → Except TaskFault β → Prop}
    {level : Level}
    {next : Unit → TaskProgram β}
    (goesOn : (next ()).run.Recounts goal past) :
    (TaskProgram.note level >>= next).run.Recounts goal past := by
  intro _ _
  change (next ()).run.Recounts goal (past ++ [])
  rw [List.append_nil]
  exact goesOn

end Recounts

end Program

/-! ## Allocations -/

/-- One bid of an allocation for a name: the number that it drew, and the files right before it asked
for the directory of this number. -/
structure Bid where
  word : UInt32
  before : Storage

namespace Bid

def path
    (workspace : Workspace)
    (bid : Bid) : Path :=
  workspace.controlDirectory (TaskId.ofWord bid.word)

def answer
    (workspace : Workspace)
    (bid : Bid) : Except FileFault Bool :=
  (bid.before.answer (.createDirectory (bid.path workspace))).1

def facts
    (workspace : Workspace)
    (bid : Bid) : List Fact :=
  [.drew bid.word, .called (.createDirectory (bid.path workspace)) bid.before]

end Bid

/-- How an allocation goes: what it has asked for, in this order, and how it ends. -/
inductive Workspace.Allocation
    (workspace : Workspace) : List Fact → Except TaskFault Text → Prop where
  /-- The directory of all tasks cannot be made. -/
  | unprepared {before : Storage} {fault : FileFault}
      (refused :
        (before.answer (.createDirectories workspace.tasksDirectory)).1 = .error fault) :
      Allocation workspace [.called (.createDirectories workspace.tasksDirectory) before]
        (.error (.files fault))
  /-- The first name that is not taken is claimed. -/
  | claimed {before : Storage} {taken : List Bid} {last : Bid}
      (few : taken.length < attempts)
      (allTaken : ∀ bid ∈ taken, bid.answer workspace = .ok false)
      (made : last.answer workspace = .ok true) :
      Allocation workspace
        (.called (.createDirectories workspace.tasksDirectory) before ::
          (taken ++ [last]).flatMap (Bid.facts workspace))
        (.ok (TaskId.ofWord last.word))
  /-- A directory can neither be made nor is its name taken. -/
  | failed {before : Storage} {taken : List Bid} {last : Bid} {fault : FileFault}
      (few : taken.length < attempts)
      (allTaken : ∀ bid ∈ taken, bid.answer workspace = .ok false)
      (refused : last.answer workspace = .error fault) :
      Allocation workspace
        (.called (.createDirectories workspace.tasksDirectory) before ::
          (taken ++ [last]).flatMap (Bid.facts workspace))
        (.error (.files fault))
  /-- All names are taken. -/
  | exhausted {before : Storage} {taken : List Bid}
      (all : taken.length = attempts)
      (allTaken : ∀ bid ∈ taken, bid.answer workspace = .ok false) :
      Allocation workspace
        (.called (.createDirectories workspace.tasksDirectory) before ::
          taken.flatMap (Bid.facts workspace))
        (.error (.noFreeName workspace.tasksDirectory))

section Allocations

variable {workspace : Workspace} {past : List Fact} {outcome : Except TaskFault Text}

theorem Workspace.claim_recounts
    {before : Storage}
    {count : Nat}
    {taken : List Bid}
    (tried : taken.length + count = attempts)
    (allTaken : ∀ bid ∈ taken, bid.answer workspace = .ok false) :
    (workspace.claim count).run.Recounts workspace.Allocation
      (.called (.createDirectories workspace.tasksDirectory) before ::
        taken.flatMap (Bid.facts workspace)) := by
  induction count generalizing taken with
  | zero => exact .exhausted tried allTaken
  | succ count inductionHypothesis =>
      have few : taken.length < attempts := by
        rw [← tried]
        exact Nat.lt_add_of_pos_right (Nat.succ_pos count)
      apply Program.Recounts.draw
      intro word
      have recorded : ∀ storage : Storage,
          (Fact.called (.createDirectories workspace.tasksDirectory) before ::
              taken.flatMap (Bid.facts workspace)) ++ [.drew word] ++
            [.called (.createDirectory (workspace.controlDirectory (TaskId.ofWord word)))
              storage] =
          .called (.createDirectories workspace.tasksDirectory) before ::
            (taken ++ [Bid.mk word storage]).flatMap (Bid.facts workspace) := by
        intro storage
        simp [Bid.facts, Bid.path]
      apply Program.Recounts.call
      · intro storage fault refused
        rw [recorded storage]
        exact .failed few allTaken refused
      · intro storage made answered
        rw [recorded storage]
        apply Program.Recounts.note
        cases made with
        | true => exact .claimed few allTaken answered
        | false =>
            apply inductionHypothesis
            · rw [List.length_append, ← tried]
              exact Nat.add_right_comm _ _ _
            · intro bid member
              rcases List.mem_append.mp member with earlier | new
              · exact allTaken bid earlier
              · rw [List.mem_singleton.mp new]
                exact answered

/-- Whatever others do in between, an allocation goes in one of these ways. -/
theorem Workspace.allocate_recounts (workspace : Workspace) :
    workspace.allocate.run.Recounts workspace.Allocation [] := by
  apply Program.Recounts.call
  · intro storage fault refused
    exact .unprepared refused
  · intro storage _ _
    exact claim_recounts (Nat.zero_add attempts) fun _ member => absurd member List.not_mem_nil

/-- All that is different later is that directories were made where nothing stood: on the way
to the directory of all tasks, and the one control directory whose id is the outcome. -/
def Workspace.AddsOnly
    (workspace : Workspace)
    (outcome : Except TaskFault Text)
    (before later : Storage) : Prop :=
  ∀ path, later.standing path = before.standing path ∨
    before.standing path = none ∧ later.standing path = some .directory ∧
      ((∃ above : Path, above.location <+: workspace.tasksDirectory.location ∧
          before.spot above = before.spot path) ∨
        ∃ id, outcome = .ok id ∧
          before.spot path = before.spot (workspace.controlDirectory id))

/-- The directory that was made, if a request has made one. -/
def Fact.claim? : Fact → Option Path
  | .called (.createDirectory path) before =>
      match (before.answer (.createDirectory path)).1 with
      | .ok true => some path
      | _ => none
  | _ => none

theorem Fact.claim?_eq_some
    {fact : Fact}
    {path : Path}
    (claims : fact.claim? = some path) :
    ∃ before, fact = .called (.createDirectory path) before ∧
      (before.answer (.createDirectory path)).1 = .ok true := by
  cases fact with
  | drew word => cases claims
  | called call before =>
      cases call with
      | createDirectory other =>
          simp only [claim?] at claims
          split at claims
          · cases claims
            exact ⟨before, rfl, ‹_›⟩
          · cases claims
      | _ => cases claims

theorem Fact.claim?_made
    {path : Path}
    {before : Storage}
    (made : (before.answer (.createDirectory path)).1 = .ok true) :
    (Fact.called (.createDirectory path) before).claim? = some path := by
  rw [claim?, made]

namespace Workspace.Allocation

/-- An allocation makes the directory of all tasks, and then asks for the directories of its
bids; the id of one that it makes is what it ends with. -/
theorem mem_called
    (allocation : workspace.Allocation past outcome)
    {call : FileCall}
    {before : Storage}
    (member : .called call before ∈ past) :
    call = .createDirectories workspace.tasksDirectory ∨
      ∃ bid : Bid, before = bid.before ∧
        call = .createDirectory (bid.path workspace) ∧
        (bid.answer workspace = .ok true →
          outcome = .ok (TaskId.ofWord bid.word)) := by
  have ofBids : ∀ {first : Storage} (bids : List Bid),
      (∀ bid ∈ bids, bid.answer workspace = .ok true →
        outcome = .ok (TaskId.ofWord bid.word)) →
      .called call before ∈
        Fact.called (.createDirectories workspace.tasksDirectory) first ::
          bids.flatMap (Bid.facts workspace) →
      call = .createDirectories workspace.tasksDirectory ∨
        ∃ bid : Bid, before = bid.before ∧
          call = .createDirectory (bid.path workspace) ∧
          (bid.answer workspace = .ok true →
            outcome = .ok (TaskId.ofWord bid.word)) := by
    intro first bids named isThere
    rcases List.mem_cons.mp isThere with isFirst | inBids
    · injection isFirst with same
      exact Or.inl same
    · obtain ⟨bid, isBid, isFact⟩ := List.mem_flatMap.mp inBids
      simp only [Bid.facts, List.mem_cons, List.not_mem_nil, or_false, reduceCtorEq,
        false_or, Fact.called.injEq] at isFact
      exact Or.inr ⟨bid, isFact.2, isFact.1, named bid isBid⟩
  have untilLast : ∀ {taken : List Bid} {last : Bid},
      (∀ bid ∈ taken, bid.answer workspace = .ok false) →
      (last.answer workspace = .ok true → outcome = .ok (TaskId.ofWord last.word)) →
      ∀ bid ∈ taken ++ [last], bid.answer workspace = .ok true →
        outcome = .ok (TaskId.ofWord bid.word) := by
    intro taken last allTaken named bid isThere madeHere
    rcases List.mem_append.mp isThere with isTaken | isLast
    · rw [allTaken bid isTaken] at madeHere
      cases madeHere
    · rw [List.mem_singleton.mp isLast] at madeHere ⊢
      exact named madeHere
  cases allocation with
  | unprepared refused =>
      exact ofBids [] (fun _ impossible => absurd impossible List.not_mem_nil) member
  | claimed few allTaken made => exact ofBids _ (untilLast allTaken fun _ => rfl) member
  | failed few allTaken refused =>
      apply ofBids _ (untilLast allTaken _) member
      intro made
      rw [refused] at made
      cases made
  | exhausted all allTaken =>
      apply ofBids _ _ member
      intro bid isTaken made
      rw [allTaken bid isTaken] at made
      cases made

theorem addsOnly
    (allocation : workspace.Allocation past outcome)
    {call : FileCall}
    {before : Storage}
    (member : .called call before ∈ past) :
    workspace.AddsOnly outcome before (before.answer call).2 := by
  intro path
  rcases allocation.mem_called member with rfl | ⟨bid, rfl, rfl, named⟩
  · have grown := Storage.grows_createDirectories before workspace.tasksDirectory
    rcases grown.standing path with same | ⟨vacant, stands, onTheWay⟩
    · exact Or.inl same
    · exact Or.inr ⟨vacant, stands, Or.inl onTheWay⟩
  · by_cases made : bid.answer workspace = .ok true
    · have gained := Storage.gains_of_made made
      by_cases here : bid.before.spot path = bid.before.spot (bid.path workspace)
      · refine Or.inr ⟨?_, ?_, Or.inr ⟨_, named made, here⟩⟩
        · exact (Storage.standing_congr here).trans gained.vacant
        · have hereLater :
              (bid.before.answer (.createDirectory (bid.path workspace))).2.spot path =
                (bid.before.answer (.createDirectory (bid.path workspace))).2.spot
                  (bid.path workspace) := by
            rw [gained.spot, gained.spot, here]
          exact (Storage.standing_congr hereLater).trans gained.stands
      · exact Or.inl (gained.elsewhere path here)
    · rw [Storage.answer_of_not_made made]
      exact Or.inl rfl

/-- The id that an allocation ends with is that of a directory that it made itself. -/
theorem made
    {id : Text}
    (allocation : workspace.Allocation past (.ok id)) :
    ∃ before : Storage, .called (.createDirectory (workspace.controlDirectory id)) before ∈ past ∧
      (before.answer (.createDirectory (workspace.controlDirectory id))).1 = .ok true := by
  cases allocation with
  | @claimed _ taken last few allTaken made =>
      refine ⟨last.before, ?_, made⟩
      simp [Bid.facts, Bid.path]

end Workspace.Allocation

end Allocations

end DetachedTasks
