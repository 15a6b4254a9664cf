import DetachedTasks.Application
import DetachedTasks.Proofs.Footprints
import DetachedTasks.Proofs.TextOrder
import Mathlib.Data.List.Induction
import Mathlib.Data.List.Nodup

/-!
# The variables of a launched process

A list of assignments may name a variable several times.  The variables that are made from it
have each name once, with the last value that the list has for it, and no other names.  These
are the variables that a process is started with, whatever happens before its start.
-/

namespace DetachedTasks

/-! ## Assignments in order -/

/-- Each variable of some assignments once, with its last value, and no other variable. -/
structure Environment.HoldsLast
    (environment : Environment)
    (assignments : List (Text × Text)) : Prop where
  once : (environment.assignments.map Prod.fst).Nodup
  last : ∀ name value, (name, value) ∈ environment.assignments ↔
    ∃ before behind, assignments = before ++ (name, value) :: behind ∧
      name ∉ behind.map Prod.fst

namespace Environment

/-- Setting a variable puts its name in order. -/
theorem names_setIn
    (name value : Text)
    (assignments : List (Text × Text)) :
    (setIn name value assignments).map Prod.fst =
      Text.insertSorted name (assignments.map Prod.fst) := by
  induction assignments with
  | nil => rfl
  | cons pair rest inductionHypothesis =>
      rw [setIn, List.map_cons, Text.insertSorted]
      by_cases same : name = pair.1
      · rw [if_pos same, if_pos same, List.map_cons, same]
      · rw [if_neg same, if_neg same]
        by_cases before : Text.precedes name pair.1 = true
        · rw [if_pos before, if_pos before, List.map_cons, List.map_cons]
        · rw [if_neg before, if_neg before, List.map_cons, inductionHypothesis]

/-- An assignment at the end is made last. -/
theorem ofList_concat
    (front : List (Text × Text))
    (pair : Text × Text) :
    ofList (front ++ [pair]) = (ofList front).set pair.1 pair.2 :=
  List.foldl_concat _ _ _ _

/-- The names of an environment stand in increasing order. -/
theorem names_ofList_increasing (assignments : List (Text × Text)) :
    ((ofList assignments).assignments.map Prod.fst).Pairwise (· < ·) := by
  induction assignments using List.reverseRecOn with
  | nil => exact .nil
  | append_singleton front pair inductionHypothesis =>
      rw [ofList_concat, set, names_setIn]
      exact Text.pairwise_insertSorted inductionHypothesis pair.1

/-- An environment has each name once. -/
theorem names_ofList_nodup (assignments : List (Text × Text)) :
    ((ofList assignments).assignments.map Prod.fst).Nodup :=
  (names_ofList_increasing assignments).imp fun less => ne_of_lt less

/-- The first value for a name, read from behind. -/
theorem get?_ofList
    (assignments : List (Text × Text))
    (name : Text) :
    (ofList assignments).get? name = (assignments.reverse.find? (·.1 = name)).map (·.2) := by
  induction assignments using List.reverseRecOn with
  | nil => rfl
  | append_singleton front pair inductionHypothesis =>
      rw [ofList_concat, get?_set, inductionHypothesis, List.reverse_append,
        List.reverse_singleton, List.singleton_append, List.find?_cons]
      by_cases same : pair.1 = name <;> simp [same]

/-- With each name once, the assignments tell the same as the values. -/
theorem mem_iff_get?
    {environment : Environment}
    (once : (environment.assignments.map Prod.fst).Nodup)
    (name value : Text) :
    (name, value) ∈ environment.assignments ↔ environment.get? name = some value := by
  rw [get?, Option.map_eq_some_iff]
  constructor
  · intro member
    have isThere : (environment.assignments.find? (·.1 = name)).isSome :=
      List.find?_isSome.mpr ⟨_, member, decide_eq_true rfl⟩
    obtain ⟨found, isFound⟩ := Option.isSome_iff_exists.mp isThere
    have sameName : found.1 = name := of_decide_eq_true (List.find?_some isFound :)
    have same := List.inj_on_of_nodup_map once (List.mem_of_find?_eq_some isFound) member sameName
    exact ⟨found, isFound, congrArg Prod.snd same⟩
  · rintro ⟨found, isFound, rfl⟩
    have sameName : found.1 = name := of_decide_eq_true (List.find?_some isFound :)
    rw [← sameName]
    exact List.mem_of_find?_eq_some isFound

/-- Of several assignments to a variable, the last one counts. -/
theorem ofList_holdsLast (assignments : List (Text × Text)) :
    (ofList assignments).HoldsLast assignments := by
  refine ⟨names_ofList_nodup assignments, ?_⟩
  intro name value
  rw [mem_iff_get? (names_ofList_nodup assignments), get?_ofList, Option.map_eq_some_iff]
  constructor
  · rintro ⟨⟨other, _⟩, found, rfl⟩
    obtain ⟨isName, behind, before, shape, notBehind⟩ := List.find?_eq_some_iff_append.mp found
    obtain rfl : other = name := of_decide_eq_true isName
    refine ⟨before.reverse, behind.reverse, ?_, ?_⟩
    · rw [← List.reverse_reverse assignments, shape]
      simp
    · intro member
      obtain ⟨pair, member, same⟩ := List.mem_map.mp member
      simpa [same] using notBehind pair (List.mem_reverse.mp member)
  · rintro ⟨before, behind, rfl, notBehind⟩
    refine ⟨(name, value), List.find?_eq_some_iff_append.mpr ⟨decide_eq_true rfl, ?_⟩, rfl⟩
    refine ⟨behind.reverse, before.reverse, by simp, ?_⟩
    intro pair member
    have different : pair.1 ≠ name := by
      rintro rfl
      exact notBehind (List.mem_map_of_mem (List.mem_reverse.mp member))
    simp [different]

end Environment

/-! ## Starts -/

/-- To start processes only with some variables. -/
def Terms.starting (wanted : Environment → Prop) : Terms where
  allowed := fun
    | .start order => wanted order.environment
    | _ => True
  fair := fun _ _ => True

section Starts

open TaskProgram

variable {wanted : Environment → Prop}

theorem Workspace.claim_starts
    (workspace : Workspace)
    (count : Nat) :
    (workspace.claim count).Keeps (Terms.starting wanted) := by
  induction count with
  | zero => exact Meets.throw _
  | succ count inductionHypothesis =>
      refine Meets.ask trivial fun word _ => ?_
      refine Meets.bind (Meets.call trivial) fun made _ => ?_
      refine Meets.ask trivial fun _ _ => ?_
      cases made with
      | true => exact Meets.pure trivial
      | false => exact inductionHypothesis

theorem TaskScript.writeFiles_starts
    (script : TaskScript)
    (workspace : Workspace)
    (handle : Handle)
    (interpreter : Interpreter) :
    (script.writeFiles workspace handle interpreter).Keeps (Terms.starting wanted) := by
  refine Meets.bind (Meets.call trivial) fun _ _ => ?_
  refine Meets.bind (Meets.call trivial) fun _ _ => ?_
  refine Meets.bind (Meets.call trivial) fun _ _ => ?_
  exact Meets.ask trivial fun _ _ => Meets.pure trivial

theorem Application.announce_starts
    (followed : Bool)
    (line : Text) :
    (announce followed line).Keeps (Terms.starting wanted) := by
  rw [announce]
  split
  · exact Meets.ask trivial fun _ _ => Meets.pure trivial
  · exact Meets.ask_last trivial

theorem Launcher.onThisMachine_starts
    {announce : Text → TaskProgram Unit}
    (announces : ∀ line, (announce line).Keeps (Terms.starting wanted))
    {order : LaunchOrder}
    (isWanted : wanted order.environment) :
    (onThisMachine announce order).Keeps (Terms.starting wanted) := by
  refine Meets.bind (announces order.banner) fun _ _ => ?_
  have handsOver : (handOver order).Keeps (Terms.starting wanted) := by
    refine Meets.ask isWanted fun answer _ => ?_
    cases answer with
    | error cause => exact Meets.throw _
    | ok done => exact Meets.pure trivial
  exact Meets.bind handsOver fun _ _ => Meets.ask_last trivial

/-- A launch starts processes in the environment of its options only. -/
theorem TaskScript.launch_starts
    (script : TaskScript)
    (workspace : Workspace)
    {launcher : Launcher}
    {options : LaunchOptions}
    (launches : ∀ order, order.environment = options.environment →
      (launcher order).Keeps (Terms.starting wanted)) :
    (script.launch workspace launcher options).Keeps (Terms.starting wanted) := by
  have allocates : workspace.allocate.Keeps (Terms.starting wanted) :=
    Meets.bind (Meets.call trivial) fun _ _ => workspace.claim_starts _
  refine Meets.bind allocates fun id _ => ?_
  refine Meets.bind (script.writeFiles_starts workspace _ _) fun _ _ => ?_
  refine Meets.bind (Meets.tryCatch (launches _ rfl) fun fault => ?_) fun _ _ => ?_
  · exact Meets.ask trivial fun _ _ => Meets.throw _
  · exact Meets.ask trivial fun _ _ => Meets.pure trivial

theorem Application.scriptBody_starts (arguments : LaunchArguments) :
    (scriptBody arguments).Keeps (Terms.starting wanted) := by
  rw [scriptBody]
  split
  · refine Meets.ask trivial fun answer _ => ?_
    split
    · exact Meets.pure trivial
    · exact Meets.throw _
    · exact Meets.throw _
  · exact Meets.pure trivial
  · exact Meets.throw _

/-- A process is started with the variables that the command line sets, each with the last
value that it is given. -/
theorem Application.launchTask_starts
    (workspace : Workspace)
    (settings : Settings)
    (arguments : LaunchArguments)
    (followed : Bool) :
    (launchTask workspace settings arguments followed).Keeps
      (Terms.starting fun environment => environment.HoldsLast arguments.environment) := by
  refine Meets.bind (scriptBody_starts arguments) fun body _ => ?_
  refine TaskScript.launch_starts _ workspace fun order same => ?_
  refine Launcher.onThisMachine_starts (announce_starts followed) ?_
  rw [same]
  exact Environment.ofList_holdsLast arguments.environment

end Starts

end DetachedTasks
