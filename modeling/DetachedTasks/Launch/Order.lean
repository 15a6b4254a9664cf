import DetachedTasks.Path
import DetachedTasks.Text.Order

/-!
# Launch orders

An order says all that is needed to start an interpreter.  Whoever takes the order starts
the process and does not wait for its end.
-/

namespace DetachedTasks

/-- Variables for a process, sorted by name, each name once. -/
structure Environment where
  assignments : List (Text × Text)
  deriving Repr, DecidableEq

namespace Environment

/-- No variables. -/
def empty : Environment :=
  ⟨[]⟩

/-- Set a variable in a sorted list. -/
def setIn
    (name value : Text) : List (Text × Text) → List (Text × Text)
  | [] => [(name, value)]
  | pair :: rest =>
      if name = pair.1 then (name, value) :: rest
      else if Text.precedes name pair.1 then (name, value) :: pair :: rest
      else pair :: setIn name value rest

/-- Set a variable; an earlier value is forgotten. -/
def set
    (environment : Environment)
    (name value : Text) : Environment :=
  ⟨setIn name value environment.assignments⟩

/-- The variables of a list of assignments; the last one for a name counts. -/
def ofList (assignments : List (Text × Text)) : Environment :=
  assignments.foldl (fun environment pair => environment.set pair.1 pair.2) empty

/-- The value of a variable. -/
def get?
    (environment : Environment)
    (name : Text) : Option Text :=
  (environment.assignments.find? (·.1 = name)).map (·.2)

/-- What is found by name after a variable was set. -/
theorem find?_setIn
    (name value wanted : Text)
    (assignments : List (Text × Text)) :
    (setIn name value assignments).find? (·.1 = wanted) =
      if name = wanted then some (name, value)
      else assignments.find? (·.1 = wanted) := by
  induction assignments with
  | nil => by_cases same : name = wanted <;> simp [setIn, same]
  | cons pair rest inductionHypothesis =>
      rw [setIn]
      split
      · next replaced =>
          by_cases same : name = wanted
          · simp [same]
          · simp [same, ← replaced]
      · next different =>
          split
          · by_cases same : name = wanted <;> simp [same]
          · rw [List.find?_cons, inductionHypothesis]
            by_cases same : name = wanted
            · subst same
              simp [Ne.symm different]
            · simp only [same, if_false, List.find?_cons]

/-- A variable has the value it was set to, and all others keep theirs. -/
theorem get?_set
    (environment : Environment)
    (name value wanted : Text) :
    (environment.set name value).get? wanted =
      if name = wanted then some value else environment.get? wanted := by
  simp only [set, get?, find?_setIn]
  by_cases same : name = wanted <;> simp [same]

end Environment

/-- All that is needed to start an interpreter. -/
structure LaunchOrder where
  /-- The id of the task, for messages. -/
  task : Text
  /-- The program, looked up in the usual way. -/
  program : Text
  arguments : List Text
  /-- The directory that the process starts in. -/
  directory : Path
  /-- Variables on top of those that the process inherits. -/
  environment : Environment
  /-- What the process prints is relayed to the live log. -/
  relayOutput : Bool
  /-- The line that the live log shows right before the start. -/
  banner : Text
  deriving Repr, DecidableEq

end DetachedTasks
