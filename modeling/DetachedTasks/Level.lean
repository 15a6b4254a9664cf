import DetachedTasks.Text.LowerCase

/-!
# Levels of log events

An event is shown if its level is at least as severe as the chosen one.
-/

namespace DetachedTasks

/-- The level of a log event, most severe first. -/
inductive Level where
  | error
  | warn
  | info
  | debug
  | trace
  deriving Repr, DecidableEq

namespace Level

/-- All levels, most severe first. -/
def all : List Level :=
  [.error, .warn, .info, .debug, .trace]

/-- The name of a level in lower case. -/
def name : Level → Text
  | .error => "error".toList
  | .warn => "warn".toList
  | .info => "info".toList
  | .debug => "debug".toList
  | .trace => "trace".toList

/-- The name of a level in capitals. -/
def label : Level → Text
  | .error => "ERROR".toList
  | .warn => "WARN".toList
  | .info => "INFO".toList
  | .debug => "DEBUG".toList
  | .trace => "TRACE".toList

/-- The level with exactly this name. -/
def ofName? (text : Text) : Option Level :=
  all.find? (·.name = text)

/-- A level from its name in any case with blanks around it; `warning` is understood too. -/
def parse? (text : Text) : Option Level :=
  let spelling := Text.lowercase (Text.trim text)
  if spelling = "warning".toList then some .warn else ofName? spelling

/-- How many levels are more severe. -/
def rank : Level → Nat
  | .error => 0
  | .warn => 1
  | .info => 2
  | .debug => 3
  | .trace => 4

/-- Whether an event is shown when a level was chosen. -/
def shownAt (event chosen : Level) : Bool :=
  event.rank ≤ chosen.rank

/-- The variable that chooses the level when the command line does not. -/
def variableName : Text := "DURABLETASK_LOG".toList

/-- The level in force: the command line comes first, then the variable if it is understood,
and then `info`. -/
def chosen
    (argument : Option Level)
    (environment : Option Text) : Level :=
  argument.getD ((environment.bind parse?).getD .info)

/-- The name of a level is understood as that level. -/
theorem parse?_name (level : Level) :
    parse? level.name = some level := by
  cases level <;> decide +kernel

end Level

end DetachedTasks
