/-!
# Exit signals

When a script has ended, three signals tell how: the exit code of the last program it ran,
whether the last command succeeded, and whether an error was caught.  They are resolved into
one exit code.
-/

namespace DetachedTasks

/-- What is known when a script has ended. -/
structure ExitSignals where
  /-- The exit code of the last program, if the script ran one. -/
  lastExitCode : Option Int32
  /-- The last command reported success. -/
  succeeded : Bool
  /-- An error left the script and was caught. -/
  errorCaught : Bool
  deriving Repr, DecidableEq

/-- The exit code of the task.  The code of the last program counts; only a code of zero is
replaced by one if the last command failed.  Without a program, a failure or a caught error
counts as one. -/
def ExitSignals.resolve (signals : ExitSignals) : Int32 :=
  match signals.lastExitCode with
  | some code => if code = 0 && !signals.succeeded then 1 else code
  | none => if signals.errorCaught || !signals.succeeded then 1 else 0

end DetachedTasks
