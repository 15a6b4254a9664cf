import DetachedTasks.Text.Basic

/-!
# Watching a control directory

A watcher runs beside the loop that polls a task.  It puts a signal into a queue for every
event that it is told of; an error is passed over.  Whoever waits for a change takes the
oldest signal out of the queue, or waits until there is one.  Then it swallows the signals
that have piled up behind it one by one, so that several events in a row are one change.

The watcher lives as long as the loop, so the queue is never closed.
-/

namespace DetachedTasks

/-- The signals of a watcher that nobody has taken yet, oldest first. -/
structure Mailbox (Signal : Type) where
  signals : List Signal
  deriving Repr, DecidableEq

namespace Mailbox

/-- No signal is there. -/
def empty : Mailbox Signal :=
  ⟨[]⟩

/-- What the watcher does when it is told of an event, or of an error. -/
def tell
    (mailbox : Mailbox Signal) : Except Text Signal → Mailbox Signal
  | .ok signal => ⟨mailbox.signals ++ [signal]⟩
  | .error _ => mailbox

end Mailbox

/-- How far the wait for a change has come. -/
inductive Attention where
  /-- There was no signal yet. -/
  | receiving
  /-- There was a signal, and more of them may be there. -/
  | swallowing
  /-- The queue was found empty behind a signal: this was a change. -/
  | roused
  deriving Repr, DecidableEq

/-- One step of waiting for a change: take the oldest signal, if there is one. -/
def Attention.step
    (attention : Attention)
    (mailbox : Mailbox Signal) : Attention × Mailbox Signal :=
  match attention, mailbox.signals with
  | .receiving, [] => (.receiving, mailbox)
  | .receiving, _ :: later => (.swallowing, ⟨later⟩)
  | .swallowing, _ :: later => (.swallowing, ⟨later⟩)
  | .swallowing, [] => (.roused, mailbox)
  | .roused, _ => (.roused, mailbox)

end DetachedTasks
