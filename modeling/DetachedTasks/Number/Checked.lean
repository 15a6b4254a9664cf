import DetachedTasks.Text.Basic

/-!
# Checked steps

Some steps on lengths and places have no outcome for every number: a slice must not begin past
the end, and a difference of words must not lie below zero.  A checked computation names the
step that stops it.  Whoever goes on with its value shows first that no step does.
-/

namespace DetachedTasks

/-- The step that stops a computation. -/
inductive Trap where
  /-- A slice that begins past the end. -/
  | sliceOutOfRange
  /-- A difference of words below zero. -/
  | differenceBelowZero
  deriving Repr, DecidableEq

/-- A computation that some of its steps may stop. -/
abbrev Checked := Except Trap

namespace Checked

/-- The greatest index that a word can hold. -/
def greatestIndex : Nat := UInt64.size - 1

/-- An offset as an index; one that no index can hold becomes the greatest one. -/
def index (offset : UInt64) : Nat :=
  min offset.toNat greatestIndex

/-- The items from an index on. -/
def slice
    (items : List α)
    (start : Nat) : Checked (List α) :=
  if start ≤ items.length then .ok (items.drop start) else .error .sliceOutOfRange

/-- What is left of a length behind a part of it. -/
def difference (whole part : Nat) : Checked Nat :=
  if part ≤ whole then .ok (whole - part) else .error .differenceBelowZero

/-- The value of a computation that nothing stops, whatever might have stopped it. -/
def value : (computation : Except ε α) → computation.isOk = true → α
  | .ok value, _ => value

/-- Every offset is an index of its own, as both are words. -/
@[simp]
theorem index_eq (offset : UInt64) :
    index offset = offset.toNat :=
  Nat.min_eq_left (Nat.le_pred_of_lt offset.toNat_lt_size)

theorem slice_of_le
    {items : List α}
    {start : Nat}
    (inside : start ≤ items.length) :
    slice items start = .ok (items.drop start) :=
  if_pos inside

theorem difference_of_le
    {whole part : Nat}
    (isPart : part ≤ whole) :
    difference whole part = .ok (whole - part) :=
  if_pos isPart

theorem value_of_eq
    {computation : Except ε α}
    {result : α}
    (same : computation = .ok result)
    (runs : computation.isOk = true) :
    value computation runs = result := by
  subst same
  rfl

end Checked

end DetachedTasks
