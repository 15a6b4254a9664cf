import DetachedTasks.Text.Basic

/-!
# Lengths of time

A length of time is a whole number of nanoseconds.
-/

namespace DetachedTasks

/-- A length of time. -/
structure Duration where
  nanoseconds : Nat
  deriving Repr, DecidableEq

namespace Duration

/-- A number of milliseconds. -/
def ofMilliseconds (count : Nat) : Duration :=
  ⟨count * 1000000⟩

/-- A number of seconds. -/
def ofSeconds (count : Nat) : Duration :=
  ⟨count * 1000000000⟩

/-- The whole milliseconds in a length of time. -/
def milliseconds (duration : Duration) : Nat :=
  duration.nanoseconds / 1000000

/-- The whole seconds in a length of time. -/
def seconds (duration : Duration) : Nat :=
  duration.nanoseconds / 1000000000

/-- The time that has gone by since an earlier instant; none if that one is not earlier. -/
def since (now earlier : Duration) : Duration :=
  ⟨now.nanoseconds - earlier.nanoseconds⟩

/-- A length of time as a decimal number of a unit of so many nanoseconds, a power of ten.  The
zeros behind the last other digit are left out. -/
def shownIn
    (digits : Nat)
    (unit : Text)
    (duration : Duration) : Text :=
  let size := Nat.pow 10 digits
  let whole := Text.natural (duration.nanoseconds / size)
  let rest := Text.natural (duration.nanoseconds % size)
  let padded := List.replicate (digits - rest.length) '0' ++ rest
  match (padded.reverse.dropWhile (· = '0')).reverse with
  | [] => whole ++ unit
  | fraction => whole ++ '.' :: fraction ++ unit

/-- A length of time as messages show it, in the largest unit that is not longer. -/
def shown (duration : Duration) : Text :=
  if 1000000000 ≤ duration.nanoseconds then duration.shownIn 9 "s".toList
  else if 1000000 ≤ duration.nanoseconds then duration.shownIn 6 "ms".toList
  else if 1000 ≤ duration.nanoseconds then duration.shownIn 3 "µs".toList
  else duration.shownIn 0 "ns".toList

example : (ofMilliseconds 90050).shown = "90.05s".toList := by decide +kernel

@[simp]
theorem milliseconds_ofMilliseconds (count : Nat) :
    (ofMilliseconds count).milliseconds = count := by
  simp [ofMilliseconds, milliseconds]

@[simp]
theorem seconds_ofSeconds (count : Nat) :
    (ofSeconds count).seconds = count := by
  simp [ofSeconds, seconds]

end Duration

end DetachedTasks
