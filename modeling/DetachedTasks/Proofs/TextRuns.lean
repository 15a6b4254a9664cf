import DetachedTasks.Text.Basic
import Mathlib.Data.List.TakeWhile

/-!
# Runs at the ends of a list

A run of matching elements stops where the first other element stands.  So a list that is put
together from a run and a rest that does not go on with it is taken apart into the same two
parts again.
-/

namespace DetachedTasks.Text

variable {test : α → Bool} {items run rest behind : List α} {item : α}

/-- The first element behind a dropped run does not match. -/
theorem head?_dropWhile_eq_false
    (first : (items.dropWhile test).head? = some item) :
    test item = false := by
  have stopped := List.head?_dropWhile_not test items
  rwa [first] at stopped

/-- Nothing is dropped if the first element does not match. -/
theorem dropWhile_eq_self
    (stops : ∀ item, rest.head? = some item → test item = false) :
    rest.dropWhile test = rest := by
  cases rest with
  | nil => rfl
  | cons item rest =>
      rw [List.dropWhile_cons_of_neg]
      simp [stops item rfl]

/-- Exactly the run is dropped. -/
theorem dropWhile_run
    (matching : ∀ item ∈ run, test item = true)
    (stops : ∀ item, rest.head? = some item → test item = false) :
    (run ++ rest).dropWhile test = rest := by
  rw [List.dropWhile_append_of_pos matching, dropWhile_eq_self stops]

/-- Exactly the run is taken. -/
theorem takeWhile_run
    (matching : ∀ item ∈ run, test item = true)
    (stops : ∀ item, rest.head? = some item → test item = false) :
    (run ++ rest).takeWhile test = run := by
  have parts := List.takeWhile_append_dropWhile (p := test) (l := run ++ rest)
  rw [dropWhile_run matching stops] at parts
  exact List.append_cancel_right parts

/-- The last element before a run that was dropped at the end does not match. -/
theorem getLast?_dropEndWhile_eq_false
    (last : (dropEndWhile test items).getLast? = some item) :
    test item = false := by
  rw [dropEndWhile, List.getLast?_reverse] at last
  exact head?_dropWhile_eq_false last

/-- Exactly the run is dropped at the end. -/
theorem dropEndWhile_run
    (stops : ∀ item, rest.getLast? = some item → test item = false)
    (matching : ∀ item ∈ behind, test item = true) :
    dropEndWhile test (rest ++ behind) = rest := by
  have reversed : ∀ item ∈ behind.reverse, test item = true := fun item member =>
    matching item (List.mem_reverse.mp member)
  have stopsReversed : ∀ item, rest.reverse.head? = some item → test item = false := by
    intro item last
    rw [List.head?_reverse] at last
    exact stops item last
  rw [dropEndWhile, List.reverse_append, dropWhile_run reversed stopsReversed,
    List.reverse_reverse]

end DetachedTasks.Text
