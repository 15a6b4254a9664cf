import DetachedTasks.Proofs.TextOrder
import DetachedTasks.Toml.Value

/-!
# Tables in the order of their keys

A table is read with its keys in order.  Where a pair comes to stand among the others is
decided by its key alone: the pairs of a table with one pair more are the same pairs in the
same order, with this one between them, whatever its value is.
-/

namespace DetachedTasks.Toml

/-- Pairs whose keys do not decrease. -/
def IsSorted (pairs : List (Text × α)) : Prop :=
  pairs.Pairwise fun first second => first.1 ≤ second.1

/-- An insertion brings in one pair and takes none away. -/
theorem mem_insertPair
    {pair other : Text × α}
    {pairs : List (Text × α)} :
    other ∈ insertPair pair pairs ↔ other = pair ∨ other ∈ pairs := by
  induction pairs with
  | nil => simp [insertPair]
  | cons head rest inductionHypothesis =>
      rw [insertPair]
      split
      · simp
      · simp [inductionHypothesis, or_left_comm]

theorem mem_foldl_insertPair
    {other : Text × α}
    {pairs sorted : List (Text × α)} :
    other ∈ pairs.foldl (fun sorted pair => insertPair pair sorted) sorted ↔
      other ∈ pairs ∨ other ∈ sorted := by
  induction pairs generalizing sorted with
  | nil => simp
  | cons head rest inductionHypothesis =>
      simp [inductionHypothesis, mem_insertPair, or_assoc, or_left_comm]

/-- Sorting keeps the pairs. -/
theorem mem_sortPairs
    {other : Text × α}
    {pairs : List (Text × α)} :
    other ∈ sortPairs pairs ↔ other ∈ pairs := by
  rw [sortPairs, mem_foldl_insertPair]
  simp

/-- A pair is inserted where it belongs. -/
theorem IsSorted.insertPair
    {pairs : List (Text × α)}
    (sorted : IsSorted pairs)
    (pair : Text × α) :
    IsSorted (insertPair pair pairs) := by
  induction pairs with
  | nil => exact List.pairwise_singleton _ _
  | cons head rest inductionHypothesis =>
      obtain ⟨above, restSorted⟩ := List.pairwise_cons.mp sorted
      rw [Toml.insertPair]
      by_cases before : Text.precedes pair.1 head.1 = true
      · rw [if_pos before]
        have less := le_of_lt (Text.precedes_iff_lt.mp before)
        refine List.pairwise_cons.mpr ⟨?_, sorted⟩
        intro other member
        rcases List.mem_cons.mp member with isHead | isLater
        · exact isHead ▸ less
        · exact le_trans less (above other isLater)
      · rw [if_neg before]
        have notLess := not_lt.mp (mt Text.precedes_iff_lt.mpr before)
        refine List.pairwise_cons.mpr ⟨?_, inductionHypothesis restSorted⟩
        intro other member
        rcases mem_insertPair.mp member with isPair | isLater
        · exact isPair ▸ notLess
        · exact above other isLater

/-- Of two lists of pairs the second one has one pair more, at a place that does not depend on
its value. -/
def IsBetween
    (key : Text)
    (pairs : List (Text × α))
    (more : α → List (Text × α)) : Prop :=
  ∃ before after, pairs = before ++ after ∧
    ∀ value, more value = before ++ (key, value) :: after

/-- A pair that is put into a list stands between the pairs that were there. -/
theorem isBetween_insertPair
    (key : Text)
    (pairs : List (Text × α)) :
    IsBetween key pairs fun value => insertPair (key, value) pairs := by
  induction pairs with
  | nil => exact ⟨[], [], rfl, fun _ => rfl⟩
  | cons head rest inductionHypothesis =>
      by_cases before : Text.precedes key head.1 = true
      · exact ⟨[], head :: rest, rfl, fun value => if_pos before⟩
      · obtain ⟨front, back, whole, placed⟩ := inductionHypothesis
        refine ⟨head :: front, back, by rw [whole]; rfl, fun value => ?_⟩
        exact (if_neg before).trans (congrArg (head :: ·) (placed value))

/-- It stays between them when another pair is put in. -/
theorem isBetween_insertPair_append
    {key : Text}
    {before after : List (Text × α)}
    (sorted : ∀ value, IsSorted (before ++ (key, value) :: after))
    (pair : Text × α) :
    IsBetween key (insertPair pair (before ++ after))
      fun value => insertPair pair (before ++ (key, value) :: after) := by
  induction before with
  | nil =>
      by_cases first : Text.precedes pair.1 key = true
      · -- Sorted as they are, the pairs behind do not come before the key either.
        refine ⟨[pair], after, ?_, fun value => if_pos first⟩
        cases after with
        | nil => rfl
        | cons head rest =>
            have above : key ≤ head.1 :=
              (List.pairwise_cons.mp (sorted pair.2)).1 head List.mem_cons_self
            have less := lt_of_lt_of_le (Text.precedes_iff_lt.mp first) above
            exact if_pos (Text.precedes_iff_lt.mpr less)
      · exact ⟨[], insertPair pair after, rfl, fun value => if_neg first⟩
  | cons head rest inductionHypothesis =>
      by_cases first : Text.precedes pair.1 head.1 = true
      · exact ⟨pair :: head :: rest, after, if_pos first, fun value => if_pos first⟩
      · obtain ⟨front, back, whole, placed⟩ :=
          inductionHypothesis fun value => (List.pairwise_cons.mp (sorted value)).2
        refine ⟨head :: front, back, ?_, fun value => ?_⟩
        · exact (if_neg first).trans (congrArg (head :: ·) whole)
        · exact (if_neg first).trans (congrArg (head :: ·) (placed value))

/-- It stays between them when any number of pairs are put in. -/
theorem IsBetween.foldl_insertPair
    {key : Text}
    {pairs : List (Text × α)}
    {more : α → List (Text × α)}
    (between : IsBetween key pairs more)
    (sorted : ∀ value, IsSorted (more value))
    (others : List (Text × α)) :
    IsBetween key (others.foldl (fun sorted pair => insertPair pair sorted) pairs)
      fun value => others.foldl (fun sorted pair => insertPair pair sorted) (more value) := by
  induction others generalizing pairs more with
  | nil => exact between
  | cons pair others inductionHypothesis =>
      refine inductionHypothesis ?_ fun value => (sorted value).insertPair pair
      obtain ⟨before, after, rfl, placed⟩ := between
      simp only [placed] at sorted ⊢
      exact isBetween_insertPair_append sorted pair

theorem isSorted_foldl_insertPair
    {sorted : List (Text × α)}
    (isSorted : IsSorted sorted)
    (pairs : List (Text × α)) :
    IsSorted (pairs.foldl (fun sorted pair => insertPair pair sorted) sorted) := by
  induction pairs generalizing sorted with
  | nil => exact isSorted
  | cons pair pairs inductionHypothesis =>
      exact inductionHypothesis (isSorted.insertPair pair)

/-- The pairs of a table with one pair more are the pairs of the table with this one between
them. -/
theorem exists_sortPairs_append_cons
    (key : Text)
    (front back : List (Text × α)) :
    ∃ before after, sortPairs (front ++ back) = before ++ after ∧
      ∀ value, sortPairs (front ++ (key, value) :: back) = before ++ (key, value) :: after := by
  have isSorted : IsSorted (front.foldl (fun sorted pair => insertPair pair sorted) []) :=
    isSorted_foldl_insertPair .nil front
  simp only [sortPairs, List.foldl_append, List.foldl_cons]
  exact (isBetween_insertPair key _).foldl_insertPair
    (fun value => isSorted.insertPair (key, value)) back

end DetachedTasks.Toml
