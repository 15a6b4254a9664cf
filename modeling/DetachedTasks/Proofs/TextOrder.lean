import DetachedTasks.Text.Order
import Mathlib.Data.Char
import Mathlib.Data.List.Lex
import Mathlib.Order.Bounds.Basic

/-!
# Sorted texts

The order of texts is the lexicographic order by code points, so it is linear.  Insertion
keeps a list sorted, and of a sorted list the first text with a property is the least one.
-/

namespace DetachedTasks.Text

/-- One text precedes another one exactly if it is less by code points. -/
theorem precedes_iff_lt
    {first second : Text} :
    precedes first second = true ↔ first < second := by
  rw [precedes, List.lex_eq_true_iff_lex]
  simp only [decide_eq_true_eq]
  rfl

/-- Insertion keeps a list of texts strictly sorted. -/
theorem pairwise_insertSorted
    {sorted : List Text}
    (increasing : sorted.Pairwise (· < ·))
    (text : Text) :
    (insertSorted text sorted).Pairwise (· < ·) := by
  induction sorted with
  | nil => exact List.pairwise_singleton _ _
  | cons head rest inductionHypothesis =>
      obtain ⟨below, restIncreasing⟩ := List.pairwise_cons.mp increasing
      rw [insertSorted]
      by_cases same : text = head
      · rw [if_pos same]
        exact increasing
      · rw [if_neg same]
        by_cases before : precedes text head = true
        · rw [if_pos before]
          have less := precedes_iff_lt.mp before
          refine List.pairwise_cons.mpr ⟨?_, increasing⟩
          intro other member
          rcases List.mem_cons.mp member with isHead | isLater
          · exact isHead ▸ less
          · exact lt_trans less (below other isLater)
        · rw [if_neg before]
          have greater : head < text :=
            lt_of_le_of_ne (not_lt.mp (mt precedes_iff_lt.mpr before)) (Ne.symm same)
          refine List.pairwise_cons.mpr ⟨?_, inductionHypothesis restIncreasing⟩
          intro other member
          rcases mem_insertSorted.mp member with isText | isLater
          · exact isText ▸ greater
          · exact below other isLater

/-- A list of texts made by insertion is strictly sorted. -/
theorem pairwise_sortedUnique (texts : List Text) :
    (sortedUnique texts).Pairwise (· < ·) := by
  have general : ∀ sorted : List Text, sorted.Pairwise (· < ·) →
      (texts.foldl (fun sorted text => insertSorted text sorted) sorted).Pairwise
        (· < ·) := by
    induction texts with
    | nil => exact fun _ increasing => increasing
    | cons text rest inductionHypothesis =>
        exact fun sorted increasing =>
          inductionHypothesis _ (pairwise_insertSorted increasing text)
  exact general [] .nil

/-- Of a sorted list, the first text with a property is the least one. -/
theorem find?_eq_some_iff_isLeast
    {sorted : List Text}
    (increasing : sorted.Pairwise (· < ·))
    (test : Text → Bool)
    (text : Text) :
    sorted.find? test = some text ↔
      IsLeast {other | other ∈ sorted ∧ test other = true} text := by
  induction sorted with
  | nil =>
      constructor
      · intro none
        cases none
      · exact fun least => absurd least.1.1 List.not_mem_nil
  | cons head rest inductionHypothesis =>
      obtain ⟨below, restIncreasing⟩ := List.pairwise_cons.mp increasing
      by_cases passes : test head = true
      · have headLeast : IsLeast {other | other ∈ head :: rest ∧ test other = true} head := by
          refine ⟨⟨List.mem_cons_self, passes⟩, ?_⟩
          rintro other ⟨member, -⟩
          rcases List.mem_cons.mp member with isHead | isLater
          · exact le_of_eq isHead.symm
          · exact le_of_lt (below other isLater)
        rw [List.find?_cons_of_pos passes, Option.some.injEq]
        constructor
        · rintro rfl
          exact headLeast
        · exact fun least => headLeast.unique least
      · have sameSet : {other | other ∈ head :: rest ∧ test other = true} =
            {other | other ∈ rest ∧ test other = true} := by
          ext other
          simp only [List.mem_cons, Set.mem_ofPred_eq]
          constructor
          · rintro ⟨isHead | isLater, otherPasses⟩
            · exact absurd (isHead ▸ otherPasses) passes
            · exact ⟨isLater, otherPasses⟩
          · rintro ⟨isLater, otherPasses⟩
            exact ⟨.inr isLater, otherPasses⟩
        rw [List.find?_cons_of_neg passes, inductionHypothesis restIncreasing, sameSet]

end DetachedTasks.Text
