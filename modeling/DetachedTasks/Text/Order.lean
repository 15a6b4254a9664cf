import DetachedTasks.Text.Basic

/-!
# The order of texts

Texts are ordered by code points, position by position, a text before its continuations.
Sorted lists of names without repetition are built by insertion.
-/

namespace DetachedTasks.Text

/-- Whether a text comes before another one. -/
def precedes (first second : Text) : Bool :=
  List.lex first second fun left right => left.toNat < right.toNat

/-- Put a text into a sorted list, unless it is there. -/
def insertSorted (text : Text) : List Text → List Text
  | [] => [text]
  | other :: rest =>
      if text = other then other :: rest
      else if precedes text other then text :: other :: rest
      else other :: insertSorted text rest

/-- The texts of a list, each once, in order. -/
def sortedUnique (texts : List Text) : List Text :=
  texts.foldl (fun sorted text => insertSorted text sorted) []

/-- Insertion adds exactly the inserted text. -/
@[simp]
theorem mem_insertSorted
    {text other : Text}
    {sorted : List Text} :
    other ∈ insertSorted text sorted ↔ other = text ∨ other ∈ sorted := by
  induction sorted with
  | nil => simp [insertSorted]
  | cons head rest inductionHypothesis =>
      simp only [insertSorted]
      split
      · rename_i same
        subst same
        simp
      · split
        · simp
        · simp only [List.mem_cons, inductionHypothesis]
          constructor
          · rintro (head | text | rest) <;> simp [*]
          · rintro (text | head | rest) <;> simp [*]

/-- A sorted list has the same members as the list it was made from. -/
@[simp]
theorem mem_sortedUnique
    {text : Text}
    {texts : List Text} :
    text ∈ sortedUnique texts ↔ text ∈ texts := by
  have general : ∀ (texts sorted : List Text),
      text ∈ texts.foldl (fun sorted text => insertSorted text sorted) sorted ↔
        text ∈ texts ∨ text ∈ sorted := by
    intro texts
    induction texts with
    | nil => simp
    | cons head rest inductionHypothesis =>
        intro sorted
        simp only [List.foldl_cons, inductionHypothesis, mem_insertSorted, List.mem_cons]
        constructor
        · rintro (rest | head | sorted) <;> simp [*]
        · rintro ((head | rest) | sorted) <;> simp [*]
  rw [sortedUnique, general texts []]
  simp

end DetachedTasks.Text
