import DetachedTasks.Text.Basic

/-!
# Entries by place

A finite map from places to files and directories.  It is looked at only through `lookup`;
each way to change it has one equation that says what `lookup` answers afterwards.
-/

namespace DetachedTasks

/-- What stands at a place. -/
inductive Entry where
  | file (content : Bytes)
  | directory
  deriving Repr, DecidableEq

/-- A finite map from places to entries. -/
structure EntryMap (Place : Type) where
  entries : List (Place × Entry)
  deriving Repr

namespace EntryMap

variable {Place : Type} [DecidableEq Place]

/-- The map without entries. -/
def empty : EntryMap Place :=
  ⟨[]⟩

/-- The entry at a place. -/
def lookup
    (map : EntryMap Place)
    (place : Place) : Option Entry :=
  (map.entries.find? (·.1 = place)).map (·.2)

/-- Put an entry at a place and forget what was there. -/
def insert
    (map : EntryMap Place)
    (place : Place)
    (entry : Entry) : EntryMap Place :=
  ⟨(place, entry) :: map.entries.filter (·.1 ≠ place)⟩

/-- Forget every entry whose place passes a test. -/
def eraseWhere
    (map : EntryMap Place)
    (test : Place → Bool) : EntryMap Place :=
  ⟨map.entries.filter fun pair => !test pair.1⟩

omit [DecidableEq Place] in
/-- Finding by key in a list from which other keys were filtered out. -/
theorem find?_filter_of_keep
    {entries : List (Place × Entry)}
    {wanted keep : Place × Entry → Bool}
    (agree : ∀ pair, wanted pair = true → keep pair = true) :
    (entries.filter keep).find? wanted = entries.find? wanted := by
  induction entries with
  | nil => rfl
  | cons pair rest inductionHypothesis =>
      by_cases kept : keep pair = true
      · by_cases hit : wanted pair = true
        · simp [kept, hit]
        · simp [kept, hit, inductionHypothesis]
      · have miss : wanted pair = false := by
          cases hit : wanted pair with
          | false => rfl
          | true => exact absurd (agree pair hit) kept
        simp [kept, miss, inductionHypothesis]

@[simp]
theorem lookup_empty (place : Place) :
    (empty : EntryMap Place).lookup place = none := rfl

/-- After an insertion the entry is at its place and all other places are as before. -/
@[simp]
theorem lookup_insert
    (map : EntryMap Place)
    (place other : Place)
    (entry : Entry) :
    (map.insert place entry).lookup other =
      if other = place then some entry else map.lookup other := by
  by_cases same : other = place
  · simp [insert, lookup, same]
  · have different : ¬ place = other := fun equal => same equal.symm
    simp only [insert, lookup, List.find?_cons, different, decide_false, same, if_false]
    rw [find?_filter_of_keep]
    intro pair hit
    simp only [decide_eq_true_eq] at hit
    simp [hit, same]

/-- After an erasure the places that pass the test are empty and all others are as before. -/
@[simp]
theorem lookup_eraseWhere
    (map : EntryMap Place)
    (test : Place → Bool)
    (place : Place) :
    (map.eraseWhere test).lookup place =
      if test place then none else map.lookup place := by
  by_cases erased : test place = true
  · have absent :
        (map.entries.filter fun pair => !test pair.1).find? (·.1 = place) = none := by
      rw [List.find?_eq_none]
      intro pair member hit
      simp only [decide_eq_true_eq] at hit
      rw [List.mem_filter] at member
      simp [hit, erased] at member
    simp [eraseWhere, lookup, absent, erased]
  · simp only [eraseWhere, lookup, erased]
    rw [find?_filter_of_keep]
    · rfl
    · intro pair hit
      simp only [decide_eq_true_eq] at hit
      simp [hit, erased]

end EntryMap

end DetachedTasks
