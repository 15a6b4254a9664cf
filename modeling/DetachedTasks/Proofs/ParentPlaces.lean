import DetachedTasks.Proofs.PathPlaces

/-!
# Parents of paths

Dropping the last component of a path, in the form it was written, goes exactly one step up.
-/

namespace DetachedTasks

namespace Text

variable {α : Type}

theorem dropEndWhile_prefix_of
    (test : α → Bool)
    (items : List α) :
    dropEndWhile test items <+: items :=
  ⟨_, dropEndWhile_append test items⟩

/-- What is kept before the last item that is kept comes first. -/
theorem dropEndWhile_before_prefix
    {test : α → Bool}
    {items before : List α}
    {last : α}
    (kept : (dropEndWhile test items).reverse = last :: before) :
    dropEndWhile test before.reverse <+: items := by
  have whole : dropEndWhile test items = before.reverse ++ [last] := by
    rw [← List.reverse_cons, ← kept, List.reverse_reverse]
  have one := dropEndWhile_prefix_of test before.reverse
  have two : before.reverse <+: before.reverse ++ [last] := List.prefix_append _ _
  have three := dropEndWhile_prefix_of test items
  rw [whole] at three
  exact (one.trans two).trans three

/-- What is dropped at the end passes the test, so a filter for what does not pass loses
nothing. -/
theorem filter_dropEndWhile
    (test : α → Bool)
    (items : List α) :
    (dropEndWhile test items).filter (!test ·) = items.filter (!test ·) := by
  have dropped :
      ((items.reverse.takeWhile test).reverse).filter (!test ·) = [] := by
    rw [List.filter_eq_nil_iff]
    intro item member
    have all : (items.reverse.takeWhile test).all test = true := List.all_takeWhile
    have passes := List.all_eq_true.mp all item (List.mem_reverse.mp member)
    rw [passes]
    exact Bool.false_ne_true
  have whole := congrArg (List.filter (!test ·)) (dropEndWhile_append test items)
  rwa [List.filter_append, dropped, List.append_nil] at whole

/-- The last item that is kept does not pass the test. -/
theorem not_of_getLast?_dropEndWhile
    {test : α → Bool}
    {items : List α}
    {item : α}
    (last : (dropEndWhile test items).getLast? = some item) :
    test item = false := by
  rw [dropEndWhile, List.getLast?_reverse] at last
  have found := List.head?_dropWhile_not test items.reverse
  rw [last] at found
  simpa using found

theorem joinWith_cons_cons
    (separator piece next : List α)
    (others : List (List α)) :
    joinWith separator (piece :: next :: others) =
      piece ++ separator ++ joinWith separator (next :: others) := rfl

/-- What is joined of the first pieces is followed by a separator, if by anything. -/
theorem joinWith_append
    {separator : α}
    {first : List (List α)}
    (notEmpty : first ≠ [])
    (second : List (List α)) :
    joinWith [separator] (first ++ second) = joinWith [separator] first ∨
      ∃ more,
        joinWith [separator] (first ++ second) =
          joinWith [separator] first ++ separator :: more := by
  induction first with
  | nil => exact absurd rfl notEmpty
  | cons piece first inductionHypothesis =>
      cases first with
      | nil =>
          cases second with
          | nil => exact Or.inl rfl
          | cons next others =>
              refine Or.inr ⟨joinWith [separator] (next :: others), ?_⟩
              rw [List.singleton_append, joinWith_cons_cons, List.append_assoc]
              rfl
      | cons other first =>
          have step := joinWith_cons_cons [separator] piece other (first ++ second)
          rcases inductionHypothesis (List.cons_ne_nil _ _) with same | ⟨more, longer⟩
          · refine Or.inl ?_
            rw [List.cons_append] at same
            rw [List.cons_append, List.cons_append, step, same, joinWith_cons_cons]
          · refine Or.inr ⟨more, ?_⟩
            rw [List.cons_append] at longer
            rw [List.cons_append, List.cons_append, step, longer, joinWith_cons_cons,
              List.append_assoc (piece ++ [separator])]

end Text

namespace Path

/-- The first segments of a body, the last of which counts. -/
structure IsKept
    (body : Bytes)
    (kept : List Bytes) : Prop where
  begins : kept <+: Text.splitOn slash body
  counts : ∀ last, kept.getLast? = some last → isVoid last = false

namespace IsKept

variable {body : Bytes} {kept : List Bytes}

theorem segments_joined (isKept : IsKept body kept) :
    segments (Text.joinWith [slash] kept) = kept.filter (!isVoid ·) := by
  rw [segments]
  by_cases empty : kept = []
  · subst empty
    rfl
  · rw [Text.splitOn_joinWith empty]
    intro piece member
    exact Text.not_mem_of_mem_splitOn (isKept.begins.subset member)

/-- The body is what is joined again, and maybe a slash and more. -/
theorem joined_or
    (isKept : IsKept body kept)
    (notEmpty : kept ≠ []) :
    body = Text.joinWith [slash] kept ∨
      ∃ more, body = Text.joinWith [slash] kept ++ slash :: more := by
  obtain ⟨rest, whole⟩ := isKept.begins
  have back := Text.joinWith_splitOn slash body
  rw [← whole] at back
  rcases Text.joinWith_append notEmpty rest with same | ⟨more, longer⟩
  · exact Or.inl (back.symm.trans same)
  · exact Or.inr ⟨more, back.symm.trans longer⟩

theorem opensFolder
    (isKept : IsKept body kept)
    (opens : OpensFolder body) :
    OpensFolder (Text.joinWith [slash] kept) := by
  by_cases empty : kept = []
  · subst empty
    exact Or.inl rfl
  · cases joined : Text.joinWith [slash] kept with
    | nil => exact Or.inl rfl
    | cons first rest =>
        refine Or.inr ?_
        rcases isKept.joined_or empty with same | ⟨more, longer⟩
        · rw [same, joined] at opens
          rcases opens with nothing | slashed
          · cases nothing
          · exact slashed
        · rw [longer, joined] at opens
          rcases opens with nothing | slashed
          · cases nothing
          · exact slashed

theorem isBare
    (isKept : IsKept body kept)
    (bare : IsBare body) :
    IsBare (Text.joinWith [slash] kept) := by
  by_cases empty : kept = []
  · subst empty
    intro first rest shape
    cases shape
  · intro first rest shape
    have pieces := Text.splitOn_joinWith empty
      fun piece member => Text.not_mem_of_mem_splitOn (isKept.begins.subset member)
    have alone : first = dot → rest ≠ [] := by
      intro isDot nothing
      rw [shape, isDot, nothing] at pieces
      have last := isKept.counts [dot]
      rw [← pieces] at last
      exact absurd (last rfl) (by decide)
    rcases isKept.joined_or empty with same | ⟨more, longer⟩
    · exact bare first rest (same.trans shape)
    · rw [shape] at longer
      obtain ⟨notSlash, dotCloses⟩ := bare first (rest ++ slash :: more) longer
      refine ⟨notSlash, ?_⟩
      intro isDot opens
      rcases opens with nothing | slashed
      · exact alone isDot nothing
      · apply dotCloses isDot
        cases rest with
        | nil => cases slashed
        | cons second tail => exact Or.inr slashed

/-- The head of a path and its first segments name the place of these segments. -/
theorem location_joined
    {path : Path}
    (isKept : IsKept path.body kept) :
    (Path.mk (path.head ++ Text.joinWith [slash] kept)).location =
      path.headComponents ++ (kept.filter (!isVoid ·)).map componentOf := by
  rcases path.begins with ⟨body, shape⟩ | ⟨body, shape, opens⟩ | ⟨body, shape, bare⟩
  · subst shape
    rw [headComponents, head_slash, List.singleton_append, location_slash,
      isKept.segments_joined]
    rfl
  · subst shape
    have sameBody : (Path.mk (dot :: body)).body = body := by
      rw [Path.body, head_dot opens]
      rfl
    rw [sameBody] at isKept
    rw [headComponents, head_dot opens, List.singleton_append,
      location_dot (isKept.opensFolder opens), isKept.segments_joined]
    rfl
  · subst shape
    have sameBody : (Path.mk body).body = body := by
      rw [Path.body, head_bare bare]
      rfl
    rw [sameBody] at isKept
    rw [headComponents, head_bare bare, List.nil_append, location_bare (isKept.isBare bare),
      isKept.segments_joined]
    rfl

end IsKept

/-- The parent of a path names the place one step up. -/
theorem location_parent
    {path parent : Path}
    (isParent : path.parent? = some parent) :
    parent.location = path.location.dropLast := by
  have counted := Text.filter_dropEndWhile isVoid (Text.splitOn slash path.body)
  rw [parent?] at isParent
  cases pieces :
      (Text.dropEndWhile isVoid (Text.splitOn slash path.body)).reverse with
  | nil =>
      rw [List.reverse_eq_nil_iff] at pieces
      rw [pieces] at isParent counted
      simp only [List.reverse_nil] at isParent
      split at isParent
      · rename_i isDot
        cases isParent
        have different : ([dot] : Bytes) ≠ [slash] := by decide
        rw [location_eq path, segments, ← counted, headComponents, isDot, if_neg different,
          if_pos rfl]
        rfl
      · cases isParent
  | cons last before =>
      have whole :
          Text.dropEndWhile isVoid (Text.splitOn slash path.body) =
            before.reverse ++ [last] := by
        rw [← List.reverse_cons, ← pieces, List.reverse_reverse]
      have lastCounts : isVoid last = false := by
        apply Text.not_of_getLast?_dropEndWhile
        rw [whole, List.getLast?_concat]
      have isKept : IsKept path.body (Text.dropEndWhile isVoid before.reverse) :=
        ⟨Text.dropEndWhile_before_prefix pieces,
          fun last => Text.not_of_getLast?_dropEndWhile⟩
      rw [pieces] at isParent
      cases isParent
      rw [isKept.location_joined, location_eq path, segments, ← counted, whole,
        List.filter_append, Text.filter_dropEndWhile]
      simp [lastCounts]

/-- A path without a parent has no segments. -/
theorem segments_of_parent?_eq_none
    {path : Path}
    (noParent : path.parent? = none) :
    segments path.body = [] := by
  have counted := Text.filter_dropEndWhile isVoid (Text.splitOn slash path.body)
  rw [parent?] at noParent
  cases pieces :
      (Text.dropEndWhile isVoid (Text.splitOn slash path.body)).reverse with
  | nil =>
      rw [List.reverse_eq_nil_iff] at pieces
      rw [pieces] at counted
      exact counted.symm
  | cons last before =>
      rw [pieces] at noParent
      cases noParent

/-- Only a path of one component at most has no parent. -/
theorem length_location_of_parent?
    {path : Path}
    (noParent : path.parent? = none) :
    path.location.length ≤ 1 := by
  rw [location_eq, segments_of_parent?_eq_none noParent, headComponents]
  split
  · exact Nat.le_refl _
  · split
    · exact Nat.le_refl _
    · exact Nat.zero_le _

end Path

end DetachedTasks
