import DetachedTasks.Path
import Mathlib.Tactic.Common

/-!
# Places below a directory

A path begins with a slash, with a dot of its own, or with its first segment, and whatever
follows is cut at the slashes.  Joining a name to a path adds a slash where one is missing, so
its place is always one step below the place of the path.
-/

namespace DetachedTasks

namespace Text

variable {α : Type} [DecidableEq α]

/-- A list without the separator is one piece. -/
theorem splitOn_of_not_mem
    {separator : α}
    {items : List α}
    (absent : separator ∉ items) :
    splitOn separator items = [items] := by
  induction items with
  | nil => rfl
  | cons item items inductionHypothesis =>
      have itemNe : item ≠ separator := by
        intro same
        exact absent (same ▸ List.mem_cons_self)
      have restAbsent : separator ∉ items :=
        fun member => absent (List.mem_cons_of_mem item member)
      simp only [splitOn, itemNe, if_false, inductionHypothesis restAbsent]

/-- A separator cuts a list into what is before it and what is behind it. -/
theorem splitOn_append_cons
    (separator : α)
    (first second : List α) :
    splitOn separator (first ++ separator :: second) =
      splitOn separator first ++ splitOn separator second := by
  induction first with
  | nil => simp [splitOn]
  | cons item first inductionHypothesis =>
      by_cases same : item = separator
      · simp only [List.cons_append, splitOn, same, if_true, inductionHypothesis]
      · cases pieces : splitOn separator first with
        | nil => exact absurd pieces (splitOn_ne_nil separator first)
        | cons piece others =>
            rw [pieces] at inductionHypothesis
            simp only [List.cons_append, splitOn, same, if_false, inductionHypothesis,
              pieces]

/-- No piece of a split holds the separator. -/
theorem not_mem_of_mem_splitOn
    {separator : α}
    {items piece : List α}
    (member : piece ∈ splitOn separator items) :
    separator ∉ piece := by
  induction items generalizing piece with
  | nil =>
      rw [splitOn, List.mem_singleton] at member
      subst member
      exact List.not_mem_nil
  | cons item items inductionHypothesis =>
      by_cases same : item = separator
      · simp only [splitOn, same, if_true, List.mem_cons] at member
        rcases member with isEmpty | inRest
        · subst isEmpty
          exact List.not_mem_nil
        · exact inductionHypothesis inRest
      · cases pieces : splitOn separator items with
        | nil => exact absurd pieces (splitOn_ne_nil separator items)
        | cons first others =>
            rw [pieces] at inductionHypothesis
            simp only [splitOn, same, if_false, pieces, List.mem_cons] at member
            rcases member with isFirst | inOthers
            · subst isFirst
              rw [List.mem_cons, not_or]
              exact ⟨Ne.symm same, inductionHypothesis List.mem_cons_self⟩
            · exact inductionHypothesis (List.mem_cons_of_mem _ inOthers)

/-- Pieces without the separator are found again in what they are joined to. -/
theorem splitOn_joinWith
    {separator : α}
    {pieces : List (List α)}
    (notEmpty : pieces ≠ [])
    (absent : ∀ piece ∈ pieces, separator ∉ piece) :
    splitOn separator (joinWith [separator] pieces) = pieces := by
  induction pieces with
  | nil => exact absurd rfl notEmpty
  | cons piece pieces inductionHypothesis =>
      have pieceAbsent := absent piece List.mem_cons_self
      cases pieces with
      | nil => exact splitOn_of_not_mem pieceAbsent
      | cons second others =>
          have restSame := inductionHypothesis (List.cons_ne_nil _ _)
            fun other member => absent other (List.mem_cons_of_mem _ member)
          rw [joinWith, List.append_assoc, List.singleton_append, splitOn_append_cons,
            splitOn_of_not_mem pieceAbsent, restSame]
          · rfl
          · exact List.cons_ne_nil _ _

end Text

namespace Path

/-- The segments of a path that are components of their own. -/
def segments (body : Bytes) : List Bytes :=
  (Text.splitOn slash body).filter (!isVoid ·)

theorem location_eq (path : Path) :
    path.location = path.headComponents ++ (segments path.body).map componentOf := rfl

/-- A segment between slashes that stands for a name. -/
structure IsName (segment : Bytes) : Prop where
  notVoid : isVoid segment = false
  notUp : segment ≠ [dot, dot]
  noSlash : slash ∉ segment

theorem IsName.ne_nil
    {segment : Bytes}
    (plain : IsName segment) :
    segment ≠ [] := by
  intro empty
  have notVoid := plain.notVoid
  rw [empty] at notVoid
  exact absurd notVoid (by decide)

/-- A name that is continued is a name, unless it comes to dots. -/
theorem IsName.append
    {segment more : Bytes}
    (plain : IsName segment)
    (long : 2 ≤ more.length)
    (noSlash : slash ∉ more) :
    IsName (segment ++ more) := by
  have notEmpty : 0 < segment.length := List.length_pos_iff.mpr plain.ne_nil
  have longer : 3 ≤ (segment ++ more).length := by
    rw [List.length_append]
    omega
  refine ⟨?_, ?_, ?_⟩
  · rw [isVoid, Bool.or_eq_false_iff, List.isEmpty_eq_false_iff, beq_eq_false_iff_ne]
    constructor
    · intro empty
      rw [empty] at longer
      exact absurd longer (by decide)
    · intro here
      rw [here] at longer
      exact absurd longer (by decide)
  · intro up
    rw [up] at longer
    exact absurd longer (by decide)
  · rw [List.mem_append, not_or]
    exact ⟨plain.noSlash, noSlash⟩

theorem IsName.isRelative
    {segment : Bytes}
    (plain : IsName segment) :
    (Path.mk segment).isAbsolute = false := by
  have noSlash := plain.noSlash
  cases segment with
  | nil => rfl
  | cons first rest =>
      rw [List.mem_cons, not_or] at noSlash
      simpa [isAbsolute] using Ne.symm noSlash.1

/-- A name behind a slash is one more segment. -/
theorem segments_append_name
    {segment : Bytes}
    (plain : IsName segment)
    (body : Bytes) :
    segments (body ++ slash :: segment) = segments body ++ [segment] := by
  rw [segments, Text.splitOn_append_cons, List.filter_append,
    Text.splitOn_of_not_mem plain.noSlash]
  simp [segments, plain.notVoid]

/-- A name at the beginning is the only segment. -/
theorem segments_name
    {segment : Bytes}
    (plain : IsName segment) :
    segments segment = [segment] := by
  simp [segments, Text.splitOn_of_not_mem plain.noSlash, plain.notVoid]

/-- A slash at the end does not count. -/
theorem segments_append_slash (body : Bytes) :
    segments (body ++ [slash]) = segments body := by
  rw [segments, Text.splitOn_append_cons, List.filter_append]
  simp [segments, Text.splitOn, isVoid]

/-! ### The three ways a path begins -/

/-- What may follow a leading dot: nothing, or a slash. -/
def OpensFolder (body : Bytes) : Prop :=
  body = [] ∨ body.head? = some slash

/-- What a path without a head looks like: it begins neither with a slash nor with a dot that
stands alone. -/
def IsBare (body : Bytes) : Prop :=
  ∀ first rest, body = first :: rest →
    first ≠ slash ∧ (first = dot → ¬ OpensFolder rest)

theorem head_slash (body : Bytes) :
    (Path.mk (slash :: body)).head = [slash] := by
  simp [head]

theorem head_dot
    {body : Bytes}
    (opens : OpensFolder body) :
    (Path.mk (dot :: body)).head = [dot] := by
  have notSlash : dot ≠ slash := by decide
  rcases opens with nothing | slashed
  · subst nothing
    rfl
  · simp [head, notSlash, slashed]

theorem head_bare
    {body : Bytes}
    (bare : IsBare body) :
    (Path.mk body).head = [] := by
  cases body with
  | nil => rfl
  | cons first rest =>
      obtain ⟨notSlash, dotCloses⟩ := bare first rest rfl
      by_cases isDot : first = dot
      · have closed := dotCloses isDot
        simp only [OpensFolder, not_or] at closed
        have notEmpty : rest.isEmpty = false := by
          simpa [List.isEmpty_iff] using closed.1
        have notFollowed : (rest.head? == some slash) = false := by
          simpa using closed.2
        simp [head, notSlash, notEmpty, notFollowed]
      · simp [head, notSlash, isDot]

/-- Every path begins in one of three ways. -/
theorem begins (path : Path) :
    (∃ body, path = ⟨slash :: body⟩) ∨
      (∃ body, path = ⟨dot :: body⟩ ∧ OpensFolder body) ∨
      (∃ body, path = ⟨body⟩ ∧ IsBare body) := by
  rcases path with ⟨bytes⟩
  cases bytes with
  | nil =>
      refine Or.inr (Or.inr ⟨[], rfl, ?_⟩)
      intro first rest shape
      cases shape
  | cons first rest =>
      by_cases isSlash : first = slash
      · subst isSlash
        exact Or.inl ⟨rest, rfl⟩
      · by_cases isDot : first = dot ∧ OpensFolder rest
        · obtain ⟨same, opens⟩ := isDot
          subst same
          exact Or.inr (Or.inl ⟨rest, rfl, opens⟩)
        · refine Or.inr (Or.inr ⟨first :: rest, rfl, ?_⟩)
          intro other more shape
          injection shape with sameFirst sameRest
          subst sameFirst
          subst sameRest
          exact ⟨isSlash, fun same opens => isDot ⟨same, opens⟩⟩

/-- The place of a path that begins with a slash. -/
theorem location_slash (body : Bytes) :
    (Path.mk (slash :: body)).location = .root :: (segments body).map componentOf := by
  rw [location_eq, headComponents, Path.body, head_slash]
  simp

/-- The place of a path that begins with a dot of its own. -/
theorem location_dot
    {body : Bytes}
    (opens : OpensFolder body) :
    (Path.mk (dot :: body)).location = .here :: (segments body).map componentOf := by
  rw [location_eq, headComponents, Path.body, head_dot opens]
  have different : ([dot] : Bytes) ≠ [slash] := by decide
  simp [different]

/-- The place of a path without a head. -/
theorem location_bare
    {body : Bytes}
    (bare : IsBare body) :
    (Path.mk body).location = (segments body).map componentOf := by
  rw [location_eq, headComponents, Path.body, head_bare bare]
  simp

/-- What begins with an empty piece is nothing, or begins with a slash. -/
theorem opensFolder_of_splitOn
    {body : Bytes}
    {others : List Bytes}
    (pieces : Text.splitOn slash body = [] :: others) :
    OpensFolder body := by
  cases body with
  | nil => exact Or.inl rfl
  | cons first rest =>
      by_cases same : first = slash
      · exact Or.inr (congrArg some same)
      · cases inner : Text.splitOn slash rest with
        | nil => exact absurd inner (Text.splitOn_ne_nil slash rest)
        | cons piece more => simp [Text.splitOn, same, inner] at pieces

/-- Only the empty path names no place at all. -/
theorem location_ne_nil
    {path : Path}
    (notEmpty : path.bytes ≠ []) :
    path.location ≠ [] := by
  rcases path.begins with ⟨body, shape⟩ | ⟨body, shape, opens⟩ | ⟨body, shape, bare⟩
  · rw [shape, location_slash]
    exact List.cons_ne_nil _ _
  · rw [shape, location_dot opens]
    exact List.cons_ne_nil _ _
  · subst shape
    cases body with
    | nil => exact absurd rfl notEmpty
    | cons first rest =>
        obtain ⟨notSlash, dotCloses⟩ := bare first rest rfl
        cases pieces : Text.splitOn slash rest with
        | nil => exact absurd pieces (Text.splitOn_ne_nil slash rest)
        | cons piece others =>
            have counts : isVoid (first :: piece) = false := by
              rw [isVoid, List.isEmpty_cons, Bool.false_or, beq_eq_false_iff_ne]
              intro isDot
              injection isDot with sameFirst nothing
              subst nothing
              exact dotCloses sameFirst (opensFolder_of_splitOn pieces)
            rw [location_bare bare]
            simp [segments, Text.splitOn, notSlash, pieces, counts]

/-! ### Going down -/

theorem IsName.isBare
    {segment : Bytes}
    (plain : IsName segment) :
    IsBare segment := by
  intro first rest shape
  have noSlash := plain.noSlash
  have notVoid := plain.notVoid
  rw [shape, List.mem_cons, not_or] at noSlash
  refine ⟨Ne.symm noSlash.1, ?_⟩
  intro isDot opens
  rcases opens with nothing | slashed
  · rw [shape, isDot, nothing] at notVoid
    exact absurd notVoid (by decide)
  · cases rest with
    | nil => cases slashed
    | cons second more =>
        rw [List.head?_cons, Option.some.injEq] at slashed
        exact noSlash.2 (slashed ▸ List.mem_cons_self)

/-- What begins as a body still begins so when something follows that does not stand alone. -/
theorem IsBare.append_slash
    {body : Bytes}
    (bare : IsBare body)
    (notEmpty : body ≠ [])
    (more : Bytes) :
    IsBare (body ++ slash :: more) := by
  cases body with
  | nil => exact absurd rfl notEmpty
  | cons first rest =>
      obtain ⟨notSlash, dotCloses⟩ := bare first rest rfl
      intro other others shape
      injection shape with sameFirst sameRest
      subst sameFirst
      refine ⟨notSlash, ?_⟩
      intro isDot opens
      have closed := dotCloses isDot
      rw [OpensFolder, not_or] at closed
      cases rest with
      | nil => exact closed.1 rfl
      | cons second tail =>
          subst sameRest
          rcases opens with nothing | slashed
          · cases nothing
          · exact closed.2 slashed

theorem OpensFolder.append
    {body : Bytes}
    (opens : OpensFolder body)
    (more : Bytes) :
    OpensFolder (body ++ slash :: more) := by
  rcases opens with nothing | slashed
  · subst nothing
    exact Or.inr rfl
  · cases body with
    | nil => cases slashed
    | cons first rest => exact Or.inr slashed

/-- A name behind a slash goes one step down, however the path begins. -/
theorem location_append_name
    {segment : Bytes}
    (plain : IsName segment)
    {bytes : Bytes}
    (notEmpty : bytes ≠ []) :
    (Path.mk (bytes ++ slash :: segment)).location =
      (Path.mk bytes).location ++ [componentOf segment] := by
  rcases begins ⟨bytes⟩ with ⟨body, shape⟩ | ⟨body, shape, opens⟩ | ⟨body, shape, bare⟩
  · injection shape with same
    rw [same, List.cons_append, location_slash, location_slash,
      segments_append_name plain, List.map_append]
    rfl
  · injection shape with same
    rw [same, List.cons_append, location_dot opens, location_dot (opens.append segment),
      segments_append_name plain, List.map_append]
    rfl
  · injection shape with same
    subst same
    rw [location_bare bare, location_bare (bare.append_slash notEmpty segment),
      segments_append_name plain, List.map_append]
    rfl

/-- A slash at the end of a path does not change its place. -/
theorem location_append_slash
    {bytes : Bytes}
    (notEmpty : bytes ≠ []) :
    (Path.mk (bytes ++ [slash])).location = (Path.mk bytes).location := by
  rcases begins ⟨bytes⟩ with ⟨body, shape⟩ | ⟨body, shape, opens⟩ | ⟨body, shape, bare⟩
  · injection shape with same
    rw [same, List.cons_append, location_slash, location_slash, segments_append_slash]
  · injection shape with same
    rw [same, List.cons_append, location_dot opens, location_dot (opens.append []),
      segments_append_slash]
  · injection shape with same
    subst same
    rw [location_bare bare, location_bare (bare.append_slash notEmpty []),
      segments_append_slash]

/-- The place of a name in a directory is one step below the directory. -/
theorem location_join
    {segment : Bytes}
    (plain : IsName segment)
    (base : Path) :
    (base.join ⟨segment⟩).location = base.location ++ [.name segment] := by
  have component : componentOf segment = .name segment := by
    rw [componentOf, if_neg plain.notUp]
  rcases base with ⟨bytes⟩
  rw [join, plain.isRelative]
  simp only [Bool.false_eq_true, if_false]
  by_cases empty : bytes = []
  · subst empty
    simp only [List.isEmpty_nil, Bool.true_or, if_true, List.nil_append]
    rw [location_bare plain.isBare, segments_name plain, ← component]
    rfl
  · by_cases slashed : bytes.getLast? = some slash
    · obtain ⟨before, shape⟩ := List.getLast?_eq_some_iff.mp slashed
      subst shape
      simp only [slashed, BEq.rfl, Bool.or_true, if_true, List.append_assoc,
        List.singleton_append]
      by_cases root : before = []
      · subst root
        rw [List.nil_append, List.nil_append, location_slash, location_slash,
          segments_name plain, ← component]
        rfl
      · rw [location_append_name plain root, location_append_slash root, component]
    · have open? :
          (bytes.isEmpty || bytes.getLast? == some slash) = false := by
        simpa [List.isEmpty_iff] using ⟨empty, slashed⟩
      rw [open?, if_neg (by decide), location_append_name plain empty, component]

end Path

end DetachedTasks
