import DetachedTasks.Proofs.AbsoluteNames
import DetachedTasks.Proofs.ParentPlaces
import DetachedTasks.Proofs.Utf8RoundTrip
import Mathlib.Data.List.Induction

/-!
# Absolute forms of paths

An absolute form begins at the root or goes on from the current directory, and then takes the
steps of the path as they were written.  Two dots are a step like any other, so they end the
absolute form of a path exactly if they end the path.
-/

namespace DetachedTasks

/-- A component that a segment stands for, and not the beginning of a path. -/
def Component.IsStep (component : Component) : Prop :=
  ∃ segment, Path.isVoid segment = false ∧ Path.slash ∉ segment ∧
    component = Path.componentOf segment

namespace Path

variable {path base current full parent : Path} {component : Component}

/-- The components of a path behind its head. -/
def onward (path : Path) : Location :=
  (segments path.body).map componentOf

theorem slashed_of_isAbsolute
    (absolute : path.isAbsolute = true) :
    ∃ body, path = ⟨slash :: body⟩ := by
  rcases path with ⟨bytes⟩
  cases bytes with
  | nil => cases absolute
  | cons first rest =>
      have isSlash : first = slash := by simpa [isAbsolute] using absolute
      exact ⟨rest, by rw [isSlash]⟩

theorem isStep_of_mem
    (member : component ∈ path.onward) :
    component.IsStep := by
  obtain ⟨segment, isSegment, same⟩ := List.mem_map.mp member
  obtain ⟨isPiece, counts⟩ := List.mem_filter.mp isSegment
  rw [Bool.not_eq_true'] at counts
  exact ⟨segment, counts, Text.not_mem_of_mem_splitOn isPiece, same.symm⟩

theorem componentBytes_componentOf (segment : Bytes) :
    componentBytes (componentOf segment) = segment := by
  rw [componentOf]
  split
  · rename_i isUp
    exact isUp.symm
  · rfl

/-! ### Steps that are taken -/

/-- Whatever a step is taken from, it comes last. -/
theorem getLast?_location_join
    (isStep : component.IsStep)
    (base : Path) :
    (base.join ⟨componentBytes component⟩).location.getLast? = some component := by
  obtain ⟨segment, counts, noSlash, rfl⟩ := isStep
  have relative : (Path.mk segment).isAbsolute = false := by
    cases segment with
    | nil => rfl
    | cons first rest =>
        rw [List.mem_cons, not_or] at noSlash
        simpa [isAbsolute] using Ne.symm noSlash.1
  have alone : segments segment = [segment] := by
    simp [segments, Text.splitOn_of_not_mem noSlash, counts]
  have cut : segments (base.lead ++ segment) = segments base.lead ++ [segment] := by
    rcases lead_cases base with empty | ⟨before, slashed⟩
    · rw [empty, List.nil_append, alone]
      rfl
    · rw [slashed, segments_append_slash, List.append_assoc, List.singleton_append, segments,
        Text.splitOn_append_cons, List.filter_append]
      exact congrArg (segments before ++ ·) alone
  rw [componentBytes_componentOf, location_eq, ← segments_bytes, join_relative relative, cut,
    List.map_append, ← List.append_assoc]
  exact List.getLast?_concat

theorem joinComponents_concat
    (base : Path)
    (components : Location)
    (component : Component) :
    base.joinComponents (components ++ [component]) =
      (base.joinComponents components).join ⟨componentBytes component⟩ := by
  rw [joinComponents, List.foldl_append]
  rfl

theorem isAbsolute_join
    (absolute : base.isAbsolute = true)
    (path : Path) :
    (base.join path).isAbsolute = true := by
  rw [join]
  split
  · assumption
  · obtain ⟨body, rfl⟩ := slashed_of_isAbsolute absolute
    split
    · rfl
    · rfl

theorem isAbsolute_joinComponents
    (absolute : base.isAbsolute = true)
    (components : Location) :
    (base.joinComponents components).isAbsolute = true := by
  induction components using List.reverseRecOn with
  | nil => exact absolute
  | append_singleton components component inductionHypothesis =>
      rw [joinComponents_concat]
      exact isAbsolute_join inductionHypothesis _

/-- A slash at the end is no step. -/
theorem location_join_empty (base : Path) :
    (base.join ⟨[]⟩).location = base.location := by
  rcases base with ⟨bytes⟩
  rw [join]
  by_cases closed : (bytes.isEmpty || bytes.getLast? == some slash) = true
  · simp [isAbsolute, closed]
  · have notEmpty : bytes ≠ [] := by
      intro empty
      rw [empty] at closed
      exact closed rfl
    simp only [isAbsolute, List.head?_nil, closed]
    exact location_append_slash notEmpty

/-! ### Absolute forms -/

theorem filter_onward (path : Path) :
    path.onward.filter (· != .here) = path.onward := by
  rw [List.filter_eq_self]
  intro component member
  obtain ⟨segment, _, _, rfl⟩ := isStep_of_mem member
  rw [componentOf]
  split
  · rfl
  · rfl

theorem location_slashed
    (absolute : path.isAbsolute = true) :
    path.location = .root :: path.onward := by
  obtain ⟨body, rfl⟩ := slashed_of_isAbsolute absolute
  rw [location_eq, headComponents, head_slash]
  rfl

/-- What does not begin at the root loses its leading dot, if it has one. -/
theorem filter_location_relative
    (relative : path.isAbsolute = false) :
    path.location.filter (· != .here) = path.onward := by
  have notRoot : path.head ≠ [slash] := by
    intro isRoot
    have begins := congrArg List.head? (path.head_append_body)
    rw [isRoot] at begins
    rw [isAbsolute, ← begins] at relative
    cases relative
  have whole : path.location = path.headComponents ++ path.onward := location_eq path
  rw [whole, List.filter_append, filter_onward, headComponents, if_neg notRoot]
  split
  · rfl
  · rfl

/-- An absolute form takes the steps of its path, from the root or from where one is. -/
theorem exists_base_of_absoluteFrom?
    (currentAbsolute : current.isAbsolute = true)
    (form : absoluteFrom? current path = some full) :
    full.isAbsolute = true ∧
      ∃ base : Path, (base.location = [.root] ∨ base = current) ∧
        full.location = (base.joinComponents path.onward).location := by
  rw [absoluteFrom?] at form
  split at form
  · cases form
  -- The base is a slash, or two of them, or the current directory.
  obtain ⟨base, absolute, begins, same⟩ : ∃ base : Path, base.isAbsolute = true ∧
      (base.location = [.root] ∨ base = current) ∧
      (if path.isAbsolute then
        if (path.bytes.take 2 == [slash, slash]) && path.bytes[2]? != some slash then
          joinComponents ⟨[slash, slash]⟩ ((path.location.filter (· != .here)).drop 1)
        else
          joinComponents ⟨[]⟩ (path.location.filter (· != .here))
      else
        joinComponents current (path.location.filter (· != .here))) =
          base.joinComponents path.onward := by
    by_cases absolute : path.isAbsolute = true
    · have kept : path.location.filter (· != .here) = .root :: path.onward := by
        rw [location_slashed absolute, List.filter_cons_of_pos rfl, filter_onward]
      rw [if_pos absolute, kept]
      split
      · exact ⟨⟨[slash, slash]⟩, rfl, Or.inl rfl, rfl⟩
      · exact ⟨⟨[slash]⟩, rfl, Or.inl rfl, rfl⟩
    · rw [if_neg absolute, filter_location_relative (Bool.eq_false_iff.mpr absolute)]
      exact ⟨current, currentAbsolute, Or.inr rfl, rfl⟩
  simp only [same] at form
  have goesOn := isAbsolute_joinComponents absolute path.onward
  split at form
  · cases form
    exact ⟨isAbsolute_join goesOn _, base, begins, location_join_empty _⟩
  · cases form
    exact ⟨goesOn, base, begins, rfl⟩

/-- Two dots end an absolute form exactly if they end the path, unless they end the current
directory. -/
theorem getLast?_location_absoluteFrom?
    (currentAbsolute : current.isAbsolute = true)
    (currentEnds : current.location.getLast? ≠ some .up)
    (form : absoluteFrom? current path = some full) :
    full.location.getLast? = some .up ↔ path.location.getLast? = some .up := by
  obtain ⟨_, base, begins, same⟩ := exists_base_of_absoluteFrom? currentAbsolute form
  have whole : path.location = path.headComponents ++ path.onward := location_eq path
  rw [same, whole]
  cases taken : path.onward using List.reverseRecOn with
  | nil =>
      constructor
      · intro ends
        rcases begins with isRoot | isCurrent
        · change base.location.getLast? = _ at ends
          rw [isRoot] at ends
          cases ends
        · subst isCurrent
          exact absurd ends currentEnds
      · intro ends
        rw [List.append_nil, headComponents] at ends
        split at ends
        · cases ends
        · split at ends
          · cases ends
          · cases ends
  | append_singleton others last =>
      have member : last ∈ path.onward := by
        rw [taken]
        exact List.mem_concat_self
      rw [joinComponents_concat, getLast?_location_join (isStep_of_mem member),
        ← List.append_assoc, List.getLast?_concat]

/-! ### The end of an absolute path -/

theorem isAbsolute_parent
    (absolute : path.isAbsolute = true)
    (isParent : path.parent? = some parent) :
    parent.isAbsolute = true := by
  obtain ⟨body, rfl⟩ := slashed_of_isAbsolute absolute
  have notDot : ¬ ([slash] : Bytes) = [dot] := by decide
  rw [parent?, head_slash, if_neg notDot] at isParent
  split at isParent
  · cases isParent
  · cases isParent
    rfl

/-- An absolute path below the root has no name exactly if it ends with two dots. -/
theorem fileName?_eq_none_iff
    (absolute : path.isAbsolute = true)
    (isParent : path.parent? = some parent) :
    path.fileName? = none ↔ path.location.getLast? = some .up := by
  have somewhere : parent.location ≠ [] := by
    apply location_ne_nil
    intro empty
    have begins := isAbsolute_parent absolute isParent
    rw [isAbsolute, empty] at begins
    cases begins
  have whole := location_slashed absolute
  rw [location_parent isParent, whole] at somewhere
  cases taken : path.onward using List.reverseRecOn with
  | nil =>
      rw [taken] at somewhere
      exact absurd rfl somewhere
  | append_singleton others last =>
      have member : last ∈ path.onward := by
        rw [taken]
        exact List.mem_concat_self
      obtain ⟨segment, _, _, rfl⟩ := isStep_of_mem member
      rw [fileName?, whole, taken, ← List.cons_append, List.getLast?_concat]
      by_cases isUp : segment = [dot, dot]
      · simp [componentOf, isUp]
      · simp [componentOf, isUp]

/-- A path that begins with a slash has no mark to lose. -/
theorem plain_of_isAbsolute
    (absolute : path.isAbsolute = true) :
    path.plain = path := by
  obtain ⟨body, rfl⟩ := slashed_of_isAbsolute absolute
  have first : Utf8.announcedLength slash = 1 := by decide
  have noNetworkMark : Text.afterPrefix? networkMark (Path.mk (slash :: body)).shown = none := by
    rw [shown, Utf8.decodeLossy, Utf8.pieces_cons_one first]
    rfl
  have noMark : Text.afterPrefix? extendedMark (Path.mk (slash :: body)).shown = none := by
    rw [shown, Utf8.decodeLossy, Utf8.pieces_cons_one first]
    rfl
  rw [plain, noNetworkMark, noMark]

end Path

end DetachedTasks
