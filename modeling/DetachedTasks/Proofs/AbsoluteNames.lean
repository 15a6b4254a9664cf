import DetachedTasks.Proofs.ParentPlaces
import DetachedTasks.Proofs.SiblingFiles

/-!
# Absolute names

The components of a path spell an absolute name, whatever stands on the way.  A path that can
be resolved leads to the name that it spells.  So each call on a POSIX tree changes only
the name that its path spells, the names above it or the names below it.
-/

namespace DetachedTasks

namespace Path

/-- The head of a path adds no segment. -/
theorem segments_bytes (path : Path) :
    segments path.bytes = segments path.body := by
  rcases path.begins with ⟨body, rfl⟩ | ⟨body, rfl, opens⟩ | ⟨body, rfl, bare⟩
  · have behind : (Path.mk (slash :: body)).body = body := by
      rw [Path.body, head_slash]
      rfl
    have cut := Text.splitOn_append_cons slash [] body
    rw [List.nil_append] at cut
    rw [behind, segments, cut]
    rfl
  · have behind : (Path.mk (dot :: body)).body = body := by
      rw [Path.body, head_dot opens]
      rfl
    rw [behind]
    rcases opens with nothing | slashed
    · subst nothing
      rfl
    · cases body with
      | nil => rfl
      | cons first rest =>
          cases slashed
          have cut := Text.splitOn_append_cons slash [dot] rest
          have cutRest := Text.splitOn_append_cons slash [] rest
          rw [List.singleton_append] at cut
          rw [List.nil_append] at cutRest
          rw [segments, segments, cut, cutRest]
          rfl
  · have behind : (Path.mk body).body = body := by
      rw [Path.body, head_bare bare]
      rfl
    rw [behind]

end Path

/-- What two steps come to that succeed one after the other. -/
theorem ok_of_bind
    {step : Except ε α}
    {next : α → Except ε β}
    {result : β}
    (ended : (step >>= next) = .ok result) :
    ∃ value, step = .ok value ∧ next value = .ok result := by
  cases step with
  | ok value => exact ⟨value, rfl, ended⟩
  | error fault => cases ended

namespace Posix

/-- One component further, by names alone. -/
def goTo
    (names : List Bytes) : Component → List Bytes
  | .root => []
  | .here => names
  | .up => names.dropLast
  | .name bytes => names ++ [bytes]

/-- The absolute name that a path spells. -/
def namesAt
    (system : Posix)
    (path : Path) : List Bytes :=
  path.location.foldl goTo (namesOf system.currentDirectory)

/-- The absolute name of a place.  A removed directory keeps its name. -/
def nameOf
    (system : Posix) : Place → List Bytes
  | .named names => names
  | .removed => namesOf system.currentDirectory

/-- A tree that holds everything that another one holds. -/
structure Extends
    (system later : Posix) : Prop where
  entries : ∀ names entry,
    system.entries.lookup names = some entry → later.entries.lookup names = some entry
  currentDirectory : later.currentDirectory = system.currentDirectory
  stranded : later.stranded = system.stranded

section Resolution

variable {system later : Posix} {path : Path} {place next directory : Place}

/-! ### What a path spells -/

/-- A plain name behind a path is one more name behind its absolute name. -/
theorem namesAt_join
    {segment : Bytes}
    (plain : Path.IsName segment)
    (system : Posix)
    (base : Path) :
    system.namesAt (base.join ⟨segment⟩) = system.namesAt base ++ [segment] := by
  rw [namesAt, Path.location_join plain, List.foldl_append]
  rfl

/-- The absolute name of a path is what its segments make of the place where it starts. -/
theorem namesAt_eq
    (system : Posix)
    (path : Path) :
    system.namesAt path =
      ((Path.segments path.bytes).map Path.componentOf).foldl goTo
        (system.nameOf (system.start path)) := by
  have fromHere : path.isAbsolute = false →
      system.nameOf (system.start path) = namesOf system.currentDirectory := by
    intro relative
    rw [start, relative]
    cases system.stranded <;> rfl
  rw [Path.segments_bytes]
  rcases path.begins with ⟨body, rfl⟩ | ⟨body, rfl, opens⟩ | ⟨body, rfl, bare⟩
  · rw [namesAt, Path.location_eq, Path.headComponents, Path.head_slash]
    rfl
  · have different : ([Path.dot] : Bytes) ≠ [Path.slash] := by decide
    rw [fromHere rfl, namesAt, Path.location_eq, Path.headComponents, Path.head_dot opens,
      if_neg different]
    rfl
  · have relative : (Path.mk body).isAbsolute = false := by
      cases body with
      | nil => rfl
      | cons first rest => simpa [Path.isAbsolute] using (bare first rest rfl).1
    rw [fromHere relative, namesAt, Path.location_eq, Path.headComponents,
      Path.head_bare bare]
    rfl

/-- To enter a segment moves the name as the component of the segment says. -/
theorem nameOf_enter
    {segment : Bytes}
    (entered : system.enter place segment = .ok next) :
    system.nameOf next =
      if Path.isVoid segment then system.nameOf place
      else goTo (system.nameOf place) (Path.componentOf segment) := by
  have upNotVoid : Path.isVoid [Path.dot, Path.dot] = false := rfl
  cases enters_of_enter entered with
  | remain void => rw [if_pos void]
  | leave => rfl
  | stay _ void => rw [if_pos void]
  | up => rfl
  | down _ notVoid notUp =>
      rw [notVoid, if_neg Bool.false_ne_true, Path.componentOf, if_neg notUp]
      rfl

/-- A walk moves the name from segment to segment. -/
theorem nameOf_walk
    {segments : List Bytes}
    {last : Place}
    (walked : system.walk place segments = .ok last) :
    system.nameOf last =
      ((segments.filter (!Path.isVoid ·)).map Path.componentOf).foldl goTo
        (system.nameOf place) := by
  induction segments generalizing place with
  | nil =>
      cases walked
      rfl
  | cons segment segments inductionHypothesis =>
      rw [walk, List.foldlM_cons] at walked
      obtain ⟨next, entered, walked⟩ := ok_of_bind walked
      have further := nameOf_enter entered
      rw [inductionHypothesis walked, further]
      cases void : Path.isVoid segment <;> simp [void]

/-- A path that can be resolved leads to the name that it spells. -/
theorem nameOf_resolve
    (resolved : system.resolve path = .ok place) :
    system.nameOf place = system.namesAt path := by
  rw [resolve] at resolved
  cases refused : refusal? path with
  | some fault => rw [refused] at resolved; cases resolved
  | none =>
      rw [refused] at resolved
      rw [nameOf_walk resolved, namesAt_eq]
      rfl

/-- What is found at a path stands at its absolute name, unless the current directory was
removed. -/
theorem entryAt_ok
    {entry : Entry}
    (found : system.entryAt path = .ok (place, entry)) :
    system.resolve path = .ok place ∧
      ((place = .removed ∧ entry = .directory) ∨
        place = .named (system.namesAt path) ∧
          system.entries.lookup (system.namesAt path) = some entry) := by
  rw [entryAt] at found
  obtain ⟨reached, resolved, found⟩ := ok_of_bind found
  have spelled := nameOf_resolve resolved
  cases reached with
  | removed =>
      cases found
      exact ⟨resolved, Or.inl ⟨rfl, rfl⟩⟩
  | named names =>
      simp only [nameOf] at spelled
      subst spelled
      cases held : system.entries.lookup (system.namesAt path) with
      | none =>
          simp only [held] at found
          cases found
      | some other =>
          simp only [held] at found
          cases found
          exact ⟨resolved, Or.inr ⟨rfl, rfl⟩⟩

/-! ### The last segment -/

/-- All of a path but its last segment leads to a directory. -/
structure Reaches
    (system : Posix)
    (path : Path)
    (directory : Place)
    (last : Bytes) : Prop where
  accepted : refusal? path = none
  walked : ∃ before trail,
    Text.splitOn Path.slash path.bytes = before ++ last :: trail ∧
      (∀ piece ∈ trail, piece = []) ∧
      system.walk (system.start path) (before ++ [[]]) = .ok directory
  notVoid : Path.isVoid last = false
  notUp : last ≠ [Path.dot, Path.dot]

/-- The target of a path is a name in a directory that the path leads to. -/
theorem reaches_of_target
    {last : Bytes}
    {slashed : Bool}
    (seen : system.target path = .ok (.name directory last slashed)) :
    system.Reaches path directory last := by
  rw [target] at seen
  cases refused : refusal? path with
  | some fault => rw [refused] at seen; cases seen
  | none =>
      rw [refused] at seen
      simp only at seen
      cases pieces :
          (Text.dropEndWhile List.isEmpty (Text.splitOn Path.slash path.bytes)).reverse with
      | nil => rw [pieces] at seen; cases seen
      | cons piece before =>
          rw [pieces] at seen
          have kept :
              Text.dropEndWhile List.isEmpty (Text.splitOn Path.slash path.bytes) =
                before.reverse ++ [piece] := by
            rw [← List.reverse_cons, ← pieces, List.reverse_reverse]
          have notEmpty : piece.isEmpty = false := by
            apply Text.not_of_getLast?_dropEndWhile
            rw [kept, List.getLast?_concat]
          have whole :=
            Text.dropEndWhile_append List.isEmpty (Text.splitOn Path.slash path.bytes)
          rw [kept, List.append_assoc, List.singleton_append] at whole
          obtain ⟨reached, walked, seen⟩ := ok_of_bind seen
          by_cases here : piece = [Path.dot]
          · simp only [here, if_true] at seen
            cases seen
          · by_cases up : piece = [Path.dot, Path.dot]
            · subst up
              cases seen
            · simp only [here, up, if_false] at seen
              cases seen
              refine ⟨refused, ⟨before.reverse, _, whole.symm, ?_, walked⟩, ?_, up⟩
              · intro other member
                have passes := List.all_eq_true.mp List.all_takeWhile other
                  (List.mem_reverse.mp member)
                exact List.isEmpty_iff.mp passes
              · simp [Path.isVoid, notEmpty, here]

/-- What stands under the last segment of a path stands where the path spells. -/
theorem Reaches.lookupIn_ok
    {last : Bytes}
    (reaches : system.Reaches path directory last)
    {names : List Bytes}
    {held : Option Entry}
    (looked : system.lookupIn directory last = .ok (names, held)) :
    names = system.namesAt path ∧ held = system.entries.lookup (system.namesAt path) ∧
      ∃ above, directory = .named above ∧ names = above ++ [last] ∧
        ¬ longestName < last.length := by
  cases directory with
  | removed => cases looked
  | named above =>
      rw [lookupIn] at looked
      split at looked
      · cases looked
      · rename_i short
        cases looked
        obtain ⟨before, trail, pieces, empty, walked⟩ := reaches.walked
        have spelled := nameOf_walk walked
        have noTrail : trail.filter (!Path.isVoid ·) = [] := by
          rw [List.filter_eq_nil_iff]
          intro piece member
          rw [empty piece member]
          decide
        have same : above ++ [last] = system.namesAt path := by
          rw [namesAt_eq, Path.segments, pieces]
          change above = _ at spelled
          rw [List.filter_append, List.filter_cons, noTrail]
          simp only [reaches.notVoid, Bool.not_false, if_true, List.map_append,
            List.foldl_append, List.map_cons, List.map_nil, List.foldl_cons, List.foldl_nil,
            Path.componentOf, reaches.notUp, if_false, goTo]
          rw [spelled, List.filter_append]
          simp [Path.isVoid]
        rw [same]
        exact ⟨rfl, rfl, above, rfl, same.symm, short⟩

/-- A walk along two stretches is a walk along the second from where the first one ends. -/
theorem walk_append
    (system : Posix)
    (place : Place)
    (first second : List Bytes) :
    system.walk place (first ++ second) =
      (system.walk place first).bind fun last => system.walk last second :=
  List.foldlM_append

/-- Empty segments lead nowhere else, in a directory. -/
theorem walk_empties
    {names : List Bytes}
    (stands : system.entries.lookup names = some .directory)
    {trail : List Bytes}
    (empty : ∀ piece ∈ trail, piece = []) :
    system.walk (.named names) trail = .ok (.named names) := by
  induction trail with
  | nil => rfl
  | cons piece trail inductionHypothesis =>
      have first := empty piece List.mem_cons_self
      subst first
      rw [walk, List.foldlM_cons]
      simp only [enter, stands]
      exact inductionHypothesis fun other member => empty other (List.mem_cons_of_mem _ member)

/-- A path is resolved through its last segment; nothing but slashes may follow. -/
theorem Reaches.resolve_eq
    {last : Bytes}
    (reaches : system.Reaches path directory last) :
    ∃ trail, (∀ piece ∈ trail, piece = []) ∧
      system.resolve path =
        (system.enter directory last).bind fun next => system.walk next trail := by
  obtain ⟨before, trail, pieces, empty, walked⟩ := reaches.walked
  refine ⟨trail, empty, ?_⟩
  rw [walk_concat] at walked
  obtain ⟨place, reached, walked⟩ := ok_of_bind walked
  obtain ⟨same, _⟩ := enter_empty walked
  subst same
  rw [resolve, reaches.accepted]
  simp only [pieces, walk_append, reached]
  rw [Except.bind, walk, List.foldlM_cons]
  rfl

/-- What a path leads to is a directory. -/
theorem Reaches.isDirectory
    {above : List Bytes}
    {last : Bytes}
    (reaches : system.Reaches path (.named above) last) :
    system.entries.lookup above = some .directory := by
  obtain ⟨before, _, _, _, walked⟩ := reaches.walked
  rw [walk_concat] at walked
  obtain ⟨place, reached, walked⟩ := ok_of_bind walked
  obtain ⟨same, stands⟩ := enter_empty walked
  exact stands above same

/-! ### A tree that grows -/

/-- Where more stands than before the old ways still lead to the same places. -/
theorem walk_of_extends
    (extended : system.Extends later)
    {segments : List Bytes}
    (walked : system.walk place segments = .ok next) :
    later.walk place segments = .ok next := by
  refine walk_of_enter (fun place segment next entered => ?_) walked
  refine Enters.enter_eq ((enters_of_enter entered).transfer extended.currentDirectory ?_ ?_)
  · exact fun names => extended.entries names .directory
  · intro names entry _ stood
    rw [extended.entries names entry stood]
    exact Option.some_ne_none _

/-- A path still leads where it led when more stands than before. -/
theorem Reaches.extend
    {last : Bytes}
    (reaches : system.Reaches path directory last)
    (extended : system.Extends later) :
    later.Reaches path directory last where
  accepted := reaches.accepted
  walked := by
    obtain ⟨before, trail, pieces, empty, walked⟩ := reaches.walked
    have sameStart : later.start path = system.start path := by
      rw [start, start, extended.currentDirectory, extended.stranded]
    refine ⟨before, trail, pieces, empty, ?_⟩
    rw [sameStart]
    exact walk_of_extends extended walked
  notVoid := reaches.notVoid
  notUp := reaches.notUp

/-- Put a directory at an absolute name. -/
def storeDirectory
    (system : Posix)
    (names : List Bytes) : Posix :=
  { system with entries := system.entries.insert names .directory }

/-- A new directory stands at its name, and everything else is as before. -/
@[simp]
theorem lookup_storeDirectory
    (system : Posix)
    (names others : List Bytes) :
    (system.storeDirectory names).entries.lookup others =
      if others = names then some .directory else system.entries.lookup others :=
  EntryMap.lookup_insert _ _ _ _

@[simp]
theorem namesAt_storeDirectory
    (system : Posix)
    (names : List Bytes)
    (path : Path) :
    (system.storeDirectory names).namesAt path = system.namesAt path := rfl

/-- A directory at a free name takes nothing away. -/
theorem extends_storeDirectory
    {names : List Bytes}
    (vacant : system.entries.lookup names = none) :
    system.Extends (system.storeDirectory names) where
  entries := by
    intro other entry held
    have different : other ≠ names := by
      intro same
      rw [same, vacant] at held
      cases held
    rw [lookup_storeDirectory, if_neg different]
    exact held
  currentDirectory := rfl
  stranded := rfl

end Resolution

end Posix

end DetachedTasks
