import DetachedTasks.Proofs.ParentPlaces
import DetachedTasks.Proofs.StorageFiles

/-!
# What a call in memory leaves alone

Every call changes only its own place, the places above it or the places below it.  A call
spares a place if that place is none of them.
-/

namespace DetachedTasks

/-- A call that does not change what stands at a place in memory. -/
def FileCall.Spares (place : Location) : FileCall → Prop
  | .write path _ => path.location ≠ place
  | .createDirectories path => ¬ place <+: path.location
  | .createDirectory path => path.location ≠ place
  | .removeTree path => ¬ path.location <+: place
  | .removeFile path => path.location ≠ place
  | _ => True

namespace Memory

variable {memory : Memory} {path : Path} {place : Location}

/-! ### The places above a path -/

/-- What is made on the way to a place lies on the way. -/
theorem mem_lineage
    {location : Location}
    (member : place ∈ lineage location) :
    place <+: location := by
  rw [lineage, List.mem_map] at member
  obtain ⟨index, _, same⟩ := member
  rw [← same]
  exact List.take_prefix _ _

/-- Filling one place leaves the others alone. -/
theorem lookup_fillVacant_of_ne
    {entries : EntryMap Location}
    {location : Location}
    (different : place ≠ location) :
    (fillVacant entries location).lookup place = entries.lookup place := by
  rw [fillVacant]
  split
  · rfl
  · rw [EntryMap.lookup_insert, if_neg different]

/-- Filling any number of places leaves the others alone. -/
theorem lookup_foldl_fillVacant
    {places : List Location}
    (absent : place ∉ places)
    (entries : EntryMap Location) :
    (places.foldl fillVacant entries).lookup place = entries.lookup place := by
  induction places generalizing entries with
  | nil => rfl
  | cons other places inductionHypothesis =>
      rw [List.mem_cons, not_or] at absent
      rw [List.foldl_cons, inductionHypothesis absent.2,
        lookup_fillVacant_of_ne absent.1]

/-- Directories are made on the way to a path and nowhere else. -/
theorem lookup_ensureDirectory
    (notAbove : ¬ place <+: path.location) :
    (memory.ensureDirectory path).entries.lookup place = memory.entries.lookup place := by
  apply lookup_foldl_fillVacant
  intro member
  exact notAbove (mem_lineage member)

/-- Every place on the way, but for the empty one, is among those that are made. -/
theorem mem_lineage_of_isPrefix
    {location : Location}
    (notEmpty : place ≠ [])
    (above : place <+: location) :
    place ∈ lineage location := by
  have positive : 0 < place.length := List.length_pos_iff.mpr notEmpty
  rw [lineage, List.mem_map]
  refine ⟨place.length - 1, ?_, ?_⟩
  · rw [List.mem_range]
    have bound := above.length_le
    omega
  · rw [Nat.sub_add_cancel positive]
    exact (List.prefix_iff_eq_take.mp above).symm

/-- A place that was filled is not vacant. -/
theorem lookup_fillVacant_self
    (entries : EntryMap Location) :
    (fillVacant entries place).lookup place ≠ none := by
  rw [fillVacant]
  cases found : entries.lookup place with
  | some entry =>
      simp only [found]
      exact Option.some_ne_none entry
  | none =>
      simp only [EntryMap.lookup_insert, if_true]
      exact Option.some_ne_none _

/-- What is filled with directories keeps what stood there. -/
theorem lookup_foldl_fillVacant_or
    (place : Location)
    (places : List Location)
    (entries : EntryMap Location) :
    (places.foldl fillVacant entries).lookup place = entries.lookup place ∨
      entries.lookup place = none ∧
        (places.foldl fillVacant entries).lookup place = some .directory := by
  induction places generalizing entries with
  | nil => exact Or.inl rfl
  | cons other places inductionHypothesis =>
      rw [List.foldl_cons]
      by_cases same : place = other
      · subst same
        have filled : (fillVacant entries place).lookup place = entries.lookup place ∨
            entries.lookup place = none ∧
              (fillVacant entries place).lookup place = some .directory := by
          rw [fillVacant]
          cases found : entries.lookup place with
          | some entry => exact Or.inl found
          | none => exact Or.inr ⟨rfl, by simp⟩
        rcases inductionHypothesis (fillVacant entries place) with kept | ⟨vacant, _⟩
        · rw [kept]
          exact filled
        · exact absurd vacant (lookup_fillVacant_self entries)
      · have kept : (fillVacant entries other).lookup place = entries.lookup place :=
          lookup_fillVacant_of_ne same
        rw [← kept]
        exact inductionHypothesis (fillVacant entries other)

/-- Directories are made where nothing stood. -/
theorem lookup_ensureDirectory_or
    (memory : Memory)
    (path : Path)
    (place : Location) :
    (memory.ensureDirectory path).entries.lookup place = memory.entries.lookup place ∨
      memory.entries.lookup place = none ∧ place <+: path.location ∧
        (memory.ensureDirectory path).entries.lookup place = some .directory := by
  by_cases above : place <+: path.location
  · rcases lookup_foldl_fillVacant_or place (lineage path.location) memory.entries with
      same | ⟨vacant, stands⟩
    · exact Or.inl same
    · exact Or.inr ⟨vacant, above, stands⟩
  · exact Or.inl (lookup_ensureDirectory above)

/-- On the way to a path something stands everywhere afterwards. -/
theorem lookup_foldl_fillVacant_ne_none
    {places : List Location}
    (member : place ∈ places)
    (entries : EntryMap Location) :
    (places.foldl fillVacant entries).lookup place ≠ none := by
  induction places generalizing entries with
  | nil => cases member
  | cons other places inductionHypothesis =>
      rw [List.foldl_cons]
      by_cases later : place ∈ places
      · exact inductionHypothesis later _
      · have first : place = other := (List.mem_cons.mp member).resolve_right later
        subst first
        rw [lookup_foldl_fillVacant later]
        exact lookup_fillVacant_self entries

/-- An entry that is put somewhere leaves all other places alone. -/
theorem lookup_put_of_ne
    {entry : Entry}
    (different : path.location ≠ place) :
    (memory.put path entry).entries.lookup place = memory.entries.lookup place := by
  rw [put, EntryMap.lookup_insert, if_neg different.symm]

/-! ### Calls -/

/-- What becomes of the files when a call is answered: nothing, or a single change that the
files allowed. -/
inductive Becomes (memory : Memory) : FileCall → Memory → Prop where
  | same {call : FileCall} :
      Becomes memory call memory
  | written
      {path : Path}
      {content : Bytes}
      (noneMissing : memory.missingParent? path = none)
      (noDirectory : memory.isDirectory path = false) :
      Becomes memory (.write path content) (memory.put path (.file content))
  | grown
      {path : Path}
      (noFile : memory.isFile path = false) :
      Becomes memory (.createDirectories path) (memory.ensureDirectory path)
  | made
      {path : Path}
      (vacant : memory.entryAt path = none)
      (noneMissing : memory.missingParent? path = none) :
      Becomes memory (.createDirectory path) (memory.put path .directory)
  | pruned
      {path : Path}
      (isDirectory : memory.entryAt path = some .directory) :
      Becomes memory (.removeTree path)
        ⟨memory.entries.eraseWhere path.location.isPrefixOf⟩
  | removed
      {path : Path}
      {content : Bytes}
      (isFile : memory.entryAt path = some (.file content)) :
      Becomes memory (.removeFile path) ⟨memory.entries.eraseWhere (· = path.location)⟩

/-- Whatever is called, the memory becomes what the call may make of it. -/
theorem becomes_answer
    (memory : Memory)
    (call : FileCall) :
    memory.Becomes call (memory.answer call).2 := by
  cases call with
  | write path content =>
      rw [answer]
      cases outcome : memory.write path content with
      | error fault => exact .same
      | ok next =>
          obtain ⟨noneMissing, noDirectory, rfl⟩ := write_ok_iff.mp outcome
          exact .written noneMissing noDirectory
  | createDirectories path =>
      rw [answer, createDirectories]
      split
      · exact .same
      · rename_i noFile
        exact .grown (Bool.eq_false_iff.mpr noFile)
  | createDirectory path =>
      rw [answer, createDirectory]
      cases vacant : memory.entryAt path with
      | some entry => exact .same
      | none =>
          cases noneMissing : memory.missingParent? path with
          | some parent => exact .same
          | none => exact .made vacant noneMissing
  | removeTree path =>
      rw [answer, removeTree]
      cases found : memory.entryAt path with
      | none => exact .same
      | some entry =>
          cases entry with
          | file content => exact .same
          | directory => exact .pruned found
  | removeFile path =>
      rw [answer, removeFile]
      cases found : memory.entryAt path with
      | none => exact .same
      | some entry =>
          cases entry with
          | directory => exact .same
          | file content => exact .removed found
  | _ => exact .same

/-- A call that spares a place leaves alone what stands there. -/
theorem lookup_answer
    (memory : Memory)
    {call : FileCall}
    (spares : call.Spares place) :
    (memory.answer call).2.entries.lookup place = memory.entries.lookup place := by
  have becomes := memory.becomes_answer call
  generalize (memory.answer call).2 = later at becomes ⊢
  cases becomes with
  | same => rfl
  | written => exact lookup_put_of_ne spares
  | grown => exact lookup_ensureDirectory spares
  | made => exact lookup_put_of_ne spares
  | @pruned path =>
      have apart : ¬ path.location.isPrefixOf place = true := by
        rw [List.isPrefixOf_iff_prefix]
        exact spares
      rw [EntryMap.lookup_eraseWhere, if_neg apart]
  | @removed path =>
      have apart : ¬ decide (place = path.location) = true := by
        rw [decide_eq_true_iff]
        exact Ne.symm spares
      rw [EntryMap.lookup_eraseWhere, if_neg apart]

/-- Making directories on the way to a path fills vacant places on the way, and touches no
other. -/
theorem lookup_createDirectories
    (memory : Memory)
    (path : Path)
    (place : Location) :
    (memory.answer (.createDirectories path)).2.entries.lookup place =
        memory.entries.lookup place ∨
      memory.entries.lookup place = none ∧ place <+: path.location ∧
        (memory.answer (.createDirectories path)).2.entries.lookup place =
          some .directory := by
  rw [answer, createDirectories]
  split
  · exact Or.inl rfl
  · exact lookup_ensureDirectory_or memory path place

/-- What a call that made a directory, or found its name taken, has done. -/
theorem createDirectory_ok
    {made : Bool}
    (answered : (memory.answer (.createDirectory path)).1 = .ok made) :
    (made = true ∧ memory.entryAt path = none ∧
        (memory.answer (.createDirectory path)).2 = memory.put path .directory) ∨
      (made = false ∧ (memory.answer (.createDirectory path)).2 = memory) := by
  rw [answer, createDirectory] at answered ⊢
  cases found : memory.entryAt path with
  | some entry =>
      rw [found] at answered
      cases answered
      exact Or.inr ⟨rfl, rfl⟩
  | none =>
      rw [found] at answered
      cases missing : memory.missingParent? path with
      | some parent =>
          rw [missing] at answered
          cases answered
      | none =>
          rw [missing] at answered
          cases answered
          exact Or.inl ⟨rfl, rfl, rfl⟩

/-! ### Files placed from outside -/

/-- To put a file changes its own place and may make the directories above it. -/
theorem lookup_addFile
    (memory : Memory)
    (content : Bytes)
    (notAbove : ¬ place <+: path.location) :
    (memory.addFile path content).entries.lookup place = memory.entries.lookup place := by
  have different : path.location ≠ place := by
    intro same
    exact notAbove (same ▸ List.prefix_refl _)
  rw [addFile, lookup_put_of_ne different]
  cases found : path.parent? with
  | none => rfl
  | some parent =>
      apply lookup_ensureDirectory
      intro above
      apply notAbove
      rw [Path.location_parent found] at above
      exact above.trans (List.dropLast_prefix _)

/-- Appending to a file changes only what lies on the way to it. -/
theorem lookup_append
    (memory : Memory)
    (content : Bytes)
    (notAbove : ¬ place <+: path.location) :
    (memory.append path content).entries.lookup place = memory.entries.lookup place := by
  rw [append]
  split
  · exact lookup_addFile memory _ notAbove
  · exact lookup_addFile memory content notAbove

/-! ### Files in a directory -/

/-- A file with a plain name can be written in a directory, unless a directory has its
name. -/
theorem takes_of_isDirectory
    {directory : Path}
    {segment : Bytes}
    (plain : Path.IsName segment)
    (stands : memory.entryAt directory = some .directory)
    (noDirectory : memory.entryAt (directory.join ⟨segment⟩) ≠ some .directory) :
    (Sandbox.Storage.inMemory memory).takes (directory.join ⟨segment⟩) := by
  refine Sandbox.Storage.takes_inMemory.mpr ⟨?_, ?_⟩
  · rw [missingParent?, Option.filter_eq_none_iff]
    intro parent isParent
    have same : parent.location = directory.location := by
      rw [Path.location_parent isParent, Path.location_join plain, List.dropLast_concat]
    have isDirectory : memory.isDirectory parent = true := by
      rw [isDirectory, entryAt, same]
      exact beq_iff_eq.mpr stands
    rw [isDirectory]
    simp
  · rw [isDirectory]
    exact beq_eq_false_iff_ne.mpr noDirectory

/-! ### What stands in something -/

/-- Where no parent is missing, a directory stands one step up. -/
theorem lookup_dropLast
    (noneMissing : memory.missingParent? path = none)
    (long : 1 < path.location.length) :
    memory.entries.lookup path.location.dropLast = some .directory := by
  cases isParent : path.parent? with
  | none => exact absurd (Path.length_location_of_parent? isParent) (Nat.not_le.mpr long)
  | some parent =>
      have above := Path.location_parent isParent
      have notEmpty : parent.bytes.isEmpty = false := by
        rw [Bool.eq_false_iff]
        intro empty
        rw [List.isEmpty_iff] at empty
        have nowhere : parent.location = [] := by
          rcases parent with ⟨bytes⟩
          subst empty
          rfl
        rw [nowhere] at above
        have length := congrArg List.length above
        rw [List.length_dropLast, List.length_nil] at length
        omega
      rw [missingParent?, Option.filter_eq_none_iff] at noneMissing
      have stands : memory.isDirectory parent = true := by
        simpa [notEmpty] using noneMissing parent isParent
      rw [← above]
      exact beq_iff_eq.mp stands

/-- What stands at a place stands in something. -/
def IsGrounded
    (memory : Memory)
    (place : Location) : Prop :=
  memory.entries.lookup place.dropLast = none → memory.entries.lookup place = none

namespace IsGrounded

/-- An entry that is put down keeps a place grounded, if something stands above wherever it is
put at the place itself. -/
theorem put
    (grounded : memory.IsGrounded place)
    (stands : path.location = place → memory.entries.lookup place.dropLast ≠ none)
    (entry : Entry) :
    (memory.put path entry).IsGrounded place := by
  intro vacant
  by_cases same : path.location = place.dropLast
  · rw [Memory.put, same, EntryMap.lookup_insert, if_pos rfl] at vacant
    cases vacant
  · rw [lookup_put_of_ne same] at vacant
    rw [lookup_put_of_ne fun own => stands own vacant]
    exact grounded vacant

/-- A directory that is made with all above it keeps every place grounded. -/
theorem ensureDirectory
    (grounded : memory.IsGrounded place)
    (long : 1 < place.length)
    (path : Path) :
    (memory.ensureDirectory path).IsGrounded place := by
  intro vacant
  have notEmpty : place.dropLast ≠ [] := by
    apply List.ne_nil_of_length_pos
    rw [List.length_dropLast]
    exact Nat.sub_pos_of_lt long
  have notAbove : ¬ place.dropLast <+: path.location := fun above =>
    lookup_foldl_fillVacant_ne_none (mem_lineage_of_isPrefix notEmpty above) _ vacant
  rw [lookup_ensureDirectory notAbove] at vacant
  rw [lookup_ensureDirectory fun above => notAbove ((List.dropLast_prefix _).trans above)]
  exact grounded vacant

/-- A removal takes along whatever lies below, so every place stays grounded. -/
theorem removeTree
    (grounded : memory.IsGrounded place)
    (top : Location) :
    Memory.IsGrounded ⟨memory.entries.eraseWhere top.isPrefixOf⟩ place := by
  intro vacant
  rw [EntryMap.lookup_eraseWhere] at vacant ⊢
  by_cases above : top.isPrefixOf place = true
  · rw [if_pos above]
  · have apart : ¬ top.isPrefixOf place.dropLast = true := by
      intro below
      rw [List.isPrefixOf_iff_prefix] at above below
      exact above (below.trans (List.dropLast_prefix _))
    rw [if_neg apart] at vacant
    rw [if_neg above]
    exact grounded vacant

/-- To remove something other than what a place stands on keeps the place grounded. -/
theorem removeFile
    (grounded : memory.IsGrounded place)
    {other : Location}
    (different : other ≠ place.dropLast) :
    Memory.IsGrounded ⟨memory.entries.eraseWhere (· = other)⟩ place := by
  intro vacant
  rw [EntryMap.lookup_eraseWhere] at vacant ⊢
  have stays : ¬ decide (place.dropLast = other) = true := by
    rw [decide_eq_true_iff]
    exact different.symm
  rw [if_neg stays] at vacant
  rw [grounded vacant, ite_self]

/-- A call keeps what stands at a place on its ground, unless it removes a file there. -/
theorem answer
    (grounded : memory.IsGrounded place)
    (long : 1 < place.length)
    {call : FileCall}
    (spared : ∀ path, call = .removeFile path → path.location ≠ place.dropLast) :
    (memory.answer call).2.IsGrounded place := by
  have becomes := memory.becomes_answer call
  generalize (memory.answer call).2 = later at becomes ⊢
  -- Whatever is put at the place has a directory above it already.
  have above : ∀ {path : Path}, memory.missingParent? path = none →
      path.location = place → memory.entries.lookup place.dropLast ≠ none := by
    rintro path noneMissing rfl
    rw [lookup_dropLast noneMissing long]
    exact Option.some_ne_none _
  cases becomes with
  | same => exact grounded
  | written noneMissing => exact grounded.put (above noneMissing) _
  | grown => exact grounded.ensureDirectory long _
  | made _ noneMissing => exact grounded.put (above noneMissing) _
  | pruned => exact grounded.removeTree _
  | removed => exact grounded.removeFile (spared _ rfl)

end IsGrounded

end Memory

end DetachedTasks
