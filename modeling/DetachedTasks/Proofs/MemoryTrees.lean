import DetachedTasks.Proofs.StorageTrees

/-!
# Trees in memory

To write a file and to make one directory both ask whether the parent is a directory.  To make
a directory with all that lies above it asks only whether the path itself is a file, and keeps
what stands on the way.  The files in memory are therefore a tree exactly as long as no
directory is made below a file.
-/

namespace DetachedTasks

/-! ### What stands above -/

/-- A proper start of a place lies at or above the place one step up. -/
theorem isPrefix_dropLast
    {α : Type}
    {above place : List α}
    (isAbove : above <+: place)
    (proper : above ≠ place) :
    above <+: place.dropLast := by
  obtain ⟨below, shape⟩ := isAbove
  subst shape
  have notEmpty : below ≠ [] := by
    intro nothing
    rw [nothing, List.append_nil] at proper
    exact proper rfl
  rw [List.dropLast_append_of_ne_nil notEmpty]
  exact List.prefix_append _ _

/-- What stands in a map is one of its entries. -/
theorem EntryMap.exists_mem_of_lookup
    {Place : Type}
    [DecidableEq Place]
    {entries : EntryMap Place}
    {place : Place}
    (stands : entries.lookup place ≠ none) :
    ∃ entry, (place, entry) ∈ entries.entries := by
  rw [EntryMap.lookup, ne_eq, Option.map_eq_none_iff] at stands
  obtain ⟨⟨other, entry⟩, found⟩ := Option.ne_none_iff_exists'.mp stands
  have same : other = place := by simpa using List.find?_some found
  exact ⟨entry, same ▸ List.mem_of_find?_eq_some found⟩

/-- Whether a map is a tree can be checked entry by entry. -/
theorem EntryMap.isTree_of_all
    {α : Type}
    [DecidableEq α]
    {entries : EntryMap (List α)}
    {roots : Nat}
    (checked : ∀ pair ∈ entries.entries, roots < pair.1.length →
      entries.lookup pair.1.dropLast = some .directory) :
    entries.IsTree roots := by
  intro place long stands
  obtain ⟨entry, member⟩ := exists_mem_of_lookup stands
  exact checked (place, entry) member long

namespace Memory

variable {memory : Memory} {path : Path} {above : Location}

/-- Whatever stands at a path stands in a directory, unless the parent of the path is the
empty one. -/
def IsTree (memory : Memory) : Prop :=
  ∀ path parent, memory.entryAt path ≠ none → path.parent? = some parent →
    parent.bytes ≠ [] → memory.entryAt parent = some .directory

/-- What is a tree by its places is one by its paths. -/
theorem isTree_of_entries
    (tree : memory.entries.IsTree 1) :
    memory.IsTree := by
  intro path parent stands isParent notEmpty
  have up := Path.location_parent isParent
  have somewhere := Path.location_ne_nil notEmpty
  rw [up] at somewhere
  have long : 1 < path.location.length := by
    have positive := List.length_pos_iff.mpr somewhere
    rw [List.length_dropLast] at positive
    omega
  rw [entryAt, up]
  exact tree path.location long stands

/-- In a tree there are only directories above what stands somewhere. -/
theorem IsTree.isDirectory_above
    (tree : memory.IsTree)
    (stands : memory.entryAt path ≠ none)
    (isAbove : above <+: path.location)
    (notEmpty : above ≠ [])
    (proper : above ≠ path.location) :
    memory.entries.lookup above = some .directory := by
  induction steps : path.location.length generalizing path with
  | zero =>
      have nothing := List.length_eq_zero_iff.mp steps
      rw [nothing, List.prefix_nil] at isAbove
      exact absurd isAbove notEmpty
  | succ steps' inductionHypothesis =>
      have stepUp := isPrefix_dropLast isAbove proper
      cases isParent : path.parent? with
      | none =>
          have short := Path.length_location_of_parent? isParent
          have nothing : path.location.dropLast = [] := by
            apply List.length_eq_zero_iff.mp
            rw [List.length_dropLast]
            omega
          rw [nothing, List.prefix_nil] at stepUp
          exact absurd stepUp notEmpty
      | some parent =>
          have up := Path.location_parent isParent
          rw [← up] at stepUp
          have named : parent.bytes ≠ [] := by
            intro nothing
            have nowhere : parent.location = [] := by
              rcases parent with ⟨bytes⟩
              subst nothing
              rfl
            rw [nowhere, List.prefix_nil] at stepUp
            exact notEmpty stepUp
          have parentStands := tree path parent stands isParent named
          by_cases same : above = parent.location
          · rw [same]
            exact parentStands
          · apply inductionHypothesis
              (by rw [parentStands]; exact Option.some_ne_none _) stepUp same
            rw [up, List.length_dropLast, steps]
            rfl

/-- In a tree there is nothing at a path or below where nothing stands. -/
theorem IsTree.vacant_within
    (tree : memory.IsTree)
    {directory : Path}
    (somewhere : directory.location ≠ [])
    (vacant : memory.entryAt directory = none)
    (within : path.isWithin directory = true) :
    memory.entryAt path = none := by
  rw [Path.isWithin, List.isPrefixOf_iff_prefix] at within
  by_cases same : directory.location = path.location
  · rw [entryAt, ← same]
    exact vacant
  · by_contra stands
    have isDirectory := tree.isDirectory_above stands within somewhere same
    rw [entryAt, isDirectory] at vacant
    cases vacant

end Memory

/-! ### One call -/

/-- The fault that something has ended with. -/
def FileFault.of? {α : Type} : Except FileFault α → Option FileFault
  | .error fault => some fault
  | .ok _ => none

/-- The fault that a call answers with.  A question about what stands at a path has none. -/
def FileCall.fault? : (call : FileCall) → call.Answer → Option FileFault
  | .readText _, outcome => FileFault.of? outcome
  | .read _, outcome => FileFault.of? outcome
  | .readFrom _ _, outcome => FileFault.of? outcome
  | .write _ _, outcome => FileFault.of? outcome
  | .createDirectories _, outcome => FileFault.of? outcome
  | .createDirectory _, outcome => FileFault.of? outcome
  | .removeTree _, outcome => FileFault.of? outcome
  | .removeFile _, outcome => FileFault.of? outcome
  | .exists _, _ => none
  | .isFile _, _ => none
  | .isDirectory _, _ => none
  | .absolute _, outcome => FileFault.of? outcome

/-- Making a directory below a file. -/
def FileCall.GoesThroughFile
    (memory : Memory) : FileCall → Prop
  | .createDirectories path =>
      ∃ above held, above <+: path.location ∧ above ≠ path.location ∧ above ≠ [] ∧
        memory.entries.lookup above = some (.file held)
  | _ => False

namespace Memory

variable {memory : Memory} {path : Path} {place : Location}

theorem settle_of_fault
    {step : Except FileFault Memory}
    {fault : FileFault}
    (failed : FileFault.of? (memory.settle step).1 = some fault) :
    (memory.settle step).2 = memory := by
  cases step with
  | ok next => cases failed
  | error other => rfl

/-- A call that fails leaves everything as it was. -/
theorem answer_of_fault
    {call : FileCall}
    {fault : FileFault}
    (failed : call.fault? (memory.answer call).1 = some fault) :
    (memory.answer call).2 = memory := by
  cases call with
  | write path content => exact settle_of_fault failed
  | createDirectories path => exact settle_of_fault failed
  | createDirectory path =>
      simp only [answer] at failed ⊢
      cases outcome : memory.createDirectory path with
      | error other => rfl
      | ok both =>
          rw [outcome] at failed
          cases failed
  | removeTree path => exact settle_of_fault failed
  | removeFile path => exact settle_of_fault failed
  | _ => rfl

/-- Put an entry where a directory is above it, and no other entry in the place of a
directory. -/
theorem isTree_put
    (tree : memory.entries.IsTree 1)
    {entry : Entry}
    (grounded : 1 < path.location.length →
      memory.entries.lookup path.location.dropLast = some .directory)
    (kept : memory.entries.lookup path.location = some .directory → entry = .directory) :
    (memory.put path entry).entries.IsTree 1 := by
  intro place long stands
  have shorter : place.dropLast ≠ place := by
    intro same
    have lengths := congrArg List.length same
    rw [List.length_dropLast] at lengths
    omega
  have before : memory.entries.lookup place.dropLast = some .directory := by
    by_cases own : path.location = place
    · subst own
      exact grounded long
    · rw [lookup_put_of_ne own] at stands
      exact tree place long stands
  by_cases here : path.location = place.dropLast
  · rw [← here] at before ⊢
    rw [put, EntryMap.lookup_insert, if_pos rfl, kept before]
  · rw [lookup_put_of_ne here]
    exact before

theorem isTree_ensureDirectory
    (tree : memory.entries.IsTree 1)
    (free : ∀ above held, above <+: path.location → above ≠ path.location → above ≠ [] →
      memory.entries.lookup above ≠ some (.file held)) :
    (memory.ensureDirectory path).entries.IsTree 1 := by
  intro place long stands
  rcases memory.lookup_ensureDirectory_or path place.dropLast with
    same | ⟨_, _, isDirectory⟩
  · rw [same]
    rcases memory.lookup_ensureDirectory_or path place with kept | ⟨_, onTheWay, _⟩
    · rw [kept] at stands
      exact tree place long stands
    · -- A directory was made here, so something stands above it now, and it is no file.
      have shorter : place.dropLast.length < place.length := by
        rw [List.length_dropLast]
        omega
      have notEmpty : place.dropLast ≠ [] := by
        apply List.ne_nil_of_length_pos
        rw [List.length_dropLast]
        omega
      have isAbove := (List.dropLast_prefix place).trans onTheWay
      have proper : place.dropLast ≠ path.location := by
        intro equal
        have bound := onTheWay.length_le
        rw [← equal] at bound
        omega
      have standsAbove : memory.entries.lookup place.dropLast ≠ none := by
        rw [← same]
        exact lookup_foldl_fillVacant_ne_none (mem_lineage_of_isPrefix notEmpty isAbove) _
      cases found : memory.entries.lookup place.dropLast with
      | none => exact absurd found standsAbove
      | some entry =>
          cases entry with
          | directory => rfl
          | file held => exact absurd found (free _ held isAbove proper notEmpty)
  · exact isDirectory

theorem isTree_removeTree
    (tree : memory.entries.IsTree 1)
    (top : Location) :
    (memory.entries.eraseWhere top.isPrefixOf).IsTree 1 := by
  intro place long stands
  rw [EntryMap.lookup_eraseWhere] at stands ⊢
  by_cases erased : top.isPrefixOf place = true
  · rw [if_pos erased] at stands
    exact absurd rfl stands
  · rw [if_neg erased] at stands
    have spared : ¬ top.isPrefixOf place.dropLast = true := by
      intro below
      rw [List.isPrefixOf_iff_prefix] at below erased
      exact erased (below.trans (List.dropLast_prefix place))
    rw [if_neg spared]
    exact tree place long stands

theorem isTree_removeFile
    (tree : memory.entries.IsTree 1)
    {held : Bytes}
    (isFile : memory.entries.lookup place = some (.file held)) :
    (memory.entries.eraseWhere (· = place)).IsTree 1 := by
  intro other long stands
  rw [EntryMap.lookup_eraseWhere] at stands ⊢
  by_cases erased : other = place
  · rw [if_pos (decide_eq_true erased)] at stands
    exact absurd rfl stands
  · rw [if_neg (by simpa using erased)] at stands
    have isDirectory := tree other long stands
    have spared : other.dropLast ≠ place := by
      intro same
      rw [same, isFile] at isDirectory
      cases isDirectory
    rw [if_neg (by simpa using spared)]
    exact isDirectory

/-- A call that makes no directory below a file keeps a tree. -/
theorem isTree_answer
    (tree : memory.entries.IsTree 1)
    {call : FileCall}
    (direct : ¬ call.GoesThroughFile memory) :
    (memory.answer call).2.entries.IsTree 1 := by
  have becomes := memory.becomes_answer call
  generalize (memory.answer call).2 = later at becomes ⊢
  cases becomes with
  | same => exact tree
  | written noneMissing noDirectory =>
      refine isTree_put tree (lookup_dropLast noneMissing) fun isDirectory => ?_
      rw [Memory.isDirectory, entryAt, isDirectory] at noDirectory
      cases noDirectory
  | grown =>
      refine isTree_ensureDirectory tree ?_
      intro above held isAbove proper notEmpty isFile
      exact direct ⟨above, held, isAbove, proper, notEmpty, isFile⟩
  | made _ noneMissing => exact isTree_put tree (lookup_dropLast noneMissing) fun _ => rfl
  | pruned => exact isTree_removeTree tree _
  | removed isFile => exact isTree_removeFile tree isFile

/-- A call that makes a directory below a file of a tree leaves no tree. -/
theorem not_goesThroughFile
    (tree : memory.IsTree)
    {call : FileCall}
    (later : (memory.answer call).2.IsTree) :
    ¬ call.GoesThroughFile memory := by
  cases call with
  | createDirectories path =>
      rintro ⟨above, held, isAbove, proper, notEmpty, isFile⟩
      have somewhere : path.location ≠ [] := by
        intro nowhere
        rw [nowhere, List.prefix_nil] at isAbove
        exact notEmpty isAbove
      have contradicts : memory.entries.lookup above ≠ some .directory := by
        rw [isFile]
        intro impossible
        cases impossible
      rw [answer, createDirectories] at later
      by_cases stands : memory.isFile path = true
      · -- With a file below a file it was no tree before.
        have found : memory.entryAt path ≠ none := by
          intro vacant
          rw [Memory.isFile, vacant] at stands
          cases stands
        exact contradicts (tree.isDirectory_above found isAbove notEmpty proper)
      · rw [if_neg stands] at later
        have made : (memory.ensureDirectory path).entryAt path ≠ none :=
          lookup_foldl_fillVacant_ne_none
            (mem_lineage_of_isPrefix somewhere (List.prefix_refl _)) _
        have isDirectory := later.isDirectory_above made isAbove notEmpty proper
        rcases memory.lookup_ensureDirectory_or path above with same | ⟨vacant, _⟩
        · exact contradicts (same.symm.trans isDirectory)
        · rw [isFile] at vacant
          cases vacant
  | _ => exact id

/-! ### Any number of calls -/

/-- The files after some calls. -/
def answerAll
    (memory : Memory)
    (calls : List FileCall) : Memory :=
  calls.foldl (fun memory call => (memory.answer call).2) memory

theorem answerAll_concat
    (memory : Memory)
    (calls : List FileCall)
    (call : FileCall) :
    memory.answerAll (calls ++ [call]) = ((memory.answerAll calls).answer call).2 := by
  rw [answerAll, List.foldl_append]
  rfl

theorem isTree_new : new.entries.IsTree 1 := by
  intro place long stands
  rw [new, EntryMap.lookup_insert] at stands
  split at stands
  · rename_i isRoot
    rw [isRoot] at long
    exact absurd long (by decide)
  · exact absurd (EntryMap.lookup_empty place) stands

/-- Calls that make no directory below a file build a tree. -/
theorem isTree_answerAll
    {calls : List FileCall}
    (direct : ∀ earlier call, earlier ++ [call] <+: calls →
      ¬ call.GoesThroughFile (new.answerAll earlier)) :
    (new.answerAll calls).entries.IsTree 1 := by
  induction calls using List.reverseRecOn with
  | nil => exact isTree_new
  | append_singleton calls call inductionHypothesis =>
      rw [answerAll_concat]
      refine isTree_answer (inductionHypothesis ?_) (direct calls call (List.prefix_refl _))
      intro earlier other done
      exact direct earlier other (done.trans (List.prefix_append _ _))

/-- Whatever is called from the beginning on, the files are a tree after every call exactly
if no call makes a directory below a file, and a call that fails changes nothing. -/
theorem answerAll_isTree_iff
    (calls : List FileCall) :
    ((∀ earlier, earlier <+: calls → (new.answerAll earlier).IsTree) ↔
        ∀ earlier call, earlier ++ [call] <+: calls →
          ¬ call.GoesThroughFile (new.answerAll earlier)) ∧
      ∀ earlier call fault, earlier ++ [call] <+: calls →
        call.fault? ((new.answerAll earlier).answer call).1 = some fault →
        new.answerAll (earlier ++ [call]) = new.answerAll earlier := by
  refine ⟨⟨?_, ?_⟩, ?_⟩
  · intro trees earlier call done
    have before := trees earlier ((List.prefix_append _ _).trans done)
    have after := trees (earlier ++ [call]) done
    rw [answerAll_concat] at after
    exact not_goesThroughFile before after
  · intro direct earlier done
    apply isTree_of_entries
    apply isTree_answerAll
    intro before call member
    exact direct before call (member.trans done)
  · intro earlier call fault _ failed
    rw [answerAll_concat]
    exact answer_of_fault failed

/-- Not all calls build a tree: below a file a directory is made, and the file stays. -/
theorem not_isTree_answerAll :
    ¬ ∀ calls, (new.answerAll calls).IsTree := by
  intro trees
  have stands := trees
    [.write (.ofText "/a".toList) [], .createDirectories (.ofText "/a/b".toList)]
    (.ofText "/a/b".toList) (.ofText "/a".toList) (by decide) (by decide) (by decide)
  exact absurd stands (by decide)

end Memory

end DetachedTasks
