import DetachedTasks.Proofs.AbsoluteNames

/-!
# What a call on a tree leaves alone

A directory is made where nothing stands, at the name that its path spells.  Making a
directory with all above it only adds directories on the way.  Removal takes away a file at
its own name, or a directory with what lies below it, and nothing else.
-/

namespace DetachedTasks.Posix

variable {system later : Posix} {path : Path}

/-! ## Making directories -/

/-- What a directory that was made says of the tree before and after. -/
structure Makes
    (system : Posix)
    (path : Path)
    (later : Posix) : Prop where
  vacant : system.entries.lookup (system.namesAt path) = none
  grounded : system.entries.lookup (system.namesAt path).dropLast = some .directory
  stored : later = system.storeDirectory (system.namesAt path)
  absent : system.entryAt path = .error .noEntry
  found : later.entryAt path = .ok (.named (system.namesAt path), .directory)

/-- Once a path leads to a name in a directory, the entries alone say what stands at the path. -/
theorem entryAt_of_reaches
    {above : List Bytes}
    {last : Bytes}
    (reaches : system.Reaches path (.named above) last)
    (short : ¬ longestName < last.length) :
    (system.entries.lookup (above ++ [last]) = none →
        system.entryAt path = .error .noEntry) ∧
      (system.entries.lookup (above ++ [last]) = some .directory →
        system.entryAt path = .ok (.named (above ++ [last]), .directory)) := by
  obtain ⟨trail, empty, resolved⟩ := reaches.resolve_eq
  have entered :
      system.enter (.named above) last =
        match system.entries.lookup (above ++ [last]) with
        | none => .error .noEntry
        | some _ => .ok (.named (above ++ [last])) := by
    simp only [enter, reaches.isDirectory, reaches.notVoid, reaches.notUp, lookupIn, short,
      Bool.false_eq_true, if_false]
    cases system.entries.lookup (above ++ [last]) <;> rfl
  constructor
  · intro vacant
    rw [vacant] at entered
    rw [entered] at resolved
    rw [entryAt, resolved]
    rfl
  · intro stands
    rw [stands] at entered
    rw [entered, Except.bind, walk_empties stands empty] at resolved
    rw [entryAt, resolved]
    simp only [bind, Except.bind, stands]

/-- A successful making found its name free in a directory, and has put the directory just there.
-/
theorem makeDirectory_ok
    (made : system.makeDirectory path = .ok later) :
    system.Makes path later := by
  rw [makeDirectory] at made
  obtain ⟨target, seen, made⟩ := ok_of_bind made
  cases target with
  | root => cases made
  | here => cases made
  | up => cases made
  | name directory last slashed =>
      obtain ⟨⟨names, held⟩, looked, made⟩ := ok_of_bind made
      have reaches := reaches_of_target seen
      obtain ⟨spelled, stands, above, rfl, shape, short⟩ := reaches.lookupIn_ok looked
      subst spelled
      cases held with
      | some entry => cases made
      | none =>
          cases made
          have vacant := stands.symm
          have grown := reaches.extend (extends_storeDirectory vacant)
          have placed :
              (system.storeDirectory (system.namesAt path)).entries.lookup
                (system.namesAt path) = some .directory := by
            rw [lookup_storeDirectory, if_pos rfl]
          refine ⟨vacant, ?_, rfl, ?_, ?_⟩
          · rw [shape, List.dropLast_concat]
            exact reaches.isDirectory
          · apply (entryAt_of_reaches reaches short).1
            rw [← shape]
            exact vacant
          · rw [shape] at placed
            have found := (entryAt_of_reaches grown short).2
            rw [← shape] at found placed
            exact found placed

/-- A tree that has grown by directories on the way to a path, where nothing stood. -/
structure Grows
    (system : Posix)
    (path : Path)
    (later : Posix) : Prop where
  currentDirectory : later.currentDirectory = system.currentDirectory
  entries : ∀ names,
    later.entries.lookup names = system.entries.lookup names ∨
      system.entries.lookup names = none ∧ later.entries.lookup names = some .directory ∧
        ∃ above : Path, above.location <+: path.location ∧ system.namesAt above = names
  /-- What is new stands in a directory. -/
  grounded : ∀ names, system.entries.lookup names = none →
    later.entries.lookup names = some .directory →
    later.entries.lookup names.dropLast = some .directory

/-- Which name a path spells hangs on the current directory alone. -/
theorem namesAt_congr
    (same : later.currentDirectory = system.currentDirectory)
    (path : Path) :
    later.namesAt path = system.namesAt path := by
  rw [namesAt, namesAt, same]

namespace Grows

/-- A tree that nothing was done to has grown. -/
theorem refl
    (system : Posix)
    (path : Path) : system.Grows path system where
  currentDirectory := rfl
  entries := fun _ => Or.inl rfl
  grounded := by
    intro names vacant stands
    rw [vacant] at stands
    cases stands

/-- A directory stays. -/
theorem keeps
    (grown : system.Grows path later)
    {names : List Bytes}
    (stands : system.entries.lookup names = some .directory) :
    later.entries.lookup names = some .directory := by
  rcases grown.entries names with same | ⟨vacant, _⟩
  · exact same.trans stands
  · rw [vacant] at stands
    cases stands

/-- Growth goes on from tree to tree, so it follows through any number of steps. -/
theorem trans
    {last : Posix}
    (first : system.Grows path later)
    (second : later.Grows path last) :
    system.Grows path last where
  currentDirectory := second.currentDirectory.trans first.currentDirectory
  entries := by
    intro names
    rcases second.entries names with same | ⟨vacant, stands, above, isAbove, spelled⟩
    · rw [same]
      exact first.entries names
    · rcases first.entries names with sameFirst | ⟨_, standsFirst, _⟩
      · refine Or.inr ⟨sameFirst.symm.trans vacant, stands, above, isAbove, ?_⟩
        rw [← namesAt_congr first.currentDirectory]
        exact spelled
      · rw [vacant] at standsFirst
        cases standsFirst
  grounded := by
    intro names vacant stands
    rcases first.entries names with same | ⟨_, standsFirst, _⟩
    · exact second.grounded names (same.trans vacant) stands
    · exact second.keeps (first.grounded names vacant standsFirst)

/-- Making a directory that lies on the way to a path is growth on this way. -/
theorem ofMakes
    {above : Path}
    (isAbove : above.location <+: path.location)
    (made : system.Makes above later) :
    system.Grows path later := by
  obtain ⟨vacant, grounded, rfl, _, _⟩ := made
  refine ⟨rfl, ?_, ?_⟩
  · intro names
    by_cases same : names = system.namesAt above
    · subst same
      refine Or.inr ⟨vacant, ?_, above, isAbove, rfl⟩
      rw [lookup_storeDirectory, if_pos rfl]
    · refine Or.inl ?_
      rw [lookup_storeDirectory, if_neg same]
  · intro names wasVacant stands
    rw [lookup_storeDirectory] at stands
    by_cases same : names = system.namesAt above
    · rw [lookup_storeDirectory, same]
      split
      · rfl
      · exact grounded
    · rw [if_neg same, wasVacant] at stands
      cases stands

end Grows

/-- What is made before a path lies above it. -/
theorem location_of_mem_ancestors
    {depth : Nat}
    {above : Path}
    (member : above ∈ ancestors depth path) :
    above.location <+: path.location := by
  induction depth generalizing path with
  | zero =>
      obtain rfl := List.mem_singleton.mp member
      exact List.prefix_refl _
  | succ depth inductionHypothesis =>
      rw [ancestors] at member
      cases found : path.parent? with
      | none =>
          rw [found] at member
          obtain rfl := List.mem_singleton.mp member
          exact List.prefix_refl _
      | some parent =>
          rw [found] at member
          rcases List.mem_cons.mp member with rfl | higher
          · exact List.prefix_refl _
          · apply (inductionHypothesis higher).trans
            rw [Path.location_parent found]
            exact List.dropLast_prefix _

/-- What a lineage was brought to, whether all of it was made or not. -/
def brought (outcome : Except SystemFault Posix × Posix) : Posix :=
  match outcome.1 with
  | .ok final => final
  | .error _ => outcome.2

/-- However many directories are made on the way, and whichever of them fail, the tree only
grows. -/
theorem grows_makeAll
    {paths : List Path}
    (above : ∀ other ∈ paths, other.location <+: path.location) :
    system.Grows path (brought (system.makeAll paths)) := by
  induction paths generalizing system with
  | nil => exact .refl system path
  | cons first paths inductionHypothesis =>
      have aboveRest : ∀ other ∈ paths, other.location <+: path.location :=
        fun other member => above other (List.mem_cons_of_mem _ member)
      rw [makeAll]
      cases made : system.makeDirectory first with
      | ok next =>
          have grown := Grows.ofMakes (above first List.mem_cons_self) (makeDirectory_ok made)
          exact grown.trans (inductionHypothesis aboveRest)
      | error fault =>
          simp only
          split
          · exact inductionHypothesis aboveRest
          · exact .refl system path

/-- Making the innermost directory that can be made, and then those below it, only lets the tree
grow. -/
theorem grows_makeLineage
    {pending paths : List Path}
    (abovePending : ∀ other ∈ pending, other.location <+: path.location)
    (above : ∀ other ∈ paths, other.location <+: path.location) :
    system.Grows path (brought (system.makeLineage pending paths)) := by
  induction paths generalizing pending with
  | nil => exact grows_makeAll abovePending
  | cons first paths inductionHypothesis =>
      have aboveFirst := above first List.mem_cons_self
      rw [makeLineage]
      split
      · exact grows_makeAll abovePending
      · cases made : system.makeDirectory first with
        | ok next =>
            exact (Grows.ofMakes aboveFirst (makeDirectory_ok made)).trans
              (grows_makeAll abovePending)
        | error fault =>
            have settled : ∀ cause : SystemFault,
                system.Grows path (brought
                  (if cause = .alreadyExists && system.isDirectory first then
                    system.makeAll pending
                  else (.error cause, system))) := by
              intro cause
              split
              · exact grows_makeAll abovePending
              · exact .refl system path
            cases fault with
            | noEntry =>
                apply inductionHypothesis
                · intro other member
                  rcases List.mem_cons.mp member with rfl | later
                  · exact aboveFirst
                  · exact abovePending other later
                · exact fun other member => above other (List.mem_cons_of_mem _ member)
            | _ => exact settled _

/-- To make a directory with all above it adds directories on its way, whether it succeeds or
fails, and does nothing else. -/
theorem grows_makeDirectories
    (system : Posix)
    (path : Path) :
    system.Grows path (system.makeDirectories path).2 := by
  have grown :
      system.Grows path
        (brought (system.makeLineage [] (ancestors path.location.length path))) :=
    grows_makeLineage (fun _ member => absurd member List.not_mem_nil)
      (fun _ member => location_of_mem_ancestors member)
  rw [makeDirectories]
  rw [brought] at grown
  cases outcome : (system.makeLineage [] (ancestors path.location.length path)).1 with
  | ok final =>
      rw [outcome] at grown
      simp only [outcome]
      exact grown
  | error fault =>
      rw [outcome] at grown
      simp only [outcome]
      exact grown

/-! ## Writing -/

/-- A file is written at the name that its path spells, where no directory stands. -/
theorem rewriteFile_ok
    {content : Bytes}
    (written : (system.rewriteFile path fun _ => content) = .ok later) :
    later = system.storeFile (system.namesAt path) content ∧
      system.entries.lookup (system.namesAt path) ≠ some .directory := by
  rw [rewriteFile] at written
  obtain ⟨target, seen, written⟩ := ok_of_bind written
  cases target with
  | root => cases written
  | here => cases written
  | up => cases written
  | name directory last slashed =>
      cases slashed with
      | true => cases written
      | false =>
          obtain ⟨⟨names, held⟩, looked, written⟩ := ok_of_bind written
          obtain ⟨spelled, stands, _⟩ := (reaches_of_target seen).lookupIn_ok looked
          subst spelled
          rw [← stands]
          cases held with
          | none =>
              cases written
              exact ⟨rfl, by simp⟩
          | some entry =>
              cases entry with
              | directory => cases written
              | file before =>
                  cases written
                  exact ⟨rfl, by simp⟩

/-! ## Removal -/

@[simp]
theorem namesAt_erase
    (system : Posix)
    (test : List Bytes → Bool)
    (path : Path) :
    (system.erase test).namesAt path = system.namesAt path := rfl

@[simp]
theorem lookup_erase
    (system : Posix)
    (test : List Bytes → Bool)
    (names : List Bytes) :
    (system.erase test).entries.lookup names =
      if test names then none else system.entries.lookup names :=
  EntryMap.lookup_eraseWhere _ _ _

/-- A file that was removed stood at the name that its path spells, and nothing else is gone. -/
theorem removeFile_ok
    (removed : system.removeFile path = .ok later) :
    (∃ content, system.entries.lookup (system.namesAt path) = some (.file content)) ∧
      later = system.erase (· = system.namesAt path) := by
  rw [removeFile] at removed
  obtain ⟨target, seen, removed⟩ := ok_of_bind removed
  cases target with
  | root => cases removed
  | here => cases removed
  | up => cases removed
  | name directory last slashed =>
      obtain ⟨⟨names, held⟩, looked, removed⟩ := ok_of_bind removed
      obtain ⟨spelled, stands, _⟩ := (reaches_of_target seen).lookupIn_ok looked
      subst spelled
      cases held with
      | none => cases removed
      | some entry =>
          cases entry with
          | directory => cases removed
          | file content =>
              cases slashed with
              | true => cases removed
              | false =>
                  cases removed
                  exact ⟨⟨content, stands.symm⟩, rfl⟩

/-- A removal of an empty directory takes away the one entry that its path spells. -/
theorem removeEmpty_ok
    (removed : system.removeEmpty path = .ok later) :
    system.entries.lookup (system.namesAt path) = some .directory ∧
      later = system.erase (· = system.namesAt path) := by
  rw [removeEmpty] at removed
  obtain ⟨target, seen, removed⟩ := ok_of_bind removed
  cases target with
  | root => cases removed
  | here => cases removed
  | up => cases removed
  | name directory last slashed =>
      obtain ⟨⟨names, held⟩, looked, removed⟩ := ok_of_bind removed
      obtain ⟨spelled, stands, _⟩ := (reaches_of_target seen).lookupIn_ok looked
      subst spelled
      cases held with
      | none => cases removed
      | some entry =>
          cases entry with
          | file content => cases removed
          | directory =>
              cases removed
              exact ⟨stands.symm, rfl⟩

/-- What the removal of a directory with all below it may do to a tree. -/
structure Prunes
    (system : Posix)
    (path : Path)
    (outcome : Except SystemFault Unit × Posix) : Prop where
  currentDirectory : outcome.2.currentDirectory = system.currentDirectory
  entries : ∀ names,
    outcome.2.entries.lookup names = system.entries.lookup names ∨
      outcome.2.entries.lookup names = none
  elsewhere : ∀ names, ¬ system.namesAt path <+: names →
    outcome.2.entries.lookup names = system.entries.lookup names
  failed : ∀ fault, outcome.1 = .error fault →
    outcome.2.entries.lookup (system.namesAt path) =
      system.entries.lookup (system.namesAt path)
  spared : system.entries.lookup (system.namesAt path) ≠ some .directory →
    outcome.2.entries = system.entries

theorem Prunes.refl
    (system : Posix)
    (path : Path)
    (outcome : Except SystemFault Unit) : system.Prunes path (outcome, system) :=
  ⟨rfl, fun _ => Or.inl rfl, fun _ _ => rfl, fun _ _ => rfl, fun _ => rfl⟩

/-- The directory itself goes last, and may stay. -/
theorem prunes_removeEmpty
    {emptied : Posix}
    (sameDirectory : emptied.currentDirectory = system.currentDirectory)
    (sameOrGone : ∀ names,
      emptied.entries.lookup names = system.entries.lookup names ∨
        emptied.entries.lookup names = none)
    (kept : ∀ names, ¬ system.namesAt path <+: names ∨ names = system.namesAt path →
      emptied.entries.lookup names = system.entries.lookup names)
    (spared : system.entries.lookup (system.namesAt path) ≠ some .directory →
      emptied.entries = system.entries) :
    system.Prunes path
      (match emptied.removeEmpty path with
        | .ok next => (.ok (), next)
        | .error .noEntry => (.ok (), emptied)
        | .error fault => (.error fault, emptied)) := by
  have stayed : ∀ outcome : Except SystemFault Unit,
      system.Prunes path (outcome, emptied) := fun _ =>
    ⟨sameDirectory, sameOrGone, fun names apart => kept names (Or.inl apart),
      fun _ _ => kept _ (Or.inr rfl), spared⟩
  cases removed : emptied.removeEmpty path with
  | ok next =>
      obtain ⟨stood, rfl⟩ := removeEmpty_ok removed
      have sameNames := namesAt_congr sameDirectory path
      rw [sameNames] at stood ⊢
      rw [kept _ (Or.inr rfl)] at stood
      refine ⟨sameDirectory, ?_, ?_, ?_, ?_⟩
      · intro names
        rw [lookup_erase]
        split
        · exact Or.inr rfl
        · exact sameOrGone names
      · intro names apart
        have different : ¬ decide (names = system.namesAt path) = true := by
          intro same
          exact apart (decide_eq_true_eq.mp same ▸ List.prefix_refl _)
        rw [lookup_erase, if_neg different]
        exact kept names (Or.inl apart)
      · intro fault impossible
        cases impossible
      · intro other
        exact absurd stood other
  | error fault =>
      cases fault with
      | noEntry => exact stayed _
      | _ => exact stayed _

/-- Whatever a removal comes to, what it takes away lies at the path or below it. -/
theorem prunes_removeTree
    (system : Posix)
    (path : Path) :
    system.Prunes path (system.removeTree path) := by
  rw [removeTree]
  cases looked : system.entryAt path with
  | error fault => exact .refl system path _
  | ok pair =>
      rcases pair with ⟨place, entry⟩
      cases entry with
      | file content => exact .refl system path _
      | directory =>
          obtain ⟨_, ⟨rfl, _⟩ | ⟨rfl, stands⟩⟩ := entryAt_ok looked
          · exact prunes_removeEmpty rfl (fun _ => Or.inl rfl) (fun _ _ => rfl) (fun _ => rfl)
          · refine prunes_removeEmpty rfl ?_ ?_ (fun other => absurd stands other)
            · intro names
              rw [lookup_erase]
              split
              · exact Or.inr rfl
              · exact Or.inl rfl
            intro names apart
            have outside :
                ((system.namesAt path).isPrefixOf names &&
                  names != system.namesAt path) = false := by
              rcases apart with notBelow | same
              · rw [Bool.and_eq_false_iff, Bool.eq_false_iff, ne_eq,
                  List.isPrefixOf_iff_prefix]
                exact Or.inl notBelow
              · simp [same]
            rw [lookup_erase, outside]
            rfl

end DetachedTasks.Posix
