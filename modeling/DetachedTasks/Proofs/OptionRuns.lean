import DetachedTasks.Proofs.WrittenOptions
import Mathlib.Data.List.Pairwise

/-!
# Reading options one after another

Arguments that are read without a fault spell a list of options with their values, and at most
two dashes stand alone behind them.  The other way round, arguments that spell options are
read as these options, or refused.  What is settled passed the check of its option, and no
option is settled twice that may stand only once.  An option whose value is refused never gets
further than to the next option or to the end.
-/

namespace DetachedTasks.CommandLine

/-! ## Options that were settled -/

/-- Values that their options take, and no option twice that may stand only once. -/
structure AreSound (given : List (Flag × Text)) : Prop where
  valid : ∀ pair ∈ given, checkValue pair.1 pair.2 = .ok ()
  once : given.Pairwise fun first second => first.1 = second.1 → first.1.repeats = true

theorem areSound_nil : AreSound [] :=
  ⟨nofun, .nil⟩

namespace Reading

/-- The options that have a value, the last one also if it is not settled yet. -/
def noted (reading : Reading) : List (Flag × Text) :=
  match reading.pending with
  | some (.option flag (some value)) => reading.given ++ [(flag, value)]
  | _ => reading.given

/-- Some options were read, each with its value. -/
structure HasRead
    (reading : Reading)
    (given : List (Flag × Text)) : Prop where
  noted : reading.noted = given
  sound : AreSound reading.given
  pending : reading.pending = none ∨
    ∃ flag value, reading.pending = some (.option flag (some value))
  awaiting : reading.awaiting = false

/-- Some options were read, and one more whose value has to follow. -/
structure Awaits
    (reading : Reading)
    (given : List (Flag × Text))
    (flag : Flag) : Prop where
  settled : reading.given = given
  sound : AreSound given
  pending : reading.pending = some (.option flag none)
  awaiting : reading.awaiting = true

variable {reading next : Reading} {given : List (Flag × Text)} {flag : Flag} {value : Text}

theorem hasRead_start : Reading.start.HasRead [] :=
  ⟨rfl, areSound_nil, Or.inl rfl, rfl⟩

/-- Two dashes change nothing about the options before them. -/
theorem HasRead.dashed
    (hasRead : reading.HasRead given) :
    Reading.HasRead { reading with trailing := true } given :=
  ⟨hasRead.noted, hasRead.sound, hasRead.pending, hasRead.awaiting⟩

/-- An option that is accepted is given behind the earlier ones, and its value is sound. -/
theorem of_accept
    (accepted : reading.accept flag value = .ok next)
    (sound : AreSound reading.given) :
    next = { reading with given := reading.given ++ [(flag, value)] } ∧
      AreSound (reading.given ++ [(flag, value)]) := by
  rw [accept] at accepted
  split at accepted
  · cases accepted
  · rename_i notTwice
    obtain ⟨_, valid, same⟩ := ok_of_bind accepted
    refine ⟨(Except.ok.inj same).symm, ?_, ?_⟩
    · intro pair member
      rcases List.mem_append.mp member with before | isLast
      · exact sound.valid pair before
      · rw [List.mem_singleton.mp isLast]
        exact valid
    · refine List.pairwise_append.mpr ⟨sound.once, List.pairwise_singleton _ _, ?_⟩
      intro pair member last isLast sameFlag
      rw [List.mem_singleton.mp isLast] at sameFlag
      by_contra onlyOnce
      refine notTwice ?_
      rw [sameFlag, Bool.not_eq_true] at onlyOnce
      rw [onlyOnce, Bool.not_false, Bool.true_and, List.any_eq_true]
      exact ⟨pair, member, decide_eq_true sameFlag⟩

/-- To settle is to accept the last option that was noted. -/
theorem HasRead.of_settle
    (hasRead : reading.HasRead given)
    (settled : reading.settle = .ok next) :
    next = { reading with given := given, pending := none } ∧ AreSound given := by
  obtain ⟨before, id, pending, awaiting, trailing⟩ := reading
  obtain ⟨isNoted, sound, isPending, _⟩ := hasRead
  dsimp only at isPending
  rcases isPending with rfl | ⟨flag, value, rfl⟩
  · obtain rfl : before = given := isNoted
    exact ⟨(Except.ok.inj settled).symm, sound⟩
  · obtain rfl : before ++ [(flag, value)] = given := isNoted
    have accepted : accept ⟨before, id, none, awaiting, trailing⟩ flag value = .ok next := settled
    obtain ⟨rfl, soundNext⟩ := of_accept accepted sound
    exact ⟨rfl, soundNext⟩

/-- An option that begins with its value is complete. -/
theorem HasRead.of_begin_some
    (hasRead : reading.HasRead given)
    (begun : reading.begin flag (some value) = .ok next) :
    next.HasRead (given ++ [(flag, value)]) ∧ next.trailing = reading.trailing := by
  obtain ⟨settled, isSettled, goesOn⟩ := ok_of_bind begun
  obtain ⟨rfl, sound⟩ := hasRead.of_settle isSettled
  obtain ⟨accepted, isAccepted, same⟩ := ok_of_bind goesOn
  obtain ⟨rfl, soundNext⟩ := of_accept isAccepted sound
  obtain rfl := Except.ok.inj same
  exact ⟨⟨rfl, soundNext, Or.inl rfl, rfl⟩, rfl⟩

/-- An option that begins without its value waits for the next word. -/
theorem HasRead.of_begin_none
    (hasRead : reading.HasRead given)
    (begun : reading.begin flag none = .ok next) :
    next.Awaits given flag ∧ next.trailing = reading.trailing := by
  obtain ⟨settled, isSettled, same⟩ := ok_of_bind begun
  obtain ⟨rfl, sound⟩ := hasRead.of_settle isSettled
  obtain rfl := Except.ok.inj same
  exact ⟨⟨rfl, sound, rfl, rfl⟩, rfl⟩

/-- Whatever option comes next, the last one before it is settled. -/
theorem HasRead.sound_of_begin
    (hasRead : reading.HasRead given)
    {attached : Option Text}
    (begun : reading.begin flag attached = .ok next) :
    AreSound given := by
  obtain ⟨_, isSettled, _⟩ := ok_of_bind begun
  exact (hasRead.of_settle isSettled).2

/-- The next word completes an option that waits. -/
theorem Awaits.takeValue
    (awaits : reading.Awaits given flag)
    (value : Text) :
    (reading.takeValue value).HasRead (given ++ [(flag, value)]) ∧
      (reading.takeValue value).trailing = reading.trailing := by
  obtain ⟨rfl, sound, pending, _⟩ := awaits
  rw [Reading.takeValue, pending]
  exact ⟨⟨rfl, sound, Or.inr ⟨flag, value, rfl⟩, rfl⟩, rfl⟩

/-- An option whose value has to follow is not settled without it. -/
theorem settle_of_valueless
    (pending : reading.pending = some (.option flag none)) :
    reading.settle = .error .invalidValue := by
  rw [settle, pending]

/-- An option that still waits for its value lets no other one begin. -/
theorem begin_of_valueless
    (pending : reading.pending = some (.option flag none))
    (other : Flag)
    (attached : Option Text) :
    reading.begin other attached = .error .invalidValue := by
  rw [begin, settle_of_valueless pending]
  rfl

end Reading

/-! ## Arguments that were read -/

/-- The arguments of some options, perhaps with two dashes alone behind them. -/
def SpellsOut
    (scope : Scope)
    (words : List Text)
    (given : List (Flag × Text)) : Prop :=
  Spells scope words given ∨ ∃ front, words = front ++ [['-', '-']] ∧ Spells scope front given

/-- What a reading has come to behind some arguments. -/
inductive Follows (scope : Scope) : List Text → Reading → Prop where
  /-- The last option has its value. -/
  | whole
      {words : List Text}
      {reading : Reading}
      {given : List (Flag × Text)}
      (spells : Spells scope words given)
      (hasRead : reading.HasRead given)
      (notTrailing : reading.trailing = false) :
      Follows scope words reading
  /-- The last option waits for its value. -/
  | opened
      {words : List Text}
      {word : Text}
      {reading : Reading}
      {given : List (Flag × Text)}
      {flag : Flag}
      (spells : Spells scope words given)
      (opens : Opens scope word flag)
      (awaits : reading.Awaits given flag)
      (notTrailing : reading.trailing = false) :
      Follows scope (words ++ [word]) reading
  /-- Two dashes came after an option with its value. -/
  | closed
      {words : List Text}
      {reading : Reading}
      {given : List (Flag × Text)}
      (spells : Spells scope words given)
      (hasRead : reading.HasRead given)
      (trailing : reading.trailing = true) :
      Follows scope (words ++ [['-', '-']]) reading
  /-- Two dashes came where a value had to follow. -/
  | stuck
      {words : List Text}
      {reading : Reading}
      {flag : Flag}
      (pending : reading.pending = some (.option flag none))
      (trailing : reading.trailing = true) :
      Follows scope words reading

section Runs

variable {scope : Scope} {reading next settled : Reading} {words behind : List Text} {word : Text}
  {given : List (Flag × Text)} {flag : Flag} {value : Text}

/-- A reading that starts has read no words. -/
theorem follows_start (scope : Scope) : Follows scope [] Reading.start :=
  .whole .nothing Reading.hasRead_start rfl

/-- Nothing is read behind two dashes where there is no place for the id of a task. -/
theorem not_step_of_trailing
    (noId : scope.takesId = false)
    (trailing : reading.trailing = true) :
    step scope reading word ≠ .ok next := by
  intro stepped
  rw [step, trailing, if_pos rfl] at stepped
  obtain ⟨fault, refused⟩ := plain_of_noId noId reading word
  rw [refused] at stepped
  cases stepped

/-- One more argument. -/
theorem Follows.step
    (noId : scope.takesId = false)
    (follows : Follows scope words reading)
    (stepped : step scope reading word = .ok next) :
    Follows scope (words ++ [word]) next := by
  cases follows with
  | whole spells hasRead notTrailing =>
      rcases step_cases noId notTrailing stepped with
        ⟨rfl, rfl⟩ | ⟨flag, value, attaches, begun⟩ | ⟨flag, opens, begun⟩ | ⟨_, awaiting, _⟩
      · exact .closed spells hasRead.dashed rfl
      · obtain ⟨hasReadNext, sameTrailing⟩ := hasRead.of_begin_some begun
        exact .whole (spells.more (.together attaches)) hasReadNext (sameTrailing.trans notTrailing)
      · obtain ⟨awaits, sameTrailing⟩ := hasRead.of_begin_none begun
        exact .opened spells opens awaits (sameTrailing.trans notTrailing)
      · exact absurd (awaiting.symm.trans hasRead.awaiting) (by decide)
  | opened spells opens awaits notTrailing =>
      rcases step_cases noId notTrailing stepped with
        ⟨rfl, rfl⟩ | ⟨flag, value, attaches, begun⟩ | ⟨flag, opens, begun⟩ | ⟨plain, _, rfl⟩
      -- The value can no longer follow, so this reading is never settled.
      · exact .stuck awaits.pending rfl
      · rw [Reading.begin_of_valueless awaits.pending] at begun
        cases begun
      · rw [Reading.begin_of_valueless awaits.pending] at begun
        cases begun
      · obtain ⟨hasRead, sameTrailing⟩ := awaits.takeValue word
        rw [List.append_assoc]
        exact .whole (spells.more (.apart opens plain)) hasRead (sameTrailing.trans notTrailing)
  | closed spells hasRead trailing => exact absurd stepped (not_step_of_trailing noId trailing)
  | stuck pending trailing => exact absurd stepped (not_step_of_trailing noId trailing)

/-- Any number of arguments. -/
theorem Follows.run
    (noId : scope.takesId = false)
    (follows : Follows scope words reading)
    (ran : behind.foldlM (CommandLine.step scope) reading = .ok next) :
    Follows scope (words ++ behind) next := by
  induction behind generalizing words reading with
  | nil =>
      obtain rfl := Except.ok.inj ran
      rw [List.append_nil]
      exact follows
  | cons word behind inductionHypothesis =>
      rw [List.foldlM_cons] at ran
      obtain ⟨between, stepped, goesOn⟩ := ok_of_bind ran
      rw [List.append_cons]
      exact inductionHypothesis (follows.step noId stepped) goesOn

/-- Where the next argument may be a subcommand, the last option has its value. -/
theorem Follows.spells_of_free
    (follows : Follows scope words reading)
    (free : ¬(reading.trailing || reading.awaiting) = true) :
    ∃ given, Spells scope words given := by
  rw [Bool.or_eq_true, not_or] at free
  cases follows with
  | whole spells _ _ => exact ⟨_, spells⟩
  | opened _ _ awaits _ => exact absurd awaits.awaiting free.2
  | closed _ _ trailing => exact absurd trailing free.1
  | stuck _ trailing => exact absurd trailing free.1

/-- At the end, exactly the options are settled that the arguments spell. -/
theorem Follows.of_settle
    (follows : Follows scope words reading)
    (isSettled : reading.settle = .ok settled) :
    SpellsOut scope words settled.given ∧ AreSound settled.given := by
  cases follows with
  | whole spells hasRead _ =>
      obtain ⟨rfl, sound⟩ := hasRead.of_settle isSettled
      exact ⟨Or.inl spells, sound⟩
  | opened _ _ awaits _ =>
      rw [Reading.settle_of_valueless awaits.pending] at isSettled
      cases isSettled
  | closed spells hasRead _ =>
      obtain ⟨rfl, sound⟩ := hasRead.of_settle isSettled
      exact ⟨Or.inr ⟨_, rfl, spells⟩, sound⟩
  | stuck pending _ =>
      rw [Reading.settle_of_valueless pending] at isSettled
      cases isSettled

/-! ## Arguments that spell options -/

/-- The words that spell an option, in one of its ways, are read as this option and no other. -/
theorem Writes.run
    (writes : Writes scope words flag value)
    (hasRead : reading.HasRead given)
    (notTrailing : reading.trailing = false)
    (ran : words.foldlM (step scope) reading = .ok next) :
    next.HasRead (given ++ [(flag, value)]) ∧ next.trailing = false := by
  cases writes with
  | together attaches =>
      rw [List.foldlM_cons, step_of_attaches notTrailing attaches] at ran
      obtain ⟨between, begun, same⟩ := ok_of_bind ran
      obtain rfl := Except.ok.inj same
      obtain ⟨hasReadNext, sameTrailing⟩ := hasRead.of_begin_some begun
      exact ⟨hasReadNext, sameTrailing.trans notTrailing⟩
  | apart opens plain =>
      rw [List.foldlM_cons, step_of_opens notTrailing opens] at ran
      obtain ⟨between, begun, goesOn⟩ := ok_of_bind ran
      obtain ⟨awaits, sameTrailing⟩ := hasRead.of_begin_none begun
      rw [List.foldlM_cons, step, sameTrailing, notTrailing, if_neg Bool.false_ne_true, plain,
        awaits.awaiting] at goesOn
      obtain rfl := Except.ok.inj goesOn
      obtain ⟨hasReadNext, sameAgain⟩ := awaits.takeValue value
      exact ⟨hasReadNext, sameAgain.trans (sameTrailing.trans notTrailing)⟩

/-- Arguments that spell options are read as these options, if they are read. -/
theorem Spells.run
    (spells : Spells scope words given)
    (ran : words.foldlM (step scope) Reading.start = .ok next) :
    next.HasRead given ∧ next.trailing = false := by
  induction spells generalizing next with
  | nothing =>
      obtain rfl := Except.ok.inj ran
      exact ⟨Reading.hasRead_start, rfl⟩
  | more _ writes inductionHypothesis =>
      rw [List.foldlM_append] at ran
      obtain ⟨between, ranBefore, goesOn⟩ := ok_of_bind ran
      obtain ⟨hasRead, notTrailing⟩ := inductionHypothesis ranBefore
      exact writes.run hasRead notTrailing goesOn

/-- What the arguments spell is exactly what is settled. -/
theorem SpellsOut.given_eq
    (spellsOut : SpellsOut scope words given)
    (ran : words.foldlM (step scope) Reading.start = .ok next)
    (isSettled : next.settle = .ok settled) :
    given = settled.given := by
  rcases spellsOut with spells | ⟨front, rfl, spells⟩
  · obtain ⟨hasRead, _⟩ := spells.run ran
    obtain ⟨rfl, _⟩ := hasRead.of_settle isSettled
    rfl
  · rw [List.foldlM_append] at ran
    obtain ⟨between, ranFront, ran⟩ := ok_of_bind ran
    obtain ⟨hasRead, notTrailing⟩ := spells.run ranFront
    rw [List.foldlM_cons, step, notTrailing, if_neg Bool.false_ne_true] at ran
    obtain rfl := Except.ok.inj ran
    obtain ⟨rfl, _⟩ := hasRead.dashed.of_settle isSettled
    rfl

/-- What was read with its value is settled by whatever follows, so it was sound. -/
theorem Reading.HasRead.sound_of_run
    (noId : scope.takesId = false)
    (hasRead : reading.HasRead given)
    (notTrailing : reading.trailing = false)
    (ran : behind.foldlM (step scope) reading = .ok next)
    (isSettled : next.settle = .ok settled) :
    AreSound given := by
  cases behind with
  | nil =>
      obtain rfl := Except.ok.inj ran
      exact (hasRead.of_settle isSettled).2
  | cons word behind =>
      rw [List.foldlM_cons] at ran
      obtain ⟨between, stepped, goesOn⟩ := ok_of_bind ran
      rcases step_cases noId notTrailing stepped with
        ⟨rfl, rfl⟩ | ⟨flag, value, _, begun⟩ | ⟨flag, _, begun⟩ | ⟨_, awaiting, _⟩
      -- Two dashes settle nothing yet, but behind them nothing else is read.
      · cases behind with
        | nil =>
            obtain rfl := Except.ok.inj goesOn
            exact (hasRead.dashed.of_settle isSettled).2
        | cons further behind =>
            rw [List.foldlM_cons] at goesOn
            obtain ⟨_, steppedAgain, _⟩ := ok_of_bind goesOn
            exact absurd steppedAgain (not_step_of_trailing noId rfl)
      · exact hasRead.sound_of_begin begun
      · exact hasRead.sound_of_begin begun
      · exact absurd (awaiting.symm.trans hasRead.awaiting) (by decide)

end Runs

/-! ## Up to the subcommand -/

section Top

variable {scope : Scope} {reading next : Reading} {words before behind tail : List Text}
  {word : Text} {given : List (Flag × Text)} {flag : Flag} {value : Text} {verb : Verb}
  {result : Reading × Option (Verb × List Text)}

/-- A verb that is found bears the name it was looked for. -/
theorem Verb.name_of_ofName?
    {name : Text}
    (found : Verb.ofName? name = some verb) :
    verb.name = name := by
  have passes : decide (verb.name = name) = true :=
    List.find?_some (p := fun verb : Verb => decide (verb.name = name)) found
  exact of_decide_eq_true passes

/-- What does not look like a plain argument is no subcommand. -/
theorem ofName?_dash (rest : Text) : Verb.ofName? ('-' :: rest) = none := by
  cases found : Verb.ofName? ('-' :: rest) with
  | none => rfl
  | some verb =>
      have named := Verb.name_of_ofName? found
      cases verb <;> cases named

/-- A word that attaches a value begins with a dash. -/
theorem Attaches.head?
    (attaches : Attaches scope word flag value) :
    word.head? = some '-' := by
  cases attaches <;> rfl

/-- A word that opens an option begins with a dash. -/
theorem Opens.head?
    (opens : Opens scope word flag) :
    word.head? = some '-' := by
  cases opens <;> rfl

/-- What is awaited, or looks like an option, is no subcommand. -/
theorem readTop_eq_step
    (noName : reading.awaiting = true ∨ word.head? = some '-') :
    readTop reading (word :: tail) =
      step .top reading word >>= fun next => readTop next tail := by
  rcases noName with awaiting | dashed
  · simp [readTop, awaiting]
  · obtain ⟨rest, rfl⟩ : ∃ rest, word = '-' :: rest := by
      cases word with
      | nil => cases dashed
      | cons first rest => exact ⟨rest, by rw [Option.some.inj dashed]⟩
    simp [readTop, ofName?_dash]

/-- A name of a verb ends the options before it. -/
theorem readTop_verb
    (notAwaiting : reading.awaiting = false)
    (notTrailing : reading.trailing = false)
    (verb : Verb)
    (behind : List Text) :
    readTop reading (verb.name :: behind) = .ok (reading, some (verb, behind)) := by
  rw [readTop, notAwaiting, notTrailing]
  cases verb <;> rfl

/-- The subcommand stands behind the options that come before it. -/
theorem Follows.readTop
    (follows : Follows .top words reading)
    (isRead : CommandLine.readTop reading tail = .ok (next, some (verb, behind))) :
    ∃ before given, tail = before ++ verb.name :: behind ∧ Spells .top (words ++ before) given := by
  induction tail generalizing words reading with
  | nil => cases isRead
  | cons word tail inductionHypothesis =>
      rw [CommandLine.readTop] at isRead
      split at isRead
      · cases isRead
      · split at isRead
        · rename_i other found
          obtain ⟨rfl, isVerb⟩ := Prod.mk.inj (Except.ok.inj isRead)
          obtain ⟨rfl, rfl⟩ := Prod.mk.inj (Option.some.inj isVerb)
          obtain ⟨free, named⟩ := Option.ite_none_left_eq_some.mp found
          obtain ⟨given, spells⟩ := follows.spells_of_free free
          rw [← Verb.name_of_ofName? named]
          exact ⟨[], given, rfl, by rwa [List.append_nil]⟩
        · obtain ⟨between, stepped, isRead⟩ := ok_of_bind isRead
          have follows := follows.step rfl stepped
          obtain ⟨before, given, rfl, spells⟩ := inductionHypothesis follows isRead
          rw [List.append_assoc] at spells
          exact ⟨word :: before, given, rfl, spells⟩

/-- An option before the verb is read by the words that spell it, and the rest from there on. -/
theorem Writes.readTop
    (writes : Writes .top words flag value)
    (hasRead : reading.HasRead given)
    (notTrailing : reading.trailing = false)
    (isRead : CommandLine.readTop reading (words ++ tail) = .ok result) :
    ∃ next, next.HasRead (given ++ [(flag, value)]) ∧ next.trailing = false ∧
      CommandLine.readTop next tail = .ok result := by
  have folded : ∃ next, words.foldlM (step .top) reading = .ok next ∧
      CommandLine.readTop next tail = .ok result := by
    cases writes with
    | together attaches =>
        rw [List.singleton_append, readTop_eq_step (Or.inr attaches.head?)] at isRead
        obtain ⟨next, stepped, goesOn⟩ := ok_of_bind isRead
        refine ⟨next, ?_, goesOn⟩
        rw [List.foldlM_cons, stepped]
        rfl
    | apart opens plain =>
        rw [List.cons_append, readTop_eq_step (Or.inr opens.head?)] at isRead
        obtain ⟨between, stepped, goesOn⟩ := ok_of_bind isRead
        have begun := (step_of_opens notTrailing opens).symm.trans stepped
        obtain ⟨awaits, _⟩ := hasRead.of_begin_none begun
        rw [List.singleton_append, readTop_eq_step (Or.inl awaits.awaiting)] at goesOn
        obtain ⟨next, steppedAgain, goesOn⟩ := ok_of_bind goesOn
        refine ⟨next, ?_, goesOn⟩
        rw [List.foldlM_cons, stepped]
        exact congrArg (· >>= pure) steppedAgain
  obtain ⟨next, ran, goesOn⟩ := folded
  obtain ⟨hasReadNext, notTrailingNext⟩ := writes.run hasRead notTrailing ran
  exact ⟨next, hasReadNext, notTrailingNext, goesOn⟩

/-- Options before a subcommand are read as these options, if they are read. -/
theorem Spells.readTop
    (spells : Spells .top before given)
    (isRead : CommandLine.readTop Reading.start (before ++ tail) = .ok result) :
    ∃ reading, reading.HasRead given ∧ reading.trailing = false ∧
      CommandLine.readTop reading tail = .ok result := by
  induction spells generalizing tail with
  | nothing => exact ⟨_, Reading.hasRead_start, rfl, isRead⟩
  | more _ writes inductionHypothesis =>
      rw [List.append_assoc] at isRead
      obtain ⟨reading, hasRead, notTrailing, isRead⟩ := inductionHypothesis isRead
      exact writes.readTop hasRead notTrailing isRead

/-- The first argument behind some options that names a subcommand is the subcommand. -/
theorem Spells.of_readTop_verb
    {other : Verb}
    {rest : List Text}
    (spells : Spells .top before given)
    (isRead : CommandLine.readTop Reading.start (before ++ verb.name :: behind) =
      .ok (next, some (other, rest))) :
    other = verb ∧ rest = behind := by
  obtain ⟨reading, hasRead, notTrailing, isRead⟩ := spells.readTop isRead
  rw [readTop_verb hasRead.awaiting notTrailing] at isRead
  obtain ⟨-, found⟩ := Prod.mk.inj (Except.ok.inj isRead)
  obtain ⟨rfl, rfl⟩ := Prod.mk.inj (Option.some.inj found)
  exact ⟨rfl, rfl⟩

end Top

end DetachedTasks.CommandLine
