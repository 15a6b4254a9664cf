import DetachedTasks.Proofs.LaunchEnvironments
import DetachedTasks.Proofs.OptionRuns
import Mathlib.Data.List.Forall2

/-!
# What a launch is asked for

A command line that launches a script is the options before the subcommand, the subcommand and
the options behind it, each written out with its value.  Among the options behind it is one
file or one inline script, never both and never neither, and every assignment has a name
before its first equals sign.  So nothing that was written is passed over, and the process gets
each variable with the value that was written last.
-/

namespace DetachedTasks

/-- The script that a launch is asked for, with a program of its own for a launch that names
no script at all. -/
def Application.scriptBodyOr
    (missing : TaskProgram Text)
    (arguments : LaunchArguments) : TaskProgram Text :=
  match arguments.file, arguments.inline with
  | none, none => missing
  | _, _ => scriptBody arguments

namespace CommandLine

/-- The values of one option, in the order in which they were written. -/
def valuesOf
    (flag : Flag)
    (given : List (Flag × Text)) : List Text :=
  (given.filter (·.1 = flag)).map (·.2)

/-- A text that is no assignment: it has no equals sign, or no name before the first one. -/
def Malformed (text : Text) : Prop :=
  '=' ∉ text ∨ text.head? = some '='

/-- A text that is taken apart at its first equals sign. -/
structure Splits (text : Text) (pair : Text × Text) : Prop where
  named : pair.1 ≠ []
  first : '=' ∉ pair.1
  whole : text = pair.1 ++ '=' :: pair.2

/-- Either a file or a script was written, exactly once, and it is what the launch is asked
for; and so are the assignments, each taken apart. -/
structure Unambiguous
    (given : List (Flag × Text))
    (arguments : LaunchArguments) : Prop where
  script :
    (∃ path, valuesOf .file given = [path] ∧ valuesOf .inline given = [] ∧
      arguments.file = some (Path.ofText path) ∧ arguments.inline = none) ∨
    (∃ body, valuesOf .file given = [] ∧ valuesOf .inline given = [body] ∧
      arguments.file = none ∧ arguments.inline = some body)
  assignments : List.Forall₂ Splits (valuesOf .env given) arguments.environment

/-- Arguments are a subcommand with some options behind it, and perhaps some before it. -/
def Reads
    (arguments : List Text)
    (verb : Verb)
    (given : List (Flag × Text)) : Prop :=
  ∃ before behind topGiven,
    arguments = before ++ verb.name :: behind ∧
      Spells .top before topGiven ∧ SpellsOut (.behind verb) behind given

/-! ## Assignments -/

theorem assignment?_of_malformed
    {text : Text}
    (malformed : Malformed text) :
    assignment? text = none := by
  rcases malformed with noEquals | nameless
  · have stops : ∀ character, ([] : Text).head? = some character → character = '=' := nofun
    obtain ⟨isName, isRest⟩ := cut_name noEquals stops
    rw [List.append_nil] at isName isRest
    rw [assignment?, isName, isRest]
    cases text <;> rfl
  · cases text with
    | nil => rfl
    | cons first rest =>
        obtain rfl := Option.some.inj nameless
        rfl

/-- An assignment is taken apart at its first equals sign, and both parts are kept. -/
theorem splits_of_assignment?
    {text : Text}
    {pair : Text × Text}
    (assigned : assignment? text = some pair) :
    Splits text pair := by
  rcases name_cases text with noEquals | ⟨name, value, noEquals, rfl⟩
  · rw [assignment?_of_malformed (Or.inl noEquals)] at assigned
    cases assigned
  · have stops : ∀ character, ('=' :: value).head? = some character → character = '=' :=
      fun _ first => (Option.some.inj first).symm
    obtain ⟨isName, isRest⟩ := cut_name noEquals stops
    rw [assignment?, isName, isRest] at assigned
    cases name with
    | nil => cases assigned
    | cons first name =>
        obtain rfl := Option.some.inj assigned
        exact ⟨List.cons_ne_nil _ _, noEquals, rfl⟩

/-! ## Settled options -/

section Settled

variable {given : List (Flag × Text)} {reading : Reading} {args : LaunchArguments}

theorem value?_eq_head?
    (reading : Reading)
    (flag : Flag) :
    reading.value? flag = (valuesOf flag reading.given).head? := by
  rw [Reading.value?, valuesOf, List.head?_map, List.head?_filter]

/-- An option that may stand only once has at most one value. -/
theorem AreSound.valuesOf_cases
    (sound : AreSound given)
    (flag : Flag)
    (onlyOnce : flag.repeats = false) :
    valuesOf flag given = [] ∨ ∃ value, valuesOf flag given = [value] := by
  have once := sound.once.filter (·.1 = flag)
  have isFlag : ∀ pair ∈ given.filter (·.1 = flag), pair.1 = flag := fun pair member =>
    of_decide_eq_true (List.mem_filter.mp member).2
  rw [valuesOf]
  generalize given.filter (·.1 = flag) = found at once isFlag
  rcases found with _ | ⟨first, _ | ⟨second, rest⟩⟩
  · exact Or.inl rfl
  · exact Or.inr ⟨first.2, rfl⟩
  · have isFirst := isFlag first List.mem_cons_self
    have isSecond := isFlag second (List.mem_cons_of_mem _ List.mem_cons_self)
    have repeated := List.rel_of_pairwise_cons once List.mem_cons_self
      (isFirst.trans isSecond.symm)
    rw [isFirst, onlyOnce] at repeated
    cases repeated

/-- What was checked as an assignment is one. -/
theorem isSome_assignment?
    {text : Text}
    (valid : checkValue .env text = .ok ()) :
    (assignment? text).isSome = true := by
  rw [checkValue] at valid
  split at valid
  · assumption
  · cases valid

/-- No assignment is lost when they are taken apart. -/
theorem AreSound.assignments
    (sound : AreSound given) :
    List.Forall₂ Splits (valuesOf .env given)
      ((given.filter (·.1 = .env)).filterMap fun pair => assignment? pair.2) := by
  have assigned : ∀ pair ∈ given.filter (·.1 = .env), (assignment? pair.2).isSome = true := by
    intro pair member
    obtain ⟨isGiven, isEnv⟩ := List.mem_filter.mp member
    have valid := sound.valid pair isGiven
    rw [of_decide_eq_true isEnv] at valid
    exact isSome_assignment? valid
  rw [valuesOf]
  generalize given.filter (·.1 = .env) = found at assigned
  induction found with
  | nil => exact .nil
  | cons pair rest inductionHypothesis =>
      obtain ⟨parts, assignedParts⟩ :=
        Option.isSome_iff_exists.mp (assigned pair List.mem_cons_self)
      rw [List.map_cons, List.filterMap_cons, assignedParts]
      refine .cons (splits_of_assignment? assignedParts) (inductionHypothesis ?_)
      exact fun other member => assigned other (List.mem_cons_of_mem _ member)

/-- Settled options ask for one launch, if they ask for any. -/
theorem AreSound.unambiguous
    (sound : AreSound reading.given)
    (asked : launchArguments reading = .ok args) :
    Unambiguous reading.given args := by
  simp only [launchArguments, value?_eq_head?] at asked
  rcases sound.valuesOf_cases .file rfl with noFile | ⟨path, isFile⟩
  · rcases sound.valuesOf_cases .inline rfl with noInline | ⟨body, isInline⟩
    · rw [noFile, noInline] at asked
      cases asked
    · rw [noFile, isInline] at asked
      obtain rfl := Except.ok.inj asked
      exact ⟨Or.inr ⟨body, noFile, isInline, rfl, rfl⟩, sound.assignments⟩
  · rcases sound.valuesOf_cases .inline rfl with noInline | ⟨body, isInline⟩
    · rw [isFile, noInline] at asked
      obtain rfl := Except.ok.inj asked
      exact ⟨Or.inl ⟨path, isFile, noInline, rfl, rfl⟩, sound.assignments⟩
    · rw [isFile, isInline] at asked
      cases asked

theorem Unambiguous.scriptBodyOr_eq
    (unambiguous : Unambiguous given args)
    (missing : TaskProgram Text) :
    Application.scriptBodyOr missing args = Application.scriptBody args := by
  rcases unambiguous.script with ⟨_, _, _, file, inline⟩ | ⟨_, _, _, file, inline⟩
  · rw [Application.scriptBodyOr, file, inline]
  · rw [Application.scriptBodyOr, file, inline]

end Settled

/-! ## Whole command lines -/

section Lines

variable {arguments : List Text} {invocation : Invocation} {args : LaunchArguments} {verb : Verb}
  {reading : Reading}

/-- What a command line was read as, if it was understood. -/
theorem of_parse
    (parsed : parse arguments = .ok invocation) :
    ∃ top verb behind unsettled settled,
      readTop Reading.start arguments = .ok (top, some (verb, behind)) ∧
      behind.foldlM (step (.behind verb)) Reading.start = .ok unsettled ∧
      unsettled.settle = .ok settled ∧
      command verb settled = .ok invocation.command := by
  rw [parse] at parsed
  obtain ⟨⟨top, verb?⟩, isRead, parsed⟩ := ok_of_bind parsed
  cases verb? with
  | none =>
      obtain ⟨settled, _, parsed⟩ := ok_of_bind parsed
      split at parsed
      · cases parsed
      · cases parsed
  | some found =>
      obtain ⟨unsettled, ran, parsed⟩ := ok_of_bind parsed
      obtain ⟨settled, isSettled, parsed⟩ := ok_of_bind parsed
      obtain ⟨asked, isCommand, parsed⟩ := ok_of_bind parsed
      obtain ⟨settledTop, _, same⟩ := ok_of_bind parsed
      obtain rfl := Except.ok.inj same
      exact ⟨top, found.1, found.2, unsettled, settled, isRead, ran, isSettled, isCommand⟩

/-- Only a subcommand that launches asks for a launch. -/
theorem launchArguments_of_command
    {asked : Command}
    (isCommand : command verb reading = .ok asked)
    (launches : asked = .launch args ∨ asked = .run args) :
    verb.launches = true ∧ launchArguments reading = .ok args := by
  have mapped : ∀ {α : Type} {make : α → Command} {read : Except UsageFault α},
      make <$> read = .ok asked → ∃ value, read = .ok value ∧ asked = make value := by
    intro α make read same
    cases read with
    | error fault => cases same
    | ok value => exact ⟨value, rfl, (Except.ok.inj same).symm⟩
  cases verb with
  | launch =>
      obtain ⟨read, isRead, rfl⟩ := mapped isCommand
      rcases launches with same | same
      · obtain rfl := Command.launch.inj same
        exact ⟨rfl, isRead⟩
      · cases same
  | run =>
      obtain ⟨read, isRead, rfl⟩ := mapped isCommand
      rcases launches with same | same
      · cases same
      · obtain rfl := Command.run.inj same
        exact ⟨rfl, isRead⟩
  | _ =>
      obtain ⟨read, _, rfl⟩ := mapped isCommand
      rcases launches with same | same <;> cases same

/-- Only a subcommand that launches knows assignments. -/
theorem Writes.launches
    {words : List Text}
    {text : Text}
    (writes : Writes (.behind verb) words .env text) :
    verb.launches = true := by
  have known : Flag.env ∈ (Scope.behind verb).flags := by
    cases writes with
    | together attaches => cases attaches <;> assumption
    | apart opens _ => cases opens <;> assumption
  revert known
  cases verb <;> decide

/-- An assignment that is malformed is never passed over. -/
theorem parse_of_malformed
    {before front words rest : List Text}
    {given topGiven : List (Flag × Text)}
    {text : Text}
    (spellsTop : Spells .top before topGiven)
    (spells : Spells (.behind verb) front given)
    (writes : Writes (.behind verb) words .env text)
    (malformed : Malformed text) :
    parse (before ++ verb.name :: (front ++ words ++ rest)) ≠ .ok invocation := by
  intro parsed
  obtain ⟨top, other, behind, unsettled, settled, isRead, ran, isSettled, _⟩ := of_parse parsed
  have noId : (Scope.behind verb).takesId = false := by
    rw [Scope.takesId, writes.launches, Bool.not_true]
  obtain ⟨rfl, rfl⟩ := spellsTop.of_readTop_verb isRead
  rw [List.append_assoc, List.foldlM_append] at ran
  obtain ⟨ahead, ranFront, ran⟩ := ok_of_bind ran
  rw [List.foldlM_append] at ran
  obtain ⟨written, ranWords, ran⟩ := ok_of_bind ran
  obtain ⟨hasReadFront, notTrailingFront⟩ := spells.run ranFront
  obtain ⟨hasReadWords, notTrailingWords⟩ := writes.run hasReadFront notTrailingFront ranWords
  have sound := hasReadWords.sound_of_run noId notTrailingWords ran isSettled
  have valid := sound.valid (.env, text) (List.mem_append_right _ (List.mem_singleton_self _))
  have assigned := isSome_assignment? valid
  rw [assignment?_of_malformed malformed] at assigned
  cases assigned

/-- Whatever the arguments are: if they are accepted as a launch, they can be read in one way
only, as a subcommand that launches with options before and behind it.  The options behind it
name either one file or one script, so no launch comes to the place for a missing script.  Each
assignment is taken apart at its first equals sign, and the process is started with the last
value of each variable.  An assignment that is malformed makes the whole command line be
refused, whatever follows it. -/
theorem launch_unambiguous (arguments : List Text) :
    (∀ invocation args,
      parse arguments = .ok invocation →
      invocation.command = .launch args ∨ invocation.command = .run args →
      ∃ verb given,
        (∀ other otherGiven,
          Reads arguments other otherGiven ↔ other = verb ∧ otherGiven = given) ∧
        verb.launches = true ∧
        Unambiguous given args ∧
        (∀ missing,
          Application.scriptBodyOr missing args = Application.scriptBody args) ∧
        ∀ workspace settings followed,
          (Application.launchTask workspace settings args followed).Keeps
            (Terms.starting fun environment => environment.HoldsLast args.environment)) ∧
    ∀ before verb front words rest topGiven given text invocation,
      arguments = before ++ Verb.name verb :: (front ++ words ++ rest) →
      Spells .top before topGiven →
      Spells (.behind verb) front given →
      Writes (.behind verb) words .env text →
      Malformed text →
      parse arguments ≠ .ok invocation := by
  constructor
  · intro invocation args parsed launches
    obtain ⟨top, verb, behind, unsettled, settled, isRead, ran, isSettled, isCommand⟩ :=
      of_parse parsed
    obtain ⟨verbLaunches, asked⟩ := launchArguments_of_command isCommand launches
    have noId : (Scope.behind verb).takesId = false := by
      rw [Scope.takesId, verbLaunches, Bool.not_true]
    obtain ⟨before, topGiven, shape, spellsTop⟩ := (follows_start .top).readTop isRead
    obtain ⟨spells, sound⟩ := ((follows_start _).run noId ran).of_settle isSettled
    have unambiguous := sound.unambiguous asked
    refine ⟨verb, settled.given, ?_, verbLaunches, unambiguous, unambiguous.scriptBodyOr_eq, ?_⟩
    · intro other otherGiven
      constructor
      · rintro ⟨_, _, _, rfl, otherTop, otherSpells⟩
        obtain ⟨rfl, rfl⟩ := otherTop.of_readTop_verb isRead
        exact ⟨rfl, otherSpells.given_eq ran isSettled⟩
      · rintro ⟨rfl, rfl⟩
        exact ⟨before, behind, topGiven, shape, spellsTop, spells⟩
    · exact fun workspace settings followed =>
        Application.launchTask_starts workspace settings args followed
  · rintro before verb front words rest topGiven given text invocation rfl spellsTop spells writes
      malformed
    exact parse_of_malformed spellsTop spells writes malformed

end Lines

namespace LineSample

/-- Options in all their forms, on both sides of the subcommand, one variable set twice. -/
def accepted : List Text :=
  ["-wplace", "--log-level", "debug", "launch", "-eNAME=first", "--env=OTHER=a=b", "-c",
    "echo", "--config=other.toml", "-e", "NAME=last", "--"].map String.toList

def asked : LaunchArguments :=
  { file := none
    inline := some "echo".toList
    capture := false
    platform := none
    environment :=
      [("NAME".toList, "first".toList), ("OTHER".toList, "a=b".toList),
        ("NAME".toList, "last".toList)] }

def invocation : Invocation :=
  { workspace := Path.ofText "place".toList
    settings := Path.ofText "other.toml".toList
    level := some .debug
    command := .launch asked }

/-- An assignment without a name, among other options. -/
def refused : List Text :=
  ["run", "-c", "echo", "--env", "=value", "--capture"].map String.toList

end LineSample

open LineSample in
/-- The last of two assignments counts, and one without a name is not passed over. -/
theorem launch_unambiguous_sample :
    (∃ verb given,
      (∀ other otherGiven,
        Reads accepted other otherGiven ↔ other = verb ∧ otherGiven = given) ∧
      Unambiguous given asked) ∧
    (Environment.ofList asked.environment).assignments =
      [("NAME".toList, "last".toList), ("OTHER".toList, "a=b".toList)] ∧
    parse refused ≠ .ok invocation := by
  have parsed : parse accepted = .ok invocation := by decide +kernel
  obtain ⟨verb, given, reads, _, unambiguous, _, _⟩ :=
    (launch_unambiguous accepted).1 invocation asked parsed (Or.inl rfl)
  refine ⟨⟨verb, given, reads, unambiguous⟩, by decide +kernel, ?_⟩
  have inline : Opens (.behind .run) ['-', 'c'] .inline := .letter (by decide) rfl rfl
  have env : Opens (.behind .run) ('-' :: '-' :: Flag.env.long) .env := .long (by decide) rfl
  have script : Spells (.behind .run) ["-c".toList, "echo".toList] [(.inline, "echo".toList)] :=
    .more .nothing (.apart inline rfl)
  exact (launch_unambiguous refused).2 [] .run _ _ ["--capture".toList] [] _ _ invocation rfl
    .nothing script (.apart env rfl) (Or.inr (rfl : "=value".toList.head? = some '='))

end CommandLine

end DetachedTasks
