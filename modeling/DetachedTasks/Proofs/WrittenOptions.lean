import DetachedTasks.CommandLine
import DetachedTasks.Proofs.AbsoluteNames
import DetachedTasks.Proofs.TextRuns

/-!
# How options are written

An option is written in one argument with its value, or in two.  Its name is followed by an
equals sign and the value, its letter by the value with or without an equals sign, and the
value that follows in an argument of its own does not look like an option.  An argument that
is read without a fault is one of these, or two dashes alone.
-/

namespace DetachedTasks.CommandLine

/-! ## Options in arguments -/

/-- An argument that is an option with its value. -/
inductive Attaches (scope : Scope) : Text → Flag → Text → Prop where
  | switch
      {flag : Flag}
      (known : flag ∈ scope.flags)
      (bare : flag.takesValue = false)
      (counts : flag ≠ .help ∧ flag ≠ .version) :
      Attaches scope ('-' :: '-' :: flag.long) flag []
  | long
      {flag : Flag}
      {value : Text}
      (known : flag ∈ scope.flags)
      (takes : flag.takesValue = true) :
      Attaches scope ('-' :: '-' :: (flag.long ++ '=' :: value)) flag value
  | letter
      {flag : Flag}
      {letter first : Char}
      {rest : Text}
      (known : flag ∈ scope.flags)
      (takes : flag.takesValue = true)
      (named : flag.letter? = some letter)
      (noEquals : first ≠ '=') :
      Attaches scope ('-' :: letter :: first :: rest) flag (first :: rest)
  | letterEquals
      {flag : Flag}
      {letter : Char}
      {value : Text}
      (known : flag ∈ scope.flags)
      (takes : flag.takesValue = true)
      (named : flag.letter? = some letter) :
      Attaches scope ('-' :: letter :: '=' :: value) flag value

/-- An argument that is an option whose value has to follow. -/
inductive Opens (scope : Scope) : Text → Flag → Prop where
  | long
      {flag : Flag}
      (known : flag ∈ scope.flags)
      (takes : flag.takesValue = true) :
      Opens scope ('-' :: '-' :: flag.long) flag
  | letter
      {flag : Flag}
      {letter : Char}
      (known : flag ∈ scope.flags)
      (takes : flag.takesValue = true)
      (named : flag.letter? = some letter) :
      Opens scope ['-', letter] flag

/-- The arguments of one option with its value. -/
inductive Writes (scope : Scope) : List Text → Flag → Text → Prop where
  | together
      {word : Text}
      {flag : Flag}
      {value : Text}
      (attaches : Attaches scope word flag value) :
      Writes scope [word] flag value
  | apart
      {word : Text}
      {flag : Flag}
      {value : Text}
      (opens : Opens scope word flag)
      (plain : Shape.of value = .plain) :
      Writes scope [word, value] flag value

/-- The arguments of some options with their values. -/
inductive Spells (scope : Scope) : List Text → List (Flag × Text) → Prop where
  | nothing : Spells scope [] []
  | more
      {words argument : List Text}
      {given : List (Flag × Text)}
      {flag : Flag}
      {value : Text}
      (spells : Spells scope words given)
      (writes : Writes scope argument flag value) :
      Spells scope (words ++ argument) (given ++ [(flag, value)])

/-! ## The names of options -/

namespace Flag

/-- Every flag has a long name. -/
theorem long_ne_nil (flag : Flag) : flag.long ≠ [] := by
  cases flag <;> decide

/-- No long name holds the sign that separates it from a value. -/
theorem equals_not_mem_long (flag : Flag) : '=' ∉ flag.long := by
  cases flag <;> decide

/-- The long name tells the flag. -/
theorem long_injective : Function.Injective long := by
  intro first second same
  cases first <;> cases second <;> first | rfl | exact absurd same (by decide)

/-- A letter is not taken for a second dash. -/
theorem letter_ne_dash
    {flag : Flag}
    {letter : Char}
    (named : flag.letter? = some letter) :
    letter ≠ '-' := by
  rintro rfl
  cases flag <;> exact absurd named (by decide)

/-- The letter, where there is one, tells the flag. -/
theorem eq_of_letter?
    {first second : Flag}
    {letter : Char}
    (named : first.letter? = some letter)
    (namedSecond : second.letter? = some letter) :
    first = second := by
  have same : first.letter? = second.letter? := named.trans namedSecond.symm
  have lettered : first.letter? ≠ none := by
    rw [named]
    exact Option.some_ne_none letter
  cases first <;> cases second <;>
    first | rfl | exact absurd same (by decide) | exact absurd rfl lettered

/-- The options with a letter and without a value ask for something else. -/
theorem asks_of_letter?
    {flag : Flag}
    {letter : Char}
    (named : flag.letter? = some letter)
    (bare : flag.takesValue = false) :
    flag = .help ∨ flag = .version := by
  cases flag <;> simp_all [letter?, takesValue]

end Flag

namespace Scope

variable {scope : Scope} {flag : Flag}

/-- What only one option can be is found if it is there. -/
theorem find?_eq_some_iff_of_unique
    {test : Flag → Bool}
    (unique : ∀ first second, test first = true → test second = true → first = second)
    {flags : List Flag} :
    flags.find? test = some flag ↔ flag ∈ flags ∧ test flag = true := by
  constructor
  · intro found
    exact ⟨List.mem_of_find?_eq_some found, List.find?_some found⟩
  · rintro ⟨member, passes⟩
    obtain ⟨other, found⟩ :=
      Option.isSome_iff_exists.mp (List.find?_isSome.mpr ⟨flag, member, passes⟩)
    rw [found, unique other flag (List.find?_some found) passes]

/-- A long name is found if a flag of the scope bears it. -/
theorem long?_eq_some_iff
    {name : Text} :
    scope.long? name = some flag ↔ flag ∈ scope.flags ∧ flag.long = name := by
  rw [long?, find?_eq_some_iff_of_unique, decide_eq_true_eq]
  intro first second isFirst isSecond
  rw [decide_eq_true_eq] at isFirst isSecond
  exact Flag.long_injective (isFirst.trans isSecond.symm)

/-- A letter is found if a flag of the scope bears it. -/
theorem letter?_eq_some_iff
    {letter : Char} :
    scope.letter? letter = some flag ↔ flag ∈ scope.flags ∧ flag.letter? = some letter := by
  rw [letter?, find?_eq_some_iff_of_unique, decide_eq_true_eq]
  intro first second isFirst isSecond
  rw [decide_eq_true_eq] at isFirst isSecond
  exact Flag.eq_of_letter? isFirst isSecond

end Scope

/-! ## One argument -/

/-- Two dashes and more make a long option. -/
theorem shape_long
    {text : Text}
    (notEmpty : text ≠ []) :
    Shape.of ('-' :: '-' :: text) = .long text := by
  cases text with
  | nil => exact absurd rfl notEmpty
  | cons first rest => rfl

/-- One dash and a letter make a row of letters. -/
theorem shape_letters
    {letter : Char}
    (noDash : letter ≠ '-')
    (rest : Text) :
    Shape.of ('-' :: letter :: rest) = .letters (letter :: rest) := by
  rw [Shape.of.eq_def]
  split
  · rename_i same
    exact absurd (List.cons.inj (List.cons.inj same).2).1 noDash
  · rename_i same
    exact absurd (List.cons.inj (List.cons.inj same).2).1 noDash
  · rename_i same
    cases same
  · rename_i same
    cases same
    rfl
  · rename_i other
    exact absurd rfl (other _)

/-- What an argument looks like. -/
theorem shape_cases (word : Text) :
    (word = ['-', '-'] ∧ Shape.of word = .separator) ∨
    (∃ text, word = '-' :: '-' :: text ∧ Shape.of word = .long text) ∨
    (∃ letter rest, word = '-' :: letter :: rest ∧ Shape.of word = .letters (letter :: rest)) ∨
    Shape.of word = .plain := by
  rw [Shape.of.eq_def]
  split
  · exact Or.inl ⟨rfl, rfl⟩
  · exact Or.inr (Or.inl ⟨_, rfl, rfl⟩)
  · exact Or.inr (Or.inr (Or.inr rfl))
  · rename_i text _ _ notAlone
    cases text with
    | nil => exact absurd rfl notAlone
    | cons letter rest => exact Or.inr (Or.inr (Or.inl ⟨letter, rest, rfl, rfl⟩))
  · exact Or.inr (Or.inr (Or.inr rfl))

/-- A name goes up to the first equals sign, or to the end. -/
theorem cut_name
    {name rest : Text}
    (noEquals : '=' ∉ name)
    (stops : ∀ character, rest.head? = some character → character = '=') :
    (name ++ rest).takeWhile (· != '=') = name ∧ (name ++ rest).dropWhile (· != '=') = rest := by
  have matching : ∀ character ∈ name, (character != '=') = true := by
    intro character member
    rw [bne_iff_ne]
    rintro rfl
    exact noEquals member
  have stopsThere : ∀ character, rest.head? = some character → (character != '=') = false := by
    intro character first
    rw [stops character first]
    rfl
  exact ⟨Text.takeWhile_run matching stopsThere, Text.dropWhile_run matching stopsThere⟩

/-- Every text is a name alone, or a name with an equals sign behind it. -/
theorem name_cases (text : Text) :
    '=' ∉ text ∨ ∃ name rest, '=' ∉ name ∧ text = name ++ '=' :: rest := by
  by_cases member : '=' ∈ text
  · obtain ⟨name, rest, shape, noEquals⟩ := List.eq_append_cons_of_mem member
    exact Or.inr ⟨name, rest, noEquals, shape⟩
  · exact Or.inl member

/-- An option without a value is settled at once, like one with an empty value. -/
theorem occur_eq_begin
    {flag : Flag}
    (counts : flag ≠ .help ∧ flag ≠ .version)
    (reading : Reading) :
    reading.occur flag = reading.begin flag (some []) := by
  cases flag <;> first | rfl | exact absurd rfl counts.1 | exact absurd rfl counts.2

/-- An option that asks for help or for the version is never passed over. -/
theorem counts_of_occur
    {reading next : Reading}
    {flag : Flag}
    (occurred : reading.occur flag = .ok next) :
    flag ≠ .help ∧ flag ≠ .version := by
  obtain ⟨settled, _, goesOn⟩ := ok_of_bind occurred
  constructor
  · rintro rfl
    cases goesOn
  · rintro rfl
    cases goesOn

section Arguments

variable {scope : Scope} {reading next : Reading} {word : Text} {flag : Flag} {value : Text}

/-- A long option is looked up by what stands behind its dashes. -/
theorem step_long
    (notTrailing : reading.trailing = false)
    {text : Text}
    (notEmpty : text ≠ []) :
    step scope reading ('-' :: '-' :: text) = reading.long scope text := by
  rw [step, notTrailing, if_neg Bool.false_ne_true, shape_long notEmpty]

/-- A row of letters is read letter by letter. -/
theorem step_letters
    (notTrailing : reading.trailing = false)
    {letter : Char}
    (noDash : letter ≠ '-')
    (rest : Text) :
    step scope reading ('-' :: letter :: rest) = reading.letters scope (letter :: rest) := by
  rw [step, notTrailing, if_neg Bool.false_ne_true, shape_letters noDash]

/-- An option by its long name, alone or with a value behind an equals sign. -/
theorem long_eq
    (reading : Reading)
    (known : flag ∈ scope.flags)
    (rest : Text)
    (stops : ∀ character, rest.head? = some character → character = '=') :
    reading.long scope (flag.long ++ rest) =
      if flag.takesValue then reading.begin flag rest.tail?
      else if rest.tail?.isSome then .error .tooManyValues
      else reading.occur flag := by
  obtain ⟨name, behind⟩ := cut_name flag.equals_not_mem_long stops
  rw [Reading.long, name, behind, Scope.long?_eq_some_iff.mpr ⟨known, rfl⟩]
  cases rest <;> rfl

/-- The value that stands behind the letter of an option in one argument. -/
def attached? : Text → Option Text
  | [] => none
  | '=' :: value => some value
  | value => some value

/-- Letters without values are read on; the first one with a value takes the rest of the word. -/
theorem letters_cons
    (scope : Scope)
    (reading : Reading)
    (letter : Char)
    (rest : Text) :
    reading.letters scope (letter :: rest) =
      match scope.letter? letter with
      | none => .error .unknownArgument
      | some flag =>
          if flag.takesValue then reading.begin flag (attached? rest)
          else reading.occur flag >>= fun next => next.letters scope rest := by
  rw [Reading.letters.eq_def]
  cases rest <;> rfl

/-- A letter that takes a value begins its option with what is attached to it. -/
theorem letters_eq
    (reading : Reading)
    (known : flag ∈ scope.flags)
    (takes : flag.takesValue = true)
    {letter : Char}
    (named : flag.letter? = some letter)
    (rest : Text) :
    reading.letters scope (letter :: rest) = reading.begin flag (attached? rest) := by
  rw [letters_cons, Scope.letter?_eq_some_iff.mpr ⟨known, named⟩]
  exact if_pos takes

/-- What follows the letter is the value itself, unless an equals sign stands between them. -/
theorem attached?_cons
    {first : Char}
    (noEquals : first ≠ '=')
    (rest : Text) :
    attached? (first :: rest) = some (first :: rest) := by
  rw [attached?.eq_3 _ (by simp) (fun _ same => noEquals (List.cons.inj same).1)]

/-- An option with a value by its letter, alone or with the value behind it. -/
theorem step_letter
    (notTrailing : reading.trailing = false)
    (known : flag ∈ scope.flags)
    (takes : flag.takesValue = true)
    {letter : Char}
    (named : flag.letter? = some letter)
    (rest : Text) :
    step scope reading ('-' :: letter :: rest) = reading.begin flag (attached? rest) := by
  rw [step_letters notTrailing (Flag.letter_ne_dash named), letters_eq reading known takes named]

/-- A word that attaches a value begins its option with the value. -/
theorem step_of_attaches
    (notTrailing : reading.trailing = false)
    (attaches : Attaches scope word flag value) :
    step scope reading word = reading.begin flag (some value) := by
  cases attaches with
  | switch known bare counts =>
      have alone := long_eq reading known [] nofun
      rw [List.append_nil, bare, if_neg Bool.false_ne_true, List.tail?_nil, Option.isSome_none,
        if_neg Bool.false_ne_true, occur_eq_begin counts] at alone
      rw [step_long notTrailing flag.long_ne_nil, alone]
  | long known takes =>
      have valued := long_eq reading known ('=' :: value)
        fun _ first => (Option.some.inj first).symm
      rw [takes, if_pos rfl, List.tail?_cons] at valued
      rw [step_long notTrailing (List.append_ne_nil_of_left_ne_nil flag.long_ne_nil _), valued]
  | letter known takes named noEquals =>
      rw [step_letter notTrailing known takes named, attached?_cons noEquals]
  | letterEquals known takes named =>
      exact step_letter notTrailing known takes named _

/-- A word that opens an option leaves it without a value for the next word. -/
theorem step_of_opens
    (notTrailing : reading.trailing = false)
    (opens : Opens scope word flag) :
    step scope reading word = reading.begin flag none := by
  cases opens with
  | long known takes =>
      have alone := long_eq reading known [] nofun
      rw [List.append_nil, takes, if_pos rfl, List.tail?_nil] at alone
      rw [step_long notTrailing flag.long_ne_nil, alone]
  | letter known takes named =>
      exact step_letter notTrailing known takes named _

/-- What a long option can be that is read without a fault. -/
theorem long_cases
    {text : Text}
    (read : reading.long scope text = .ok next) :
    (∃ flag value, Attaches scope ('-' :: '-' :: text) flag value ∧
      reading.begin flag (some value) = .ok next) ∨
    ∃ flag, Opens scope ('-' :: '-' :: text) flag ∧ reading.begin flag none = .ok next := by
  obtain ⟨name, rest, noEquals, stops, rfl⟩ : ∃ name rest : Text, '=' ∉ name ∧
      (∀ character, rest.head? = some character → character = '=') ∧ text = name ++ rest := by
    rcases name_cases text with noEquals | ⟨name, value, noEquals, rfl⟩
    · exact ⟨text, [], noEquals, nofun, (List.append_nil text).symm⟩
    · exact ⟨name, '=' :: value, noEquals, fun _ first => (Option.some.inj first).symm, rfl⟩
  obtain ⟨isName, isRest⟩ := cut_name noEquals stops
  have isKnown : ∃ flag ∈ scope.flags, flag.long = name := by
    cases found : scope.long? name with
    | some flag =>
        obtain ⟨known, named⟩ := Scope.long?_eq_some_iff.mp found
        exact ⟨flag, known, named⟩
    | none =>
        rw [Reading.long, isName, isRest, found] at read
        cases read
  obtain ⟨flag, known, rfl⟩ := isKnown
  rw [long_eq reading known rest stops] at read
  cases takes : flag.takesValue with
  | true =>
      rw [takes, if_pos rfl] at read
      cases rest with
      | nil =>
          rw [List.append_nil]
          exact Or.inr ⟨flag, .long known takes, read⟩
      | cons first value =>
          obtain rfl := stops first rfl
          exact Or.inl ⟨flag, value, .long known takes, read⟩
  | false =>
      rw [takes, if_neg Bool.false_ne_true] at read
      cases rest with
      | cons first value => cases read
      | nil =>
          have counts := counts_of_occur read
          have begun : reading.begin flag (some []) = .ok next := by
            rw [← occur_eq_begin counts]
            exact read
          rw [List.append_nil]
          exact Or.inl ⟨flag, [], .switch known takes counts, begun⟩

/-- What letters can be that are read without a fault. -/
theorem letters_cases
    {letter : Char}
    {rest : Text}
    (read : reading.letters scope (letter :: rest) = .ok next) :
    (∃ flag value, Attaches scope ('-' :: letter :: rest) flag value ∧
      reading.begin flag (some value) = .ok next) ∨
    ∃ flag, Opens scope ('-' :: letter :: rest) flag ∧ reading.begin flag none = .ok next := by
  cases found : scope.letter? letter with
  | none =>
      rw [letters_cons, found] at read
      cases read
  | some flag =>
      obtain ⟨known, named⟩ := Scope.letter?_eq_some_iff.mp found
      cases takes : flag.takesValue with
      | true =>
          rw [letters_eq reading known takes named] at read
          cases rest with
          | nil => exact Or.inr ⟨flag, .letter known takes named, read⟩
          | cons first rest =>
              by_cases isEquals : first = '='
              · subst isEquals
                exact Or.inl ⟨flag, rest, .letterEquals known takes named, read⟩
              · rw [attached?_cons isEquals] at read
                exact Or.inl ⟨flag, first :: rest, .letter known takes named isEquals, read⟩
      | false =>
          rw [letters_cons, found] at read
          simp only [takes, if_neg Bool.false_ne_true] at read
          obtain ⟨_, occurred, _⟩ := ok_of_bind read
          obtain ⟨notHelp, notVersion⟩ := counts_of_occur occurred
          rcases Flag.asks_of_letter? named takes with isHelp | isVersion
          · exact absurd isHelp notHelp
          · exact absurd isVersion notVersion

/-- Where there is no place for the id of a task, nothing but options is read. -/
theorem plain_of_noId
    (noId : scope.takesId = false)
    (reading : Reading)
    (text : Text) :
    ∃ fault, reading.plain scope text = .error fault := by
  rw [Reading.plain, noId, Bool.false_and, if_neg Bool.false_ne_true]
  split_ifs
  · exact ⟨_, rfl⟩
  · exact ⟨_, rfl⟩
  · exact ⟨_, rfl⟩

/-- What an argument can be that is read without a fault, where there is no place for the id of
a task. -/
theorem step_cases
    (noId : scope.takesId = false)
    (notTrailing : reading.trailing = false)
    (stepped : step scope reading word = .ok next) :
    (word = ['-', '-'] ∧ next = { reading with trailing := true }) ∨
    (∃ flag value, Attaches scope word flag value ∧
      reading.begin flag (some value) = .ok next) ∨
    (∃ flag, Opens scope word flag ∧ reading.begin flag none = .ok next) ∨
    (Shape.of word = .plain ∧ reading.awaiting = true ∧ next = reading.takeValue word) := by
  rw [step, notTrailing, if_neg Bool.false_ne_true] at stepped
  rcases shape_cases word with ⟨rfl, shape⟩ | ⟨text, rfl, shape⟩ | ⟨letter, rest, rfl, shape⟩ |
    shape
  · rw [shape] at stepped
    exact Or.inl ⟨rfl, (Except.ok.inj stepped).symm⟩
  · rw [shape] at stepped
    exact Or.inr ((long_cases stepped).imp_right Or.inl)
  · rw [shape] at stepped
    exact Or.inr ((letters_cases stepped).imp_right Or.inl)
  · simp only [shape] at stepped
    cases awaits : reading.awaiting with
    | true =>
        rw [awaits, if_pos rfl] at stepped
        exact Or.inr (Or.inr (Or.inr ⟨shape, rfl, (Except.ok.inj stepped).symm⟩))
    | false =>
        rw [awaits, if_neg Bool.false_ne_true] at stepped
        obtain ⟨fault, refused⟩ := plain_of_noId noId reading word
        rw [refused] at stepped
        cases stepped

end Arguments

end DetachedTasks.CommandLine
