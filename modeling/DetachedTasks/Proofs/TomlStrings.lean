import DetachedTasks.Toml.Quoted
import DetachedTasks.Toml.Writer
import Mathlib.Tactic.Common

/-!
# Strings in TOML read back

A string is written in one of four forms, and the reader of each form gives the string back.
The forms on several lines need care where quotes stand in a row: the writer leaves at most
two of them bare, and the reader tells them from the closing ones by looking ahead.
-/

namespace DetachedTasks.Toml

namespace Quoted

/-! ### What the readers do with one character -/

/-- The letters that stand behind a backslash in what is written here. -/
def letters : List Char :=
  ['b', 't', 'n', 'f', 'r', '"', '\\']

/-- An escape of one letter is read as its character. -/
theorem basic?_letter
    {letter : Char}
    (member : letter ∈ letters)
    (rest : Text) :
    basic? ('\\' :: letter :: rest) = prepend (escape? letter) (basic? rest) := by
  simp only [letters, List.mem_cons, List.not_mem_nil, or_false] at member
  rw [basic?]
  all_goals rcases member with rfl | rfl | rfl | rfl | rfl | rfl | rfl <;> simp

/-- An escape by code is read as the scalar value with this code. -/
theorem basic?_code
    (first second third fourth : Char)
    (rest : Text) :
    basic? ('\\' :: 'u' :: first :: second :: third :: fourth :: rest) =
      prepend (scalar? [first, second, third, fourth]) (basic? rest) := rfl

/-- An escape of one letter is read alike in a string of several lines. -/
theorem basicLines?_letter
    {letter : Char}
    (member : letter ∈ letters)
    (rest : Text) :
    basicLines? false ('\\' :: letter :: rest) =
      prepend (escape? letter) (basicLines? false rest) := by
  simp only [letters, List.mem_cons, List.not_mem_nil, or_false] at member
  rw [basicLines?]
  · rw [if_neg]
    rcases member with rfl | rfl | rfl | rfl | rfl | rfl | rfl <;> simp [beginsWithLineEnd]
  all_goals rcases member with rfl | rfl | rfl | rfl | rfl | rfl | rfl <;> simp

/-- An escape by code is read alike in a string of several lines. -/
theorem basicLines?_code
    (first second third fourth : Char)
    (rest : Text) :
    basicLines? false ('\\' :: 'u' :: first :: second :: third :: fourth :: rest) =
      prepend (scalar? [first, second, third, fourth]) (basicLines? false rest) := rfl

/-- A quote that no two others follow is a character of the string. -/
theorem basicLines?_quote
    {rest : Text}
    (notClosing : ∀ more, rest ≠ '"' :: '"' :: more) :
    basicLines? false ('"' :: rest) = prepend (some '"') (basicLines? false rest) := by
  rw [basicLines?]
  · rfl
  all_goals simp_all

/-- Three quotes close the string, and so do the last three of more. -/
theorem basicLines?_close
    {rest : Text}
    (last : ∀ more, rest ≠ '"' :: more) :
    basicLines? false ('"' :: '"' :: '"' :: rest) = some ([], rest) := by
  rw [basicLines?]
  · intro more same
    exact last _ same
  · exact last

/-- A fourth quote in a row belongs to the string, and closes it. -/
theorem basicLines?_one_close
    {rest : Text}
    (last : ∀ more, rest ≠ '"' :: more) :
    basicLines? false ('"' :: '"' :: '"' :: '"' :: rest) = some (['"'], rest) := by
  rw [basicLines?]
  exact last

/-- Of five quotes in a row the first two belong to the string. -/
theorem basicLines?_two_close (rest : Text) :
    basicLines? false ('"' :: '"' :: '"' :: '"' :: '"' :: rest) =
      some (['"', '"'], rest) := rfl

/-- A quote that closes nothing belongs to the string. -/
theorem literalLines?_quote
    {rest : Text}
    (notClosing : ∀ more, rest ≠ '\'' :: '\'' :: more) :
    literalLines? ('\'' :: rest) = prepend (some '\'') (literalLines? rest) := by
  rw [literalLines?]
  · rfl
  all_goals simp_all

/-- Three quotes and no fourth one close the string. -/
theorem literalLines?_close
    {rest : Text}
    (last : ∀ more, rest ≠ '\'' :: more) :
    literalLines? ('\'' :: '\'' :: '\'' :: rest) = some ([], rest) := by
  rw [literalLines?]
  · intro more same
    exact last _ same
  · exact last

/-- Of four quotes in a row the first one belongs to the string. -/
theorem literalLines?_one_close
    {rest : Text}
    (last : ∀ more, rest ≠ '\'' :: more) :
    literalLines? ('\'' :: '\'' :: '\'' :: '\'' :: rest) = some (['\''], rest) := by
  rw [literalLines?]
  exact last

/-- Of five quotes in a row the first two belong to a literal string as well. -/
theorem literalLines?_two_close (rest : Text) :
    literalLines? ('\'' :: '\'' :: '\'' :: '\'' :: '\'' :: rest) =
      some (['\'', '\''], rest) := rfl

end Quoted

namespace Writer

open Quoted

/-! ### What the writer does with one character -/

/-- A character is written as it is, or as a letter behind a backslash, or with its code. -/
inductive Written (character : Char) : Prop where
  | plain
      (bare : escape? character = none)
      (plain : isPlain character = true)
      (notBackslash : character ≠ '\\')
      (notReturn : character ≠ '\r')
  | letter
      (letter : Char)
      (member : letter ∈ letters)
      (escaped : escape? character = some ['\\', letter])
      (read : Quoted.escape? letter = some character)
  | code
      (first second : Char)
      (escaped : escape? character = some ['\\', 'u', '0', '0', first, second])
      (read : scalar? ['0', '0', first, second] = some character)

/-- The code of a control character is read back. -/
theorem scalar?_hexadecimalPair
    {number : Nat}
    (control : number < 0x20 ∨ number = 0x7F) :
    scalar? ('0' :: '0' :: hexadecimalPair number) = some (Char.ofNat number) := by
  have codes : ∀ small, small < 0x80 → small < 0x20 ∨ small = 0x7F →
      scalar? ('0' :: '0' :: hexadecimalPair small) = some (Char.ofNat small) := by decide
  exact codes number (by omega) control

/-- Every character other than a line feed is written in one of these ways. -/
theorem written
    {character : Char}
    (notLineFeed : character ≠ '\n') :
    Written character := by
  by_cases backspace : character = '\x08'
  · subst backspace
    exact .letter 'b' (by decide) rfl rfl
  · by_cases tab : character = '\t'
    · subst tab
      exact .letter 't' (by decide) rfl rfl
    · by_cases formFeed : character = '\x0c'
      · subst formFeed
        exact .letter 'f' (by decide) rfl rfl
      · by_cases carriageReturn : character = '\r'
        · subst carriageReturn
          exact .letter 'r' (by decide) rfl rfl
        · by_cases backslash : character = '\\'
          · subst backslash
            exact .letter '\\' (by decide) rfl rfl
          · by_cases control : character.toNat < 0x20 ∨ character.toNat = 0x7F
            · refine .code _ _ ?_ ((scalar?_hexadecimalPair control).trans ?_)
              · simp only [escape?, backspace, tab, formFeed, carriageReturn, backslash,
                  Bool.or_eq_true, decide_eq_true_eq, control, if_true, if_false]
                rfl
              · rw [Char.ofNat_toNat]
            · refine .plain ?_ ?_ backslash carriageReturn
              · simp only [escape?, backspace, tab, formFeed, carriageReturn, backslash,
                  Bool.or_eq_true, decide_eq_true_eq, control, if_false]
              · rw [not_or] at control
                simp only [isPlain, Bool.or_eq_true, Bool.and_eq_true, decide_eq_true_eq,
                  bne_iff_ne]
                exact Or.inr ⟨Nat.not_lt.mp control.1, control.2⟩

/-! ### Basic strings -/

theorem prepend_some
    (character : Char)
    (string rest : Text) :
    prepend (some character) (some (string, rest)) = some (character :: string, rest) := rfl

/-- What the inside of a basic string begins with is no bare quote, if the first character is
none or no quote may stand bare. -/
theorem escapeFrom_cons
    (lines : Bool)
    {allowed seen : Nat}
    (character : Char)
    (notBare : character ≠ '"' ∨ allowed ≤ seen)
    (text : Text) :
    ∃ first more,
      escapeFrom lines allowed seen (character :: text) = first :: more ∧ first ≠ '"' := by
  rw [escapeFrom]
  by_cases quote : character = '"'
  · have full : ¬ seen < allowed := by
      rcases notBare with noQuote | full
      · exact absurd quote noQuote
      · exact Nat.not_lt.mpr full
    rw [if_pos quote, if_neg full]
    exact ⟨'\\', _, rfl, by decide⟩
  · rw [if_neg quote]
    by_cases lineFeed : character = '\n'
    · rw [if_pos lineFeed]
      cases lines
      · exact ⟨'\\', _, rfl, by decide⟩
      · exact ⟨'\n', _, rfl, by decide⟩
    · rw [if_neg lineFeed]
      cases written lineFeed with
      | plain bare _ _ _ =>
          rw [bare]
          exact ⟨character, _, rfl, quote⟩
      | letter letter _ escaped _ =>
          rw [escaped]
          exact ⟨'\\', _, rfl, by decide⟩
      | code first second escaped _ =>
          rw [escaped]
          exact ⟨'\\', _, rfl, by decide⟩

/-- A basic string on one line is read back. -/
theorem basic?_escapeFrom
    (text rest : Text) :
    basic? (escapeFrom false 0 0 text ++ '"' :: rest) = some (text, rest) := by
  induction text with
  | nil => rfl
  | cons character text inductionHypothesis =>
      rw [escapeFrom]
      by_cases quote : character = '"'
      · subst quote
        rw [if_pos rfl, if_neg (by decide), List.cons_append, List.cons_append,
          basic?_letter (by decide), inductionHypothesis]
        rfl
      · rw [if_neg quote]
        by_cases lineFeed : character = '\n'
        · subst lineFeed
          rw [if_pos rfl, List.append_assoc]
          simp only [Bool.false_eq_true, if_false, List.cons_append, List.nil_append]
          rw [basic?_letter (by decide), inductionHypothesis]
          rfl
        · rw [if_neg lineFeed, List.append_assoc]
          cases written lineFeed with
          | plain bare plain notBackslash notReturn =>
              rw [bare, Option.getD_none, List.singleton_append,
                basic?_plain quote notBackslash plain, inductionHypothesis, prepend_some]
          | letter letter member escaped read =>
              rw [escaped, Option.getD_some, List.cons_append, List.cons_append,
                List.nil_append, basic?_letter member, read, inductionHypothesis,
                prepend_some]
          | code first second escaped read =>
              rw [escaped, Option.getD_some]
              simp only [List.cons_append, List.nil_append]
              rw [basic?_code, read, inductionHypothesis, prepend_some]

/-- What follows a bare quote closes the string only at its end. -/
theorem escapeFrom_notClosing
    {seen : Nat}
    (few : 0 < seen)
    {text : Text}
    (notEmpty : text ≠ [])
    (notQuote : text ≠ ['"'])
    (rest more : Text) :
    escapeFrom true 2 seen text ++ '"' :: '"' :: '"' :: rest ≠ '"' :: '"' :: more := by
  cases text with
  | nil => exact absurd rfl notEmpty
  | cons character text =>
      by_cases bare : character = '"' ∧ seen < 2
      · obtain ⟨quote, room⟩ := bare
        subst quote
        cases text with
        | nil => exact absurd rfl notQuote
        | cons second text =>
            obtain ⟨first, others, shape, firstNe⟩ :=
              escapeFrom_cons true second (Or.inr (Nat.succ_le_succ few)) text
            rw [escapeFrom, if_pos rfl, if_pos room, shape]
            intro same
            injection same with _ same
            injection same with isQuote _
            exact firstNe isQuote
      · have notBare : character ≠ '"' ∨ 2 ≤ seen := by
          by_cases quote : character = '"'
          · exact Or.inr (Nat.not_lt.mp fun room => bare ⟨quote, room⟩)
          · exact Or.inl quote
        obtain ⟨first, others, shape, firstNe⟩ :=
          escapeFrom_cons true character notBare text
        rw [shape]
        intro same
        injection same with isQuote _
        exact firstNe isQuote

/-- A basic string on several lines is read back. -/
theorem basicLines?_escapeFrom
    {rest : Text}
    (last : ∀ more, rest ≠ '"' :: more)
    (text : Text)
    {seen : Nat}
    (few : seen ≤ 2) :
    basicLines? false (escapeFrom true 2 seen text ++ '"' :: '"' :: '"' :: rest) =
      some (text, rest) := by
  induction text generalizing seen with
  | nil => exact basicLines?_close last
  | cons character text inductionHypothesis =>
      rw [escapeFrom]
      by_cases quote : character = '"'
      · subst quote
        rw [if_pos rfl]
        by_cases room : seen < 2
        · rw [if_pos room, List.cons_append]
          -- Bare quotes right before the closing ones are read together with them.
          by_cases empty : text = []
          · subst empty
            exact basicLines?_one_close last
          · by_cases oneMore : text = ['"']
            · subst oneMore
              by_cases first : seen = 0
              · subst first
                exact basicLines?_two_close rest
              · have full : ¬ seen + 1 < 2 := by omega
                rw [basicLines?_quote, inductionHypothesis (by omega), prepend_some]
                intro more
                rw [escapeFrom, if_pos rfl, if_neg full]
                intro same
                injection same with impossible _
                exact absurd impossible (by decide)
            · rw [basicLines?_quote, inductionHypothesis (by omega), prepend_some]
              exact escapeFrom_notClosing (Nat.succ_pos seen) empty oneMore rest
        · rw [if_neg room, List.cons_append, List.cons_append,
            basicLines?_letter (by decide), inductionHypothesis (by decide)]
          rfl
      · rw [if_neg quote]
        by_cases lineFeed : character = '\n'
        · subst lineFeed
          rw [if_pos rfl, if_pos rfl, List.append_assoc, List.singleton_append,
            basicLines?_plain (by decide) (by decide) (by decide) (Or.inl rfl),
            inductionHypothesis (by decide), prepend_some]
        · rw [if_neg lineFeed, List.append_assoc]
          cases written lineFeed with
          | plain bare plain notBackslash notReturn =>
              rw [bare, Option.getD_none, List.singleton_append,
                basicLines?_plain quote notBackslash notReturn (Or.inr plain),
                inductionHypothesis (by decide), prepend_some]
          | letter letter member escaped read =>
              rw [escaped, Option.getD_some, List.cons_append, List.cons_append,
                List.nil_append, basicLines?_letter member, read,
                inductionHypothesis (by decide), prepend_some]
          | code first second escaped read =>
              rw [escaped, Option.getD_some]
              simp only [List.cons_append, List.nil_append]
              rw [basicLines?_code, read, inductionHypothesis (by decide), prepend_some]

/-! ### Literal strings -/

/-- A character that a literal string holds as it is. -/
theorem plain_of_not_isControl
    {character : Char}
    (free : isControl character = false) :
    character ≠ '\r' ∧ (character = '\n' ∨ isPlain character = true) := by
  constructor
  · intro carriageReturn
    rw [carriageReturn] at free
    exact absurd free (by decide)
  · by_cases lineFeed : character = '\n'
    · exact Or.inl lineFeed
    · right
      by_cases tab : character = '\t'
      · rw [tab]
        decide
      · simp only [isControl, bne_iff_ne.mpr tab, bne_iff_ne.mpr lineFeed, Bool.and_true,
          Bool.or_eq_false_iff, decide_eq_false_iff_not, beq_eq_false_iff_ne] at free
        simp only [isPlain, Bool.or_eq_true, Bool.and_eq_true, decide_eq_true_eq,
          bne_iff_ne]
        exact Or.inr ⟨Nat.not_lt.mp free.1, free.2⟩

/-- A literal string on one line is read back. -/
theorem literal?_append
    {text : Text}
    (free : ∀ character ∈ text, isControl character = false)
    (noQuote : '\'' ∉ text)
    (noLineFeed : '\n' ∉ text)
    (rest : Text) :
    literal? (text ++ '\'' :: rest) = some (text, rest) := by
  induction text with
  | nil => rfl
  | cons character text inductionHypothesis =>
      rw [List.mem_cons, not_or] at noQuote noLineFeed
      have plain := (plain_of_not_isControl (free character List.mem_cons_self)).2
      rw [List.cons_append,
        literal?_plain (Ne.symm noQuote.1) (plain.resolve_left (Ne.symm noLineFeed.1)),
        inductionHypothesis (fun other member => free other (List.mem_cons_of_mem _ member))
          noQuote.2 noLineFeed.2, prepend_some]

/-- The runs that were read so far do not get shorter. -/
theorem le_longestRunFrom
    (wanted : Char)
    (current longest : Nat)
    (text : Text) :
    current ≤ longestRunFrom wanted current longest text ∧
      longest ≤ longestRunFrom wanted current longest text := by
  induction text generalizing current longest with
  | nil => exact ⟨Nat.le_max_left _ _, Nat.le_max_right _ _⟩
  | cons character text inductionHypothesis =>
      rw [longestRunFrom]
      split
      · exact ⟨Nat.le_of_succ_le (inductionHypothesis (current + 1) longest).1,
          (inductionHypothesis (current + 1) longest).2⟩
      · have later := (inductionHypothesis 0 (max current longest)).2
        exact ⟨Nat.le_trans (Nat.le_max_left _ _) later,
          Nat.le_trans (Nat.le_max_right _ _) later⟩

/-- A literal string on several lines is read back. -/
theorem literalLines?_append
    {rest : Text}
    (last : ∀ more, rest ≠ '\'' :: more)
    {text : Text}
    (free : ∀ character ∈ text, isControl character = false)
    {current longest : Nat}
    (few : longestRunFrom '\'' current longest text ≤ 2) :
    literalLines? (text ++ '\'' :: '\'' :: '\'' :: rest) = some (text, rest) := by
  induction text generalizing current longest with
  | nil => exact literalLines?_close last
  | cons character text inductionHypothesis =>
      have freeRest : ∀ other ∈ text, isControl other = false :=
        fun other member => free other (List.mem_cons_of_mem _ member)
      rw [longestRunFrom] at few
      by_cases quote : character = '\''
      · subst quote
        rw [if_pos rfl] at few
        by_cases empty : text = []
        · subst empty
          exact literalLines?_one_close last
        · by_cases oneMore : text = ['\'']
          · subst oneMore
            exact literalLines?_two_close rest
          · rw [List.cons_append, literalLines?_quote, inductionHypothesis freeRest few,
              prepend_some]
            intro more same
            cases text with
            | nil => exact empty rfl
            | cons second text =>
                cases text with
                | nil =>
                    injection same with isQuote _
                    exact oneMore (by rw [isQuote])
                | cons third text =>
                    -- Three quotes in a row would be a run that is too long.
                    injection same with isQuote same
                    injection same with alsoQuote _
                    subst isQuote
                    subst alsoQuote
                    rw [longestRunFrom, if_pos rfl, longestRunFrom, if_pos rfl] at few
                    have long := (le_longestRunFrom '\'' (current + 1 + 1 + 1) longest text).1
                    omega
      · rw [if_neg quote] at few
        obtain ⟨notReturn, plain⟩ := plain_of_not_isControl (free character List.mem_cons_self)
        rw [List.cons_append, literalLines?_plain quote notReturn plain,
          inductionHypothesis freeRest few, prepend_some]

/-! ### Strings in any form -/

/-- The rest of a document behind a string. -/
structure Ends (rest : Text) : Prop where
  notQuote : ∀ more, rest ≠ '"' :: more
  notApostrophe : ∀ more, rest ≠ '\'' :: more

theorem ends_lineFeed (rest : Text) :
    Ends ('\n' :: rest) where
  notQuote := by
    intro more same
    injection same with impossible _
    exact absurd impossible (by decide)
  notApostrophe := by
    intro more same
    injection same with impossible _
    exact absurd impossible (by decide)

/-- A basic string is read back, whatever it holds. -/
theorem string?_basic
    {rest : Text}
    (ends : Ends rest)
    (text : Text) :
    string? (stringIn .basic text ++ rest) = some (text, rest) := by
  have read := basic?_escapeFrom text rest
  have shape :
      stringIn .basic text ++ rest = '"' :: (escapeFrom false 0 0 text ++ '"' :: rest) := by
    simp [stringIn]
  have oneLine :
      string? ('"' :: (escapeFrom false 0 0 text ++ '"' :: rest)) =
        oneLine? ('"' :: (escapeFrom false 0 0 text ++ '"' :: rest)) := by
    rw [string?]
    · intro more same
      injection same with _ same
      cases text with
      | nil =>
          injection same with _ same
          exact ends.notQuote _ same
      | cons character text =>
          obtain ⟨first, others, begin, firstNe⟩ :=
            escapeFrom_cons false character (Or.inr (Nat.le_refl 0)) text
          rw [begin] at same
          injection same with isQuote _
          exact firstNe isQuote
    · intro more same
      injection same with impossible _
      exact absurd impossible (by decide)
  rw [shape, oneLine, oneLine?, read]

/-- A literal string is read back if it has neither quotes nor line feeds nor control
characters. -/
theorem string?_literal
    {rest : Text}
    (ends : Ends rest)
    {text : Text}
    (free : ∀ character ∈ text, isControl character = false)
    (noQuote : '\'' ∉ text)
    (noLineFeed : '\n' ∉ text) :
    string? (stringIn .literal text ++ rest) = some (text, rest) := by
  have read := literal?_append free noQuote noLineFeed rest
  have shape :
      stringIn .literal text ++ rest = '\'' :: (text ++ '\'' :: rest) := by
    simp [stringIn]
  have oneLine :
      string? ('\'' :: (text ++ '\'' :: rest)) =
        oneLine? ('\'' :: (text ++ '\'' :: rest)) := by
    rw [string?]
    · intro more same
      injection same with impossible _
      exact absurd impossible (by decide)
    · intro more same
      injection same with _ same
      cases text with
      | nil =>
          injection same with _ same
          exact ends.notApostrophe _ same
      | cons character text =>
          injection same with isQuote _
          exact noQuote (isQuote ▸ List.mem_cons_self)
  rw [shape, oneLine, oneLine?, read]

/-- The line end behind opening quotes is dropped again, and nothing else is. -/
theorem dropFirstLineEnd_append
    {text inside : Text}
    (begin :
      '\n' ∉ text → ∀ more, inside ≠ '\n' :: more ∧ inside ≠ '\r' :: more) :
    dropFirstLineEnd (firstLineEnd text ++ inside) = inside := by
  rw [firstLineEnd]
  by_cases lineFeed : '\n' ∈ text
  · rw [if_pos (List.contains_iff_mem.mpr lineFeed)]
    rfl
  · have absent : ¬ text.contains '\n' = true :=
      fun member => lineFeed (List.contains_iff_mem.mp member)
    rw [if_neg absent, List.nil_append, dropFirstLineEnd]
    · exact fun more same => (begin lineFeed more).1 same
    · exact fun more same => (begin lineFeed _).2 same

/-- The inside of a basic string begins with a line end only if the string does. -/
theorem escapeFrom_noLineEnd
    {text : Text}
    (noLineFeed : '\n' ∉ text)
    (rest more : Text) :
    escapeFrom true 2 0 text ++ '"' :: rest ≠ '\n' :: more ∧
      escapeFrom true 2 0 text ++ '"' :: rest ≠ '\r' :: more := by
  have differs : ∀ {first : Char} {others : Text}, first ≠ '\n' → first ≠ '\r' →
      first :: others ≠ '\n' :: more ∧ first :: others ≠ '\r' :: more := by
    intro first others notLineFeed notReturn
    constructor
    · intro same
      injection same with impossible _
      exact notLineFeed impossible
    · intro same
      injection same with impossible _
      exact notReturn impossible
  cases text with
  | nil => exact differs (by decide) (by decide)
  | cons character text =>
      rw [List.mem_cons, not_or] at noLineFeed
      rw [escapeFrom]
      by_cases quote : character = '"'
      · subst quote
        exact differs (by decide) (by decide)
      · rw [if_neg quote, if_neg (Ne.symm noLineFeed.1)]
        cases written (Ne.symm noLineFeed.1) with
        | plain bare _ _ notReturn =>
            rw [bare]
            exact differs (Ne.symm noLineFeed.1) notReturn
        | letter letter _ escaped _ =>
            rw [escaped]
            exact differs (by decide) (by decide)
        | code first second escaped _ =>
            rw [escaped]
            exact differs (by decide) (by decide)

/-- A basic string of several lines is read back, whatever it holds. -/
theorem string?_basicLines
    {rest : Text}
    (ends : Ends rest)
    (text : Text) :
    string? (stringIn .basicLines text ++ rest) = some (text, rest) := by
  have shape :
      stringIn .basicLines text ++ rest =
        '"' :: '"' :: '"' ::
          (firstLineEnd text ++
            (escapeFrom true 2 0 text ++ '"' :: '"' :: '"' :: rest)) := by
    simp [stringIn]
  rw [shape, string?,
    dropFirstLineEnd_append fun noLineFeed more => escapeFrom_noLineEnd noLineFeed _ more,
    basicLines?_escapeFrom ends.notQuote text (Nat.zero_le 2)]

/-- A literal string of several lines is read back if it has no control characters and no three
quotes in a row. -/
theorem string?_literalLines
    {rest : Text}
    (ends : Ends rest)
    {text : Text}
    (free : ∀ character ∈ text, isControl character = false)
    (few : longestRun '\'' text ≤ 2) :
    string? (stringIn .literalLines text ++ rest) = some (text, rest) := by
  have shape :
      stringIn .literalLines text ++ rest =
        '\'' :: '\'' :: '\'' ::
          (firstLineEnd text ++ (text ++ '\'' :: '\'' :: '\'' :: rest)) := by
    simp [stringIn]
  have begin :
      '\n' ∉ text → ∀ more,
        text ++ '\'' :: '\'' :: '\'' :: rest ≠ '\n' :: more ∧
          text ++ '\'' :: '\'' :: '\'' :: rest ≠ '\r' :: more := by
    intro noLineFeed more
    cases text with
    | nil => exact ⟨by simp, by simp⟩
    | cons character text =>
        rw [List.mem_cons, not_or] at noLineFeed
        have notReturn := (plain_of_not_isControl (free character List.mem_cons_self)).1
        constructor
        · intro same
          injection same with isLineFeed _
          exact noLineFeed.1 isLineFeed.symm
        · intro same
          injection same with isReturn _
          exact notReturn isReturn
  rw [shape, string?, dropFirstLineEnd_append begin, literalLines?_append ends.notApostrophe free few]

/-- Every string that was written is read back. -/
theorem string?_string
    {rest : Text}
    (ends : Ends rest)
    (text : Text) :
    string? (string text ++ rest) = some (text, rest) := by
  have freeOf : text.any isControl = false →
      ∀ character ∈ text, isControl character = false := by
    intro noControl character member
    rw [List.any_eq_false] at noControl
    exact Bool.eq_false_iff.mpr (noControl character member)
  have absentOf : ∀ {wanted : Char}, text.contains wanted = false → wanted ∉ text := by
    intro wanted absent member
    rw [List.contains_iff_mem.mpr member] at absent
    cases absent
  rw [string, formOf]
  split
  · exact string?_basic ends text
  · split
    · rename_i literal
      simp only [Bool.and_eq_true, Bool.not_eq_true'] at literal
      exact string?_literal ends (freeOf literal.1.1) (absentOf literal.1.2)
        (absentOf literal.2)
    · split
      · exact string?_basicLines ends text
      · split
        · rename_i literal
          simp only [Bool.and_eq_true, Bool.not_eq_true', decide_eq_true_eq] at literal
          exact string?_literalLines ends (freeOf literal.1) literal.2
        · split
          · exact string?_basicLines ends text
          · exact string?_basic ends text

/-- A string that was written begins with a quote. -/
theorem string_begins (text : Text) :
    (∃ rest, string text = '"' :: rest) ∨ ∃ rest, string text = '\'' :: rest := by
  rw [string]
  cases formOf text with
  | basic => exact Or.inl ⟨_, rfl⟩
  | literal => exact Or.inr ⟨_, rfl⟩
  | basicLines => exact Or.inl ⟨_, rfl⟩
  | literalLines => exact Or.inr ⟨_, rfl⟩

end Writer

end DetachedTasks.Toml
