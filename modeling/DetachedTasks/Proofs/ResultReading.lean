import DetachedTasks.Proofs.DecimalText
import DetachedTasks.Proofs.Utf8RoundTrip
import DetachedTasks.Task.Result
import Mathlib.Data.List.TakeWhile

/-!
# Reading a complete result file

The decimal text of an exit code, followed by blanks, is read back as this exit code.  No
character of a decimal text is a blank or a byte order mark, so nothing of it is trimmed
away.
-/

namespace DetachedTasks

namespace Text

/-- A character that neither blanks nor byte order marks are. -/
def isSolid (character : Char) : Bool :=
  !isBlank character && character != '\uFEFF'

/-- Blanks behind a text without blanks are all that trimming takes away. -/
theorem trim_append
    {body blanks : Text}
    (solid : body.all isSolid = true)
    (blank : blanks.all isBlank = true)
    (notEmpty : body ≠ []) :
    trim (body ++ blanks) = body := by
  have keep : ∀ character ∈ body, isBlank character = false := by
    intro character member
    have bodySolid := List.all_eq_true.mp solid character member
    simp only [isSolid, Bool.and_eq_true, Bool.not_eq_true'] at bodySolid
    exact bodySolid.1
  have front : (body ++ blanks).dropWhile isBlank = body ++ blanks := by
    cases body with
    | nil => exact absurd rfl notEmpty
    | cons first rest =>
        rw [List.cons_append, List.dropWhile_cons_of_neg]
        rw [keep first (by simp)]
        decide
  have back : ∀ character ∈ blanks.reverse, isBlank character = true := by
    intro character member
    exact List.all_eq_true.mp blank character (List.mem_reverse.mp member)
  have whole : (blanks.reverse ++ body.reverse).dropWhile isBlank = body.reverse := by
    rw [List.dropWhile_append_of_pos back]
    cases shape : body.reverse with
    | nil => rfl
    | cons last before =>
        rw [List.dropWhile_cons_of_neg]
        rw [keep last (by rw [← List.mem_reverse, shape]; simp)]
        decide
  rw [trim, front, dropEndWhile, List.reverse_append, whole, List.reverse_reverse]

/-- Every character of a number in decimal is solid. -/
theorem natural_all_isSolid (number : Nat) :
    (natural number).all isSolid = true := by
  have digits : ∀ value, value < 10 → isSolid value.digitChar = true := by decide
  induction number using Nat.strongRecOn with
  | ind number inductionHypothesis =>
      by_cases small : number < 10
      · rw [natural_of_lt small]
        simpa using digits number small
      · rw [natural_of_le (by omega), List.all_append, inductionHypothesis _ (by omega)]
        simpa using digits (number % 10) (Nat.mod_lt _ (by decide))

/-- Every character of an integer in decimal is solid. -/
theorem integer_all_isSolid (number : Int) :
    (integer number).all isSolid = true := by
  rw [integer_eq, List.all_append, natural_all_isSolid, Bool.and_true, sign]
  split
  · decide
  · rfl

theorem integer_ne_nil (number : Int) :
    integer number ≠ [] := by
  intro empty
  have longer := sign_length_lt number
  rw [empty, List.length_nil] at longer
  exact Nat.not_lt_zero _ longer

end Text

namespace ResultText

/-- Blanks behind a solid text do not count in a result file. -/
theorem significant_encode
    {body blanks : Text}
    (solid : body.all Text.isSolid = true)
    (blank : blanks.all Text.isBlank = true)
    (notEmpty : body ≠ []) :
    significant (Utf8.encode (body ++ blanks)) = body := by
  have noMarks : Text.withoutMarks (body ++ blanks) = body ++ blanks := by
    cases body with
    | nil => exact absurd rfl notEmpty
    | cons first rest =>
        have firstSolid := List.all_eq_true.mp solid first (by simp)
        simp only [Text.isSolid, Bool.and_eq_true, bne_iff_ne] at firstSolid
        rw [Text.withoutMarks, List.cons_append, List.dropWhile_cons_of_neg]
        simpa using firstSolid.2
  rw [significant, Utf8.decodeLossy_encode, noMarks, Text.trim_append solid blank notEmpty]

/-- A text that begins with a digit has no sign. -/
theorem integer?_of_isDigit
    {first : Char}
    (digit : first.isDigit = true)
    (rest : Text) :
    integer? (first :: rest) =
      (Text.readDigits? 10 (first :: rest)).map fun number => (number : Int) := by
  unfold integer?
  split
  · rename_i shape
    injection shape with same
    subst same
    exact absurd digit (by decide)
  · rename_i shape
    injection shape with same
    subst same
    exact absurd digit (by decide)
  · rfl

/-- Reading the decimal text of an integer gives the integer back. -/
theorem integer?_integer (number : Int) :
    integer? (Text.integer number) = some number := by
  cases number with
  | negSucc value =>
      simp only [Text.integer, integer?, Text.readDigits?_natural]
      rfl
  | ofNat value =>
      rw [Text.integer]
      cases shape : Text.natural value with
      | nil => exact absurd shape (Text.natural_ne_nil value)
      | cons first rest =>
          have digit : first.isDigit = true := by
            apply Nat.isDigit_of_mem_toDigits (b := 10) (n := value) (by decide) (by decide)
            rw [← Text.natural, shape]
            exact List.mem_cons_self
          rw [integer?_of_isDigit digit, ← shape, Text.readDigits?_natural]
          rfl

/-- An integer of 32 bits in decimal stands for the exit code. -/
theorem exitCode?_integer
    {number : Int}
    (fits : inRange number = true) :
    exitCode? (Text.integer number) = some (Int32.ofInt number) := by
  rw [exitCode?, integer?_integer, Option.filter_some_pos fits]
  rfl

/-- A result file with an integer of 32 bits and blanks behind it holds this exit code. -/
theorem parse_integer
    {number : Int}
    {blanks : Text}
    (fits : inRange number = true)
    (blank : blanks.all Text.isBlank = true) :
    parse (Utf8.encode (Text.integer number ++ blanks)) =
      .ok (some (Int32.ofInt number)) := by
  have notEmpty := Text.integer_ne_nil number
  rw [parse, significant_encode (Text.integer_all_isSolid number) blank notEmpty]
  simp only [List.isEmpty_iff, notEmpty, if_false, exitCode?_integer fits]

/-- Every exit code is in the range of exit codes. -/
theorem inRange_toInt (code : Int32) :
    inRange code.toInt = true := by
  have low := code.minValue_le_toInt
  have high := code.toInt_lt
  simp only [inRange, Bool.and_eq_true, decide_eq_true_eq]
  exact ⟨low, high⟩

/-- The result file of a child holds the exit code that the child wrote. -/
theorem parse_exitCode
    (code : Int32)
    {blanks : Text}
    (blank : blanks.all Text.isBlank = true) :
    parse (Utf8.encode (Text.integer code.toInt ++ blanks)) = .ok (some code) := by
  rw [parse_integer (inRange_toInt code) blank, Int32.ofInt_toInt]

/-- What a child writes as its result is read back. -/
theorem parse_ofExitCode (code : Int32) :
    parse (ofExitCode code) = .ok (some code) := by
  have blank : (['\r', '\n'] : Text).all Text.isBlank = true := by decide
  rw [ofExitCode]
  exact parse_exitCode code blank

end ResultText

end DetachedTasks
