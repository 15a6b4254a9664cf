import DetachedTasks.Proofs.ResultReading
import Mathlib.Tactic.Positivity

/-!
# Reading a result file while it is written

All bytes of a result file are ASCII, so its first bytes are the bytes of its first
characters.  What is read from them depends on where the cut falls: nothing yet, a sign
without digits, the leading digits as a number of their own, or the exit code.
-/

namespace DetachedTasks

namespace Text

/-- Decimal texts have no character beyond ASCII. -/
theorem toNat_lt_of_mem_integer
    {number : Int}
    {character : Char}
    (member : character ∈ integer number) :
    character.toNat < 0x80 := by
  rw [integer_eq, List.mem_append] at member
  rcases member with inSign | inDigits
  · rw [sign] at inSign
    split at inSign
    · rw [List.mem_singleton.mp inSign]
      decide
    · exact absurd inSign List.not_mem_nil
  · have digit : character.isDigit = true :=
      Nat.isDigit_of_mem_toDigits (by decide) (by decide) inDigits
    simp only [Char.isDigit, Bool.and_eq_true, decide_eq_true_eq] at digit
    exact Nat.lt_of_le_of_lt (UInt32.le_iff_toNat_le.mp digit.2) (by decide)

end Text

namespace ResultText

/-- What is read from a result file of which only the first bytes are written. -/
def verdictAfter
    (code : Int32)
    (written : Nat) : Except Text (Option Int32) :=
  if written = 0 then
    .ok none
  else if written ≤ (Text.sign code.toInt).length then
    .error ['-']
  else
    .ok (some (Int32.ofInt
      (code.toInt.tdiv (10 ^ ((Text.integer code.toInt).length - written)))))

/-- Division by a power of ten does not leave the range of exit codes. -/
theorem inRange_tdiv
    {number : Int}
    (fits : inRange number = true)
    (missing : Nat) :
    inRange (number.tdiv (10 ^ missing)) = true := by
  have smaller := Int.natAbs_tdiv_le_natAbs number (10 ^ missing)
  simp only [inRange, Bool.and_eq_true, decide_eq_true_eq] at fits ⊢
  by_cases negative : number < 0
  · have opposite : 0 ≤ (-number).tdiv (10 ^ missing) :=
      Int.tdiv_nonneg (by omega) (by positivity)
    rw [Int.neg_tdiv] at opposite
    omega
  · have nonnegative : 0 ≤ number.tdiv (10 ^ missing) :=
      Int.tdiv_nonneg (Int.not_lt.mp negative) (by positivity)
    omega

/-- All characters of a result file are ASCII. -/
theorem ascii_of_mem_exitCode
    (code : Int32)
    (character : Char)
    (member : character ∈ Text.integer code.toInt ++ ['\r', '\n']) :
    character.toNat < 0x80 := by
  rcases List.mem_append.mp member with inNumber | inLineEnd
  · exact Text.toNat_lt_of_mem_integer inNumber
  · rcases List.mem_pair.mp inLineEnd with isReturn | isNewline
    · rw [isReturn]
      decide
    · rw [isNewline]
      decide

/-- A sign without digits is no exit code. -/
theorem parse_sign
    {number : Int}
    {written : Nat}
    (something : written ≠ 0)
    (signOnly : written ≤ (Text.sign number).length)
    (rest : Text) :
    parse (Utf8.encode ((Text.integer number ++ rest).take written)) = .error ['-'] := by
  have oneByte : written = 1 ∧ Text.sign number = ['-'] := by
    by_cases negative : number < 0
    · simp only [Text.sign, negative, if_true, List.length_singleton] at signOnly ⊢
      exact ⟨by omega, trivial⟩
    · simp only [Text.sign, negative, if_false, List.length_nil] at signOnly
      exact absurd (Nat.le_zero.mp signOnly) something
  rw [oneByte.1, Text.integer_eq, oneByte.2]
  rfl

/-- With all digits written, the part of the line end that is there already does not count. -/
theorem parse_whole_digits
    (code : Int32)
    {written : Nat}
    (lineEnd : (Text.integer code.toInt).length ≤ written) :
    parse (Utf8.encode ((Text.integer code.toInt ++ ['\r', '\n']).take written)) =
      .ok (some code) := by
  have blank :
      (['\r', '\n'].take (written - (Text.integer code.toInt).length)).all
        Text.isBlank = true := by
    have both : ['\r', '\n'].all Text.isBlank = true := by decide
    exact List.all_eq_true.mpr fun character member =>
      List.all_eq_true.mp both character (List.mem_of_mem_take member)
  rw [List.take_append, List.take_of_length_le lineEnd, parse_exitCode code blank]

/-- Leading digits are read as the number that they are without the missing ones. -/
theorem parse_some_digits
    {number : Int}
    (fits : inRange number = true)
    {missing : Nat}
    (digitsLeft : missing < (Text.natural number.natAbs).length)
    (rest : Text) :
    parse (Utf8.encode ((Text.integer number ++ rest).take
        ((Text.integer number).length - missing))) =
      .ok (some (Int32.ofInt (number.tdiv (10 ^ missing)))) := by
  have read :
      parse (Utf8.encode (Text.integer (number.tdiv (10 ^ missing)) ++ [])) =
        .ok (some (Int32.ofInt (number.tdiv (10 ^ missing)))) :=
    parse_integer (inRange_tdiv fits missing) rfl
  rw [List.append_nil] at read
  rw [List.take_append_of_le_length (Nat.sub_le _ _), Text.integer_take _ _ digitsLeft, read]

/-- The first bytes of a result file are read as the verdict says. -/
theorem parse_take
    (code : Int32)
    (written : Nat) :
    parse ((ofExitCode code).take written) = verdictAfter code written := by
  rw [ofExitCode, Utf8.take_encode_of_ascii (ascii_of_mem_exitCode code), verdictAfter]
  by_cases nothing : written = 0
  · subst nothing
    rfl
  · rw [if_neg nothing]
    by_cases signOnly : written ≤ (Text.sign code.toInt).length
    · rw [if_pos signOnly, parse_sign nothing signOnly]
    · rw [if_neg signOnly]
      by_cases lineEnd : (Text.integer code.toInt).length ≤ written
      · rw [parse_whole_digits code lineEnd, Nat.sub_eq_zero_of_le lineEnd, pow_zero,
          Int.tdiv_one, Int32.ofInt_toInt]
      · have parts := congrArg List.length (Text.integer_eq code.toInt)
        rw [List.length_append] at parts
        have digitsLeft :
            (Text.integer code.toInt).length - written <
              (Text.natural code.toInt.natAbs).length := by
          omega
        rw [← parse_some_digits (inRange_toInt code) digitsLeft ['\r', '\n']]
        congr 3
        omega

end ResultText

end DetachedTasks
