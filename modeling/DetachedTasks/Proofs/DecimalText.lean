import DetachedTasks.Text.Basic
import Mathlib.Tactic.Common
import Mathlib.Tactic.Positivity
import Mathlib.Tactic.Ring

/-!
# Numbers in decimal

What `Text.natural` and `Text.integer` write is read back by `Text.readDigits?`.  A decimal
text that lost some of its last digits is the decimal text of another number: the number
divided by a power of ten.
-/

namespace DetachedTasks.Text

/-- The character of a decimal digit has the value of the digit. -/
theorem digitValue?_digitChar
    {digit : Nat}
    (small : digit < 10) :
    digitValue? 10 digit.digitChar = some digit := by
  have all : ∀ value, value < 10 → digitValue? 10 value.digitChar = some value := by
    decide
  exact all digit small

/-- Digits are read one part after the other. -/
theorem readDigitsFrom?_append
    (base value : Nat)
    (first second : Text) :
    readDigitsFrom? base value (first ++ second) =
      (readDigitsFrom? base value first).bind fun read =>
        readDigitsFrom? base read second := by
  induction first generalizing value with
  | nil => rfl
  | cons character first inductionHypothesis =>
      simp only [List.cons_append, readDigitsFrom?, Option.bind_eq_bind]
      cases digitValue? base character with
      | none => rfl
      | some digit => exact inductionHypothesis _

/-- A number below ten is written with one character. -/
theorem natural_of_lt
    {number : Nat}
    (small : number < 10) :
    natural number = [number.digitChar] :=
  Nat.toDigits_of_lt_base small

/-- The last digit stands behind the digits of the tenth part. -/
theorem natural_of_le
    {number : Nat}
    (large : 10 ≤ number) :
    natural number = natural (number / 10) ++ [(number % 10).digitChar] :=
  Nat.toDigits_of_base_le (by decide) large

/-- The digits of a number are never missing. -/
theorem natural_ne_nil (number : Nat) :
    natural number ≠ [] :=
  Nat.toDigits_ne_nil

/-- The digits of a number are read as this number, behind what was read before. -/
theorem readDigitsFrom?_natural
    (value number : Nat) :
    readDigitsFrom? 10 value (natural number) =
      some (value * 10 ^ (natural number).length + number) := by
  induction number using Nat.strongRecOn generalizing value with
  | ind number inductionHypothesis =>
      by_cases small : number < 10
      · rw [natural_of_lt small]
        simp [readDigitsFrom?, digitValue?_digitChar small]
      · have large : 10 ≤ number := by omega
        have lastSmall : number % 10 < 10 := Nat.mod_lt _ (by decide)
        rw [natural_of_le large, readDigitsFrom?_append,
          inductionHypothesis (number / 10) (by omega)]
        simp only [Option.bind_some, readDigitsFrom?, digitValue?_digitChar lastSmall,
          Option.bind_eq_bind, List.length_append, List.length_singleton, pow_succ]
        congr 1
        have parts := Nat.div_add_mod number 10
        rw [add_mul, mul_assoc, add_assoc]
        omega

/-- Reading the digits of a number gives the number back. -/
theorem readDigits?_natural (number : Nat) :
    readDigits? 10 (natural number) = some number := by
  have read := readDigitsFrom?_natural 0 number
  rw [zero_mul, zero_add] at read
  cases shape : natural number with
  | nil => exact absurd shape (natural_ne_nil number)
  | cons character rest =>
      rw [shape] at read
      exact read

/-- Without its last digits a number is divided by a power of ten. -/
theorem natural_take
    (number missing : Nat)
    (shorter : missing < (natural number).length) :
    (natural number).take ((natural number).length - missing) =
      natural (number / 10 ^ missing) := by
  induction missing generalizing number with
  | zero => simp
  | succ missing inductionHypothesis =>
      by_cases small : number < 10
      · rw [natural_of_lt small, List.length_singleton] at shorter
        omega
      · have large : 10 ≤ number := by omega
        have tenth : number / 10 ^ (missing + 1) = number / 10 / 10 ^ missing := by
          rw [Nat.div_div_eq_div_mul, pow_succ, mul_comm]
        rw [natural_of_le large, List.length_append, List.length_singleton] at shorter ⊢
        have samePart :
            (natural (number / 10)).length + 1 - (missing + 1) =
              (natural (number / 10)).length - missing := by omega
        rw [tenth, samePart, List.take_append_of_le_length (by omega)]
        exact inductionHypothesis (number / 10) (by omega)

/-- The sign that an integer is written with. -/
def sign (number : Int) : Text :=
  if number < 0 then ['-'] else []

/-- An integer is written as its sign and the digits of its absolute value. -/
theorem integer_eq (number : Int) :
    integer number = sign number ++ natural number.natAbs := by
  cases number with
  | ofNat value =>
      have notNegative : ¬ Int.ofNat value < 0 := by
        exact Int.not_lt.mpr (Int.natCast_nonneg value)
      simp only [integer, sign, notNegative, if_false, List.nil_append]
      rfl
  | negSucc value =>
      have negative : Int.negSucc value < 0 := Int.negSucc_lt_zero value
      simp only [integer, sign, negative, if_true]
      rfl

/-- An integer has at least one digit. -/
theorem sign_length_lt (number : Int) :
    (sign number).length < (integer number).length := by
  have digits := List.length_pos_iff.mpr (natural_ne_nil number.natAbs)
  rw [integer_eq, List.length_append]
  omega

/-- A number with more digits than a power of ten has zeros is at least this power. -/
theorem pow_le_of_lt_length
    {number missing : Nat}
    (positive : 0 < number)
    (shorter : missing < (natural number).length) :
    10 ^ missing ≤ number := by
  rcases Nat.eq_zero_or_pos missing with none | some
  · subst none
    exact positive
  · have bound := Nat.length_toDigits_le_iff (b := 10) (n := number) (by decide) some
    rw [natural] at shorter
    omega

/-- Division towards zero keeps the sign as long as one digit is left. -/
theorem sign_tdiv
    {number : Int}
    {missing : Nat}
    (shorter : missing < (natural number.natAbs).length) :
    sign (number.tdiv (10 ^ missing)) = sign number := by
  have powerNonneg : (0 : Int) ≤ 10 ^ missing := by positivity
  by_cases negative : number < 0
  · have leaves := pow_le_of_lt_length (by omega) shorter
    have quotientPositive : 0 < number.natAbs / 10 ^ missing :=
      Nat.div_pos leaves (by positivity)
    have quotientNegative : number.tdiv (10 ^ missing) < 0 := by
      have shape : number = -(number.natAbs : Int) := by omega
      have quotient :
          (number.natAbs : Int).tdiv (10 ^ missing) =
            ((number.natAbs / 10 ^ missing : Nat) : Int) := by
        rw [Int.natCast_ediv, Int.tdiv_eq_ediv_of_nonneg (Int.natCast_nonneg _)]
        norm_cast
      rw [shape, Int.neg_tdiv, quotient, Int.neg_lt_zero_iff]
      exact Int.natCast_pos.mpr quotientPositive
    simp only [sign, negative, quotientNegative, if_true]
  · have quotientNonneg := Int.tdiv_nonneg (Int.not_lt.mp negative) powerNonneg
    have notNegative : ¬ number.tdiv (10 ^ missing) < 0 := Int.not_lt.mpr quotientNonneg
    simp only [sign, negative, notNegative, if_false]

/-- Without its last digits an integer is divided by a power of ten, towards zero. -/
theorem integer_take
    (number : Int)
    (missing : Nat)
    (shorter : missing < (natural number.natAbs).length) :
    (integer number).take ((integer number).length - missing) =
      integer (number.tdiv (10 ^ missing)) := by
  have cut :
      (sign number ++ natural number.natAbs).length - missing =
        (sign number).length + ((natural number.natAbs).length - missing) := by
    rw [List.length_append]
    omega
  have absolute :
      (number.tdiv (10 ^ missing)).natAbs = number.natAbs / 10 ^ missing := by
    rw [Int.natAbs_tdiv, Int.natAbs_pow]
    rfl
  rw [integer_eq number, cut, List.take_length_add_append, natural_take _ _ shorter,
    integer_eq (number.tdiv _), sign_tdiv shorter, absolute]

end DetachedTasks.Text
