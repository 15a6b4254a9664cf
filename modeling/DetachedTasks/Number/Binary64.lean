import DetachedTasks.Text.Basic

/-!
# Binary64 numbers

A number of double precision is read from a decimal by rounding to nearest, ties to even, in
exact integer arithmetic.  It is written with the fewest digits that read back as the same
number, the nearest of those, and always positionally.
-/

namespace DetachedTasks

/-- A magnitude of double precision. -/
inductive Magnitude where
  /-- The number `significand * 2 ^ exponent`. -/
  | finite (significand : Nat) (exponent : Int)
  | infinite
  deriving Repr, DecidableEq

/-- A number of double precision. -/
inductive Binary64 where
  | number (negative : Bool) (magnitude : Magnitude)
  | nan
  deriving Repr, DecidableEq

namespace Magnitude

/-- The exponent of the smallest positive magnitude. -/
def leastExponent : Int := -1074

/-- The greatest exponent of a finite magnitude. -/
def greatestExponent : Int := 971

/-- The bound that every significand stays below. -/
def significandBound : Nat := 9007199254740992

/-- A fraction scaled by a power of two, as a fraction of natural numbers. -/
def scaleBinary
    (numerator denominator : Nat)
    (power : Int) : Nat × Nat :=
  if 0 ≤ power then
    (numerator * Nat.pow 2 power.toNat, denominator)
  else
    (numerator, denominator * Nat.pow 2 (-power).toNat)

/-- A fraction rounded to the nearest integer, ties to even. -/
def roundToEven (numerator denominator : Nat) : Nat :=
  let quotient := numerator / denominator
  let twice := 2 * (numerator % denominator)
  if twice < denominator then quotient
  else if denominator < twice then quotient + 1
  else if quotient % 2 = 0 then quotient
  else quotient + 1

/-- The magnitude nearest to a positive fraction. -/
def ofFraction (numerator denominator : Nat) : Magnitude :=
  let estimate : Int := (numerator.log2 : Int) - (denominator.log2 : Int) - 53
  let scaled := scaleBinary numerator denominator (-estimate)
  let tight := if significandBound ≤ scaled.1 / scaled.2 then estimate + 1 else estimate
  let exponent := max tight leastExponent
  let final := scaleBinary numerator denominator (-exponent)
  let significand := roundToEven final.1 final.2
  let carried :=
    if significand = significandBound then
      (significandBound / 2, exponent + 1)
    else
      (significand, exponent)
  if greatestExponent < carried.2 then .infinite else .finite carried.1 carried.2

/-- The magnitude nearest to `digits * 10 ^ power`.  A power beyond every representable
number is not computed. -/
def ofDecimal
    (digits : Nat)
    (power : Int) : Magnitude :=
  let leading : Int := (Text.natural digits).length + power
  if digits = 0 then .finite 0 leastExponent
  else if 400 < leading then .infinite
  else if leading < -400 then .finite 0 leastExponent
  else if 0 ≤ power then ofFraction (digits * Nat.pow 10 power.toNat) 1
  else ofFraction digits (Nat.pow 10 (-power).toNat)

/-- The fractions between which every number reads back as this one, over one denominator:
the lower end, the number itself, the upper end and the denominator. -/
def neighbourhood
    (significand : Nat)
    (exponent : Int) : Nat × Nat × Nat × Nat :=
  let below :=
    if significand = significandBound / 2 && leastExponent < exponent then 1 else 2
  let (scale, denominator) := scaleBinary 1 4 exponent
  ((4 * significand - below) * scale, 4 * significand * scale,
    (4 * significand + 2) * scale, denominator)

/-- The order of `digits * 10 ^ power` and a fraction. -/
def compareDecimal
    (digits : Nat)
    (power : Int)
    (numerator denominator : Nat) : Ordering :=
  if 0 ≤ power then
    compare (digits * Nat.pow 10 power.toNat * denominator) numerator
  else
    compare (digits * denominator) (numerator * Nat.pow 10 (-power).toNat)

/-- The digits of a fraction above a power of ten. -/
def floorDecimal
    (power : Int)
    (numerator denominator : Nat) : Nat :=
  if 0 ≤ power then
    numerator / (denominator * Nat.pow 10 power.toNat)
  else
    numerator * Nat.pow 10 (-power).toNat / denominator

/-- Whether a decimal reads back as the number with the given neighbourhood. -/
def readsBack
    (even : Bool)
    (lower upper denominator : Nat)
    (digits : Nat)
    (power : Int) : Bool :=
  let low := compareDecimal digits power lower denominator
  let high := compareDecimal digits power upper denominator
  (low == .gt || (even && low == .eq)) && (high == .lt || (even && high == .eq))

/-- The first decimal grid, from coarse to fine, with a point that reads back; of two such
points the nearer one, and of two equally near ones the even one. -/
def shortestFrom
    (fuel : Nat)
    (significand : Nat)
    (exponent : Int)
    (power : Int) : Nat × Int :=
  match fuel with
  | 0 => (significand, exponent)
  | fuel + 1 =>
      let (lower, value, upper, denominator) := neighbourhood significand exponent
      let even := significand % 2 = 0
      let floor := floorDecimal power value denominator
      let downward := readsBack even lower upper denominator floor power
      let upward := readsBack even lower upper denominator (floor + 1) power
      if downward && upward then
        match compareDecimal (2 * floor + 1) power (2 * value) denominator with
        | .gt => (floor, power)
        | .lt => (floor + 1, power)
        | .eq => (if floor % 2 = 0 then floor else floor + 1, power)
      else if downward then (floor, power)
      else if upward then (floor + 1, power)
      else shortestFrom fuel significand exponent (power - 1)

/-- The fewest digits that read back as the number, with their power of ten. -/
def shortest
    (significand : Nat)
    (exponent : Int) : Nat × Int :=
  if significand = 0 then
    (0, 0)
  else
    let (_, value, _, denominator) := neighbourhood significand exponent
    let whole := (Text.natural (value / denominator)).length
    let start : Int :=
      if value / denominator = 0 then
        -- A number below one: begin well above its first digit.
        1 - ((Text.natural (denominator / value)).length - 1 : Nat)
      else
        whole
    shortestFrom 400 significand exponent start

/-- Digits with a power of ten, written positionally. -/
def positional
    (digits : Nat)
    (power : Int) : Text :=
  let written := Text.natural digits
  if 0 ≤ power then
    if digits = 0 then ['0', '.', '0']
    else written ++ List.replicate power.toNat '0' ++ ['.', '0']
  else
    let places := (-power).toNat
    let padded := List.replicate (places + 1 - written.length) '0' ++ written
    padded.take (padded.length - places) ++ '.' :: padded.drop (padded.length - places)

/-- The text of a magnitude. -/
def text : Magnitude → Text
  | .infinite => "inf".toList
  | .finite significand exponent =>
      let (digits, power) := shortest significand exponent
      positional digits power

end Magnitude

/-- The text of a number. -/
def Binary64.text : Binary64 → Text
  | .nan => "NaN".toList
  | .number negative magnitude =>
      if negative then '-' :: magnitude.text else magnitude.text

end DetachedTasks
