import DetachedTasks.Toml.Value

/-!
# TOML scalars

The values that are written without quotes or brackets: booleans, integers, floating point
numbers, dates and times.  A scalar is recognised as a whole from the run of characters it
is written with.
-/

namespace DetachedTasks.Toml.Scalar

/-- A decimal digit. -/
def isDigit (character : Char) : Bool :=
  character.isDigit

/-- Digits with single underscores between them; the underscores go. -/
def withoutUnderscores?
    (isDigit : Char → Bool) : Text → Option Text
  | [] => none
  | [digit] => if isDigit digit then some [digit] else none
  | digit :: '_' :: rest =>
      if isDigit digit then
        (withoutUnderscores? isDigit rest).map (digit :: ·)
      else
        none
  | digit :: rest =>
      if isDigit digit then
        (withoutUnderscores? isDigit rest).map (digit :: ·)
      else
        none

/-- The value of digits in a base, with underscores allowed between them. -/
def digits?
    (base : Nat)
    (text : Text) : Option Nat := do
  let digits ← withoutUnderscores? (fun c => (Text.digitValue? base c).isSome) text
  Text.readDigits? base digits

/-- The sign in front of a number, and what follows it. -/
def sign : Text → Bool × Text
  | '-' :: rest => (true, rest)
  | '+' :: rest => (false, rest)
  | text => (false, text)

/-- Decimal digits without a needless zero in front. -/
def wholePart? (text : Text) : Option Text := do
  let digits ← withoutUnderscores? isDigit text
  match digits with
  | '0' :: _ :: _ => none
  | _ => some digits

/-- An integer. -/
def integer? (text : Text) : Option Value :=
  match text with
  | '0' :: 'x' :: rest => (digits? 16 rest).map fun number => .integer number
  | '0' :: 'o' :: rest => (digits? 8 rest).map fun number => .integer number
  | '0' :: 'b' :: rest => (digits? 2 rest).map fun number => .integer number
  | _ => do
      let (negative, rest) := sign text
      let digits ← wholePart? rest
      let number ← Text.readDigits? 10 digits
      pure (.integer (if negative then -(number : Int) else number))

/-- The exponent of a number, which may have a sign and zeros in front. -/
def exponent? (text : Text) : Option Int := do
  let (negative, rest) := sign text
  let digits ← withoutUnderscores? isDigit rest
  let number ← Text.readDigits? 10 digits
  pure (if negative then -(number : Int) else number)

/-- A floating point number from its parts. -/
def assemble
    (negative : Bool)
    (whole fraction : Text)
    (exponent : Int) : Option Value := do
  let digits ← Text.readDigits? 10 (whole ++ fraction)
  match Magnitude.ofDecimal digits (exponent - fraction.length) with
  | .infinite => pure .overflow
  | magnitude => pure (.float (.number negative magnitude))

/-- Whether a character begins an exponent. -/
def isExponentMark (character : Char) : Bool :=
  character == 'e' || character == 'E'

/-- A floating point number: a whole part, and after it a fraction, an exponent or both. -/
def float? (text : Text) : Option Value := do
  let (negative, unsigned) := sign text
  if unsigned = "inf".toList then
    pure (.float (.number negative .infinite))
  else if unsigned = "nan".toList then
    pure (.float .nan)
  else
    let mantissa := unsigned.takeWhile (!isExponentMark ·)
    let behind := unsigned.dropWhile (!isExponentMark ·)
    let exponent ←
      match behind with
      | [] => some none
      | _ :: rest => (exponent? rest).map some
    let whole ← wholePart? (mantissa.takeWhile (· != '.'))
    match mantissa.dropWhile (· != '.') with
    | [] =>
        match exponent with
        | none => none
        | some power => assemble negative whole [] power
    | _ :: rest =>
        let fraction ← withoutUnderscores? isDigit rest
        assemble negative whole fraction (exponent.getD 0)

/-- The number that a fixed count of decimal digits stands for. -/
def fixedDigits?
    (count : Nat)
    (text : Text) : Option (Nat × Text) :=
  let digits := text.take count
  if digits.length = count && digits.all isDigit then
    (Text.readDigits? 10 digits).map fun number => (number, text.drop count)
  else
    none

/-- Drop one character that has to come next. -/
def after?
    (accepted : Char → Bool) : Text → Option Text
  | [] => none
  | character :: rest => if accepted character then some rest else none

/-- A year with a day of February that other years do not have. -/
def isLeap (year : Nat) : Bool :=
  year % 4 = 0 && (year % 100 != 0 || year % 400 = 0)

/-- The number of days in a month. -/
def daysIn (year month : Nat) : Nat :=
  if month = 2 then (if isLeap year then 29 else 28)
  else if month = 4 || month = 6 || month = 9 || month = 11 then 30
  else 31

/-- A calendar date at the beginning of a text, and what follows it. -/
def date? (text : Text) : Option Text := do
  let (year, rest) ← fixedDigits? 4 text
  let rest ← after? (· == '-') rest
  let (month, rest) ← fixedDigits? 2 rest
  let rest ← after? (· == '-') rest
  let (day, rest) ← fixedDigits? 2 rest
  if 1 ≤ month && month ≤ 12 && 1 ≤ day && day ≤ daysIn year month then
    pure rest
  else
    none

/-- The seconds of a time with their fraction; both may be left out. -/
def seconds? (text : Text) : Option Text :=
  match text with
  | ':' :: rest => do
      let (second, rest) ← fixedDigits? 2 rest
      if second ≤ 60 then
        match rest with
        | '.' :: fraction =>
            if (fraction.takeWhile isDigit).isEmpty then none
            else some (fraction.dropWhile isDigit)
        | _ => some rest
      else
        none
  | _ => some text

/-- Hours and minutes at the beginning of a text, and what follows them. -/
def hoursAndMinutes? (text : Text) : Option Text := do
  let (hour, rest) ← fixedDigits? 2 text
  let rest ← after? (· == ':') rest
  let (minute, rest) ← fixedDigits? 2 rest
  if hour ≤ 23 && minute ≤ 59 then pure rest else none

/-- A time of day at the beginning of a text, and what follows it. -/
def time? (text : Text) : Option Text := do
  seconds? (← hoursAndMinutes? text)

/-- An offset from universal time, or nothing. -/
def isOffset : Text → Bool
  | [] => true
  | ['Z'] => true
  | ['z'] => true
  | '+' :: rest => hoursAndMinutes? rest == some []
  | '-' :: rest => hoursAndMinutes? rest == some []
  | _ => false

/-- A character that may stand between a date and a time. -/
def isTimeMark (character : Char) : Bool :=
  character == 'T' || character == 't' || character == ' '

/-- A date, a time, or a date with a time and perhaps an offset. -/
def isMoment (text : Text) : Bool :=
  match date? text with
  | some [] => true
  | some (mark :: rest) =>
      isTimeMark mark
        && (match time? rest with
            | some offset => isOffset offset
            | none => false)
  | none => time? text == some []

/-- The value that a run of characters stands for. -/
def value? (text : Text) : Option Value :=
  if text = "true".toList then some (.boolean true)
  else if text = "false".toList then some (.boolean false)
  else
    (integer? text).or
      ((float? text).or (if isMoment text then some .moment else none))

/-- A character that cannot belong to a scalar. -/
def endsScalar (character : Char) : Bool :=
  character == ' ' || character == '\t' || character == '\n' || character == '\r'
    || character == ',' || character == ']' || character == '\x7d' || character == '#'

/-- The run of characters that a text begins with, and what follows it.  A date may have its
time behind one space. -/
def run (text : Text) : Text × Text :=
  let first := text.takeWhile (!endsScalar ·)
  match text.dropWhile (!endsScalar ·) with
  | ' ' :: rest =>
      let second := rest.takeWhile (!endsScalar ·)
      if date? first == some [] && (hoursAndMinutes? second).isSome then
        (first ++ ' ' :: second, rest.dropWhile (!endsScalar ·))
      else
        (first, ' ' :: rest)
  | rest => (first, rest)

end DetachedTasks.Toml.Scalar
