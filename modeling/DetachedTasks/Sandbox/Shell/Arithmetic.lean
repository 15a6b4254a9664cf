import DetachedTasks.Sandbox.Shell.Token

/-!
# Arithmetic of the small shell

Sums and products of integers, variables and expressions between brackets.
-/

namespace DetachedTasks.Sandbox.Shell

/-- A token of an arithmetic expression. -/
inductive Symbol where
  | number (value : Int)
  | name (text : Text)
  | sign (character : Char)
  deriving Repr, DecidableEq

/-- The tokens of an arithmetic expression. -/
def symbols
    (fuel : Nat)
    (text : Text) : List Symbol :=
  match fuel with
  | 0 => []
  | fuel + 1 =>
      match text.dropWhile Text.isBlank with
      | [] => []
      | first :: rest =>
          if first.isDigit then
            let digits := first :: rest.takeWhile Char.isDigit
            .number ((Text.readDigits? 10 digits).getD 0)
              :: symbols fuel (rest.dropWhile Char.isDigit)
          else if isNameStart first then
            .name (first :: rest.takeWhile isNamePart)
              :: symbols fuel (rest.dropWhile isNamePart)
          else if first = '$' then symbols fuel rest
          else .sign first :: symbols fuel rest

mutual

/-- A sum. -/
def sum
    (lookup : Text → Int)
    (fuel : Nat)
    (symbols : List Symbol) : Int × List Symbol :=
  match fuel with
  | 0 => (0, [])
  | fuel + 1 =>
      let (value, rest) := product lookup fuel symbols
      sumTail lookup fuel value rest

/-- The summands behind the first one. -/
def sumTail
    (lookup : Text → Int)
    (fuel : Nat)
    (value : Int)
    (symbols : List Symbol) : Int × List Symbol :=
  match fuel with
  | 0 => (value, symbols)
  | fuel + 1 =>
      match symbols with
      | .sign '+' :: rest =>
          let (next, rest) := product lookup fuel rest
          sumTail lookup fuel (value + next) rest
      | .sign '-' :: rest =>
          let (next, rest) := product lookup fuel rest
          sumTail lookup fuel (value - next) rest
      | _ => (value, symbols)

/-- A product. -/
def product
    (lookup : Text → Int)
    (fuel : Nat)
    (symbols : List Symbol) : Int × List Symbol :=
  match fuel with
  | 0 => (0, [])
  | fuel + 1 =>
      let (value, rest) := atom lookup fuel symbols
      productTail lookup fuel value rest

/-- The factors behind the first one. -/
def productTail
    (lookup : Text → Int)
    (fuel : Nat)
    (value : Int)
    (symbols : List Symbol) : Int × List Symbol :=
  match fuel with
  | 0 => (value, symbols)
  | fuel + 1 =>
      match symbols with
      | .sign '*' :: rest =>
          let (next, rest) := atom lookup fuel rest
          productTail lookup fuel (value * next) rest
      | .sign '/' :: rest =>
          let (next, rest) := atom lookup fuel rest
          productTail lookup fuel (value.tdiv next) rest
      | .sign '%' :: rest =>
          let (next, rest) := atom lookup fuel rest
          productTail lookup fuel (value.tmod next) rest
      | _ => (value, symbols)

/-- A number, a variable or an expression between brackets. -/
def atom
    (lookup : Text → Int)
    (fuel : Nat)
    (symbols : List Symbol) : Int × List Symbol :=
  match fuel with
  | 0 => (0, [])
  | fuel + 1 =>
      match symbols with
      | .number value :: rest => (value, rest)
      | .name text :: rest => (lookup text, rest)
      | .sign '-' :: rest =>
          let (value, rest) := atom lookup fuel rest
          (-value, rest)
      | .sign '(' :: rest =>
          let (value, rest) := sum lookup fuel rest
          (value, rest.drop 1)
      | rest => (0, rest)

end

/-- The value of an arithmetic expression. -/
def arithmetic
    (lookup : Text → Int)
    (expression : Text) : Int :=
  let symbols := symbols (expression.length + 1) expression
  (sum lookup (4 * symbols.length + 8) symbols).1

end DetachedTasks.Sandbox.Shell
