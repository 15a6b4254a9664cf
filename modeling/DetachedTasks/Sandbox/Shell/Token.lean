import DetachedTasks.Text.Basic

/-!
# Tokens of the small shell

Processes of a sandbox that are not the script interpreter are small shell scripts and the
few programs that such scripts use.  A script is cut into words and operators; a word keeps
its parts, because a value that is not quoted is cut at blanks and a quoted one is not.
-/

namespace DetachedTasks.Sandbox.Shell

/-- A part of a word. -/
inductive Part where
  /-- Text that stands for itself. -/
  | literal (text : Text)
  /-- The value of a variable; unless quoted it is cut at blanks. -/
  | variable (name : Text) (quoted : Bool)
  /-- The value of an arithmetic expression. -/
  | arithmetic (expression : Text)
  /-- What a script prints; unless quoted it is cut at blanks. -/
  | substitution (script : Text) (quoted : Bool)
  /-- A value that was found already; unless quoted it is cut at blanks. -/
  | value (text : Text) (quoted : Bool)
  deriving Repr, DecidableEq

/-- A word, as its parts. -/
abbrev Word := List Part

/-- A token of a script. -/
inductive Token where
  | word (parts : Word)
  | operator (text : Text)
  deriving Repr, DecidableEq

/-- A character that a name may begin with. -/
def isNameStart (character : Char) : Bool :=
  character.isAlpha || character == '_'

/-- A character that a name may go on with. -/
def isNamePart (character : Char) : Bool :=
  isNameStart character || character.isDigit

/-- A blank between words. -/
def isSpace (character : Char) : Bool :=
  character == ' ' || character == '\t'

/-- The text of an arithmetic expression up to its closing brackets, and what follows. -/
def untilArithmeticEnd
    (depth : Nat) : Text → Text × Text
  | [] => ([], [])
  | ')' :: rest =>
      match depth with
      | 0 =>
          match rest with
          | ')' :: behind => ([], behind)
          | _ => ([], rest)
      | depth + 1 =>
          let (inside, behind) := untilArithmeticEnd depth rest
          (')' :: inside, behind)
  | '(' :: rest =>
      let (inside, behind) := untilArithmeticEnd (depth + 1) rest
      ('(' :: inside, behind)
  | character :: rest =>
      let (inside, behind) := untilArithmeticEnd depth rest
      (character :: inside, behind)

/-- A script up to its closing bracket, and what follows.  Brackets between single quotes do
not count. -/
def untilBracket
    (depth : Nat)
    (quoted : Bool) : Text → Text × Text
  | [] => ([], [])
  | '\'' :: rest =>
      let (inside, behind) := untilBracket depth (!quoted) rest
      ('\'' :: inside, behind)
  | ')' :: rest =>
      if quoted then
        let (inside, behind) := untilBracket depth quoted rest
        (')' :: inside, behind)
      else
        match depth with
        | 0 => ([], rest)
        | depth + 1 =>
            let (inside, behind) := untilBracket depth quoted rest
            (')' :: inside, behind)
  | '(' :: rest =>
      let (inside, behind) := untilBracket (if quoted then depth else depth + 1) quoted rest
      ('(' :: inside, behind)
  | character :: rest =>
      let (inside, behind) := untilBracket depth quoted rest
      (character :: inside, behind)

/-- A variable that is named by a single sign or digit. -/
def isSpecialName (character : Char) : Bool :=
  character == '?' || character == '#' || character == '@' || character == '*'
    || character == '$' || character.isDigit

/-- What a dollar sign stands for, and what follows. -/
def afterDollar
    (quoted : Bool)
    (text : Text) : Part × Text :=
  match text with
  | '(' :: '(' :: rest =>
      let (inside, behind) := untilArithmeticEnd 0 rest
      (.arithmetic inside, behind)
  | '\x7b' :: rest =>
      (.variable (rest.takeWhile (· != '\x7d')) quoted,
        (rest.dropWhile (· != '\x7d')).drop 1)
  | '(' :: rest =>
      let (inside, behind) := untilBracket 0 false rest
      (.substitution inside quoted, behind)
  | first :: rest =>
      if isSpecialName first then
        (.variable [first] quoted, rest)
      else if isNameStart first then
        (.variable (first :: rest.takeWhile isNamePart) quoted, rest.dropWhile isNamePart)
      else
        (.literal ['$'], text)
  | [] => (.literal ['$'], [])

/-- The parts between double quotes, and what follows the closing one. -/
def insideQuotes
    (fuel : Nat)
    (text : Text) : Word × Text :=
  match fuel with
  | 0 => ([], text)
  | fuel + 1 =>
      match text with
      | [] => ([], [])
      | '"' :: rest => ([], rest)
      | '\\' :: character :: rest =>
          let plain := ['$', '"', '\\', '\x60'].contains character
          let (parts, behind) := insideQuotes fuel rest
          (.literal (if plain then [character] else ['\\', character]) :: parts, behind)
      | '$' :: rest =>
          let (part, behind) := afterDollar true rest
          let (parts, behind) := insideQuotes fuel behind
          (part :: parts, behind)
      | '\x60' :: rest =>
          let (parts, behind) := insideQuotes fuel ((rest.dropWhile (· != '\x60')).drop 1)
          (.substitution (rest.takeWhile (· != '\x60')) true :: parts, behind)
      | character :: rest =>
          let (parts, behind) := insideQuotes fuel rest
          (.literal [character] :: parts, behind)

/-- A character that ends a word. -/
def endsWord (character : Char) : Bool :=
  isSpace character || character == '\n' || character == ';' || character == '&'
    || character == '|' || character == '<' || character == '>' || character == '('
    || character == ')'

/-- A word at the beginning of a text, and what follows it. -/
def word
    (fuel : Nat)
    (text : Text) : Word × Text :=
  match fuel with
  | 0 => ([], text)
  | fuel + 1 =>
      match text with
      | [] => ([], [])
      | '\'' :: rest =>
          let (parts, behind) := word fuel ((rest.dropWhile (· != '\'')).drop 1)
          (.literal (rest.takeWhile (· != '\'')) :: parts, behind)
      | '"' :: rest =>
          let (inside, behind) := insideQuotes fuel rest
          let (parts, behind) := word fuel behind
          (.literal [] :: inside ++ parts, behind)
      | '\\' :: character :: rest =>
          let (parts, behind) := word fuel rest
          (.literal [character] :: parts, behind)
      | '$' :: rest =>
          let (part, behind) := afterDollar false rest
          let (parts, behind) := word fuel behind
          (part :: parts, behind)
      | '\x60' :: rest =>
          let (parts, behind) := word fuel ((rest.dropWhile (· != '\x60')).drop 1)
          (.substitution (rest.takeWhile (· != '\x60')) false :: parts, behind)
      | character :: rest =>
          if endsWord character then
            ([], text)
          else
            let (parts, behind) := word fuel rest
            (.literal [character] :: parts, behind)

/-- The operators, longer ones first. -/
def operators : List Text :=
  ["&&".toList, "||".toList, ">&2".toList, "2>&1".toList, ">>".toList, ";".toList,
   "&".toList, "|".toList, "<".toList, ">".toList, "\n".toList, "(".toList, ")".toList]

/-- The operator that a text begins with, and what follows it. -/
def operator? (text : Text) : Option (Text × Text) :=
  operators.findSome? fun operator =>
    (Text.afterPrefix? operator text).map fun rest => (operator, rest)

/-- The tokens of a script. -/
def tokens
    (fuel : Nat)
    (text : Text) : List Token :=
  match fuel with
  | 0 => []
  | fuel + 1 =>
      match text.dropWhile isSpace with
      | [] => []
      | '#' :: rest => tokens fuel (rest.dropWhile (· != '\n'))
      | '1' :: '>' :: '&' :: '2' :: rest => .operator ">&2".toList :: tokens fuel rest
      | '2' :: '>' :: '/' :: rest => .operator "2>".toList :: tokens fuel ('/' :: rest)
      | start =>
          match operator? start with
          | some (operator, rest) => .operator operator :: tokens fuel rest
          | none =>
              let (parts, rest) := word (start.length + 1) start
              .word parts :: tokens fuel rest

end DetachedTasks.Sandbox.Shell
