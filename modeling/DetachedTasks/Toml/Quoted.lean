import DetachedTasks.Text.Basic

/-!
# TOML strings

There are four written forms of a string: basic and literal, each on one line or on several.
A basic string has escapes, a literal one has none.  A reader here takes what follows the
opening quotes, and answers with the string and what follows the closing quotes.
-/

namespace DetachedTasks.Toml.Quoted

/-- A character that a string may hold on one line: anything but a control character other
than the tab. -/
def isPlain (character : Char) : Bool :=
  character == '\t' || (0x20 ≤ character.toNat && character.toNat != 0x7F)

/-- The character of a code in hexadecimal digits. -/
def scalar? (digits : Text) : Option Char := do
  let code ← Text.readDigits? 16 digits
  if code.isValidChar then some (Char.ofNat code) else none

/-- The character of an escape that is one letter. -/
def escape? : Char → Option Char
  | 'b' => some '\x08'
  | 't' => some '\t'
  | 'n' => some '\n'
  | 'f' => some '\x0c'
  | 'r' => some '\r'
  | 'e' => some '\x1b'
  | '"' => some '"'
  | '\\' => some '\\'
  | _ => none

/-- Put a character, if there is one, in front of a string that was read. -/
def prepend
    (character? : Option Char)
    (read? : Option (Text × Text)) : Option (Text × Text) := do
  let character ← character?
  let (string, rest) ← read?
  pure (character :: string, rest)

/-- A basic string on one line. -/
def basic? : Text → Option (Text × Text)
  | [] => none
  | '"' :: rest => some ([], rest)
  | '\\' :: 'x' :: a :: b :: rest => prepend (scalar? [a, b]) (basic? rest)
  | '\\' :: 'u' :: a :: b :: c :: d :: rest =>
      prepend (scalar? [a, b, c, d]) (basic? rest)
  | '\\' :: 'U' :: a :: b :: c :: d :: e :: f :: g :: h :: rest =>
      prepend (scalar? [a, b, c, d, e, f, g, h]) (basic? rest)
  | '\\' :: letter :: rest => prepend (escape? letter) (basic? rest)
  | character :: rest =>
      if isPlain character && character != '\\' then
        prepend (some character) (basic? rest)
      else
        none

theorem basic?_plain
    {character : Char}
    (notQuote : character ≠ '"')
    (notBackslash : character ≠ '\\')
    (plain : isPlain character = true)
    (rest : Text) :
    basic? (character :: rest) = prepend (some character) (basic? rest) := by
  rw [basic?]
  · rw [if_pos]
    simpa [notBackslash] using plain
  all_goals simp_all

/-- A literal string on one line. -/
def literal? : Text → Option (Text × Text)
  | [] => none
  | '\'' :: rest => some ([], rest)
  | character :: rest =>
      if isPlain character then prepend (some character) (literal? rest) else none

theorem literal?_plain
    {character : Char}
    (notQuote : character ≠ '\'')
    (plain : isPlain character = true)
    (rest : Text) :
    literal? (character :: rest) = prepend (some character) (literal? rest) := by
  rw [literal?]
  · rw [if_pos plain]
  · exact notQuote

/-- Whether a text begins with blanks and then the end of a line. -/
def beginsWithLineEnd (text : Text) : Bool :=
  match text.dropWhile fun character => character == ' ' || character == '\t' with
  | '\n' :: _ => true
  | '\r' :: '\n' :: _ => true
  | _ => false

/-- A basic string on several lines.  Up to two quotes may stand right before the closing
ones.  A backslash at the end of a line takes away all blanks and line ends that follow;
`trimming` says that this is going on. -/
def basicLines?
    (trimming : Bool) : Text → Option (Text × Text)
  | [] => none
  | '"' :: '"' :: '"' :: '"' :: '"' :: rest => some (['"', '"'], rest)
  | '"' :: '"' :: '"' :: '"' :: rest => some (['"'], rest)
  | '"' :: '"' :: '"' :: rest => some ([], rest)
  | '\\' :: 'x' :: a :: b :: rest =>
      prepend (scalar? [a, b]) (basicLines? false rest)
  | '\\' :: 'u' :: a :: b :: c :: d :: rest =>
      prepend (scalar? [a, b, c, d]) (basicLines? false rest)
  | '\\' :: 'U' :: a :: b :: c :: d :: e :: f :: g :: h :: rest =>
      prepend (scalar? [a, b, c, d, e, f, g, h]) (basicLines? false rest)
  | '\\' :: letter :: rest =>
      if beginsWithLineEnd (letter :: rest) then
        basicLines? true (letter :: rest)
      else
        prepend (escape? letter) (basicLines? false rest)
  | '\r' :: '\n' :: rest =>
      if trimming then
        basicLines? true rest
      else
        prepend (some '\r') (prepend (some '\n') (basicLines? false rest))
  | character :: rest =>
      if trimming && (character == ' ' || character == '\t' || character == '\n') then
        basicLines? true rest
      else if character == '\n' || (isPlain character && character != '\\') then
        prepend (some character) (basicLines? false rest)
      else
        none

theorem basicLines?_plain
    {character : Char}
    (notQuote : character ≠ '"')
    (notBackslash : character ≠ '\\')
    (notReturn : character ≠ '\r')
    (plain : character = '\n' ∨ isPlain character = true)
    (rest : Text) :
    basicLines? false (character :: rest) =
      prepend (some character) (basicLines? false rest) := by
  rw [basicLines?]
  · simp only [Bool.false_and, Bool.false_eq_true, if_false]
    rw [if_pos]
    simpa [notBackslash] using plain
  all_goals simp_all

/-- A literal string on several lines.  Up to two quotes may stand right before the closing
ones. -/
def literalLines? : Text → Option (Text × Text)
  | [] => none
  | '\'' :: '\'' :: '\'' :: '\'' :: '\'' :: rest => some (['\'', '\''], rest)
  | '\'' :: '\'' :: '\'' :: '\'' :: rest => some (['\''], rest)
  | '\'' :: '\'' :: '\'' :: rest => some ([], rest)
  | '\r' :: '\n' :: rest =>
      prepend (some '\r') (prepend (some '\n') (literalLines? rest))
  | character :: rest =>
      if character == '\n' || isPlain character then
        prepend (some character) (literalLines? rest)
      else
        none

theorem literalLines?_plain
    {character : Char}
    (notQuote : character ≠ '\'')
    (notReturn : character ≠ '\r')
    (plain : character = '\n' ∨ isPlain character = true)
    (rest : Text) :
    literalLines? (character :: rest) = prepend (some character) (literalLines? rest) := by
  rw [literalLines?]
  · rw [if_pos]
    simpa using plain
  all_goals simp_all

/-- Drop the end of a line right behind opening quotes; it does not belong to the string. -/
def dropFirstLineEnd : Text → Text
  | '\n' :: rest => rest
  | '\r' :: '\n' :: rest => rest
  | text => text

/-- A string on one line at the beginning of a text. -/
def oneLine? : Text → Option (Text × Text)
  | '"' :: rest => basic? rest
  | '\'' :: rest => literal? rest
  | _ => none

/-- A string in any form at the beginning of a text. -/
def string? : Text → Option (Text × Text)
  | '"' :: '"' :: '"' :: rest => basicLines? false (dropFirstLineEnd rest)
  | '\'' :: '\'' :: '\'' :: rest => literalLines? (dropFirstLineEnd rest)
  | text => oneLine? text

end DetachedTasks.Toml.Quoted
