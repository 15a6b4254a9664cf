import DetachedTasks.Text.Basic

/-!
# Writing TOML

A record is written with one pair a line.  A string is written in the plainest of the four
forms that can hold it without escapes; only a string that none of them can hold is escaped.
-/

namespace DetachedTasks.Toml.Writer

/-- The forms of a string. -/
inductive Form where
  | basic
  | literal
  | basicLines
  | literalLines
  deriving Repr, DecidableEq

/-- A control character that has to be escaped in every form. -/
def isControl (character : Char) : Bool :=
  (character.toNat < 0x20 && character != '\t' && character != '\n')
    || character.toNat == 0x7F

/-- The longest run of one character in a text; `current` counts the run that is being read
and `longest` is the longest one before it. -/
def longestRunFrom
    (wanted : Char)
    (current longest : Nat) : Text → Nat
  | [] => max current longest
  | character :: rest =>
      if character = wanted then
        longestRunFrom wanted (current + 1) longest rest
      else
        longestRunFrom wanted 0 (max current longest) rest

/-- The longest run of one character in a text. -/
def longestRun
    (wanted : Char)
    (text : Text) : Nat :=
  longestRunFrom wanted 0 0 text

/-- The form that a string is written in. -/
def formOf (text : Text) : Form :=
  let control := text.any isControl
  let backslash := text.contains '\\'
  let lineFeed := text.contains '\n'
  if !control && !backslash && !text.contains '"' && !lineFeed then .basic
  else if !control && !text.contains '\'' && !lineFeed then .literal
  else if !control && !backslash && longestRun '"' text ≤ 2 then .basicLines
  else if !control && longestRun '\'' text ≤ 2 then .literalLines
  else if lineFeed then .basicLines
  else .basic

/-- Upper-case hexadecimal digits of a number below 256. -/
def hexadecimalPair (number : Nat) : Text :=
  let digit (value : Nat) : Char :=
    if value < 10 then Char.ofNat (0x30 + value) else Char.ofNat (0x41 + value - 10)
  [digit (number / 16), digit (number % 16)]

/-- The escape of a character that is neither a quote nor a line feed, if it needs one. -/
def escape? (character : Char) : Option Text :=
  if character = '\x08' then some ['\\', 'b']
  else if character = '\t' then some ['\\', 't']
  else if character = '\x0c' then some ['\\', 'f']
  else if character = '\r' then some ['\\', 'r']
  else if character = '\\' then some ['\\', '\\']
  else if character.toNat < 0x20 || character.toNat = 0x7F then
    some (['\\', 'u', '0', '0'] ++ hexadecimalPair character.toNat)
  else none

/-- The inside of a basic string.  `allowed` is how many quotes may stand in a row without an
escape and `seen` how many stand right before. -/
def escapeFrom
    (lines : Bool)
    (allowed seen : Nat) : Text → Text
  | [] => []
  | character :: rest =>
      if character = '"' then
        if seen < allowed then
          '"' :: escapeFrom lines allowed (seen + 1) rest
        else
          '\\' :: '"' :: escapeFrom lines allowed 0 rest
      else if character = '\n' then
        (if lines then ['\n'] else ['\\', 'n']) ++ escapeFrom lines allowed 0 rest
      else
        (escape? character).getD [character] ++ escapeFrom lines allowed 0 rest

/-- The line end behind opening quotes; it is left out where it would be the only one. -/
def firstLineEnd (text : Text) : Text :=
  if text.contains '\n' then ['\n'] else []

/-- A string in a form. -/
def stringIn
    (form : Form)
    (text : Text) : Text :=
  match form with
  | .basic => ['"'] ++ escapeFrom false 0 0 text ++ ['"']
  | .literal => ['\''] ++ text ++ ['\'']
  | .basicLines =>
      ['"', '"', '"'] ++ firstLineEnd text ++ escapeFrom true 2 0 text
        ++ ['"', '"', '"']
  | .literalLines =>
      ['\'', '\'', '\''] ++ firstLineEnd text ++ text ++ ['\'', '\'', '\'']

/-- A string. -/
def string (text : Text) : Text :=
  stringIn (formOf text) text

/-- A truth value. -/
def boolean : Bool → Text
  | true => "true".toList
  | false => "false".toList

/-- A number. -/
def word (number : UInt64) : Text :=
  Text.natural number.toNat

/-- A pair in a line of its own. -/
def line (key value : Text) : Text :=
  key ++ " = ".toList ++ value ++ ['\n']

end DetachedTasks.Toml.Writer
