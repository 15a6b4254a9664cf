import DetachedTasks.Text.Table.Printable
import DetachedTasks.Text.Utf8

/-!
# Quoted text in messages

Messages show paths and file contents between double quotes.  Inside them a character that
would not be visible, or that would attach itself to its neighbour, is written as an escape;
a byte that is not part of well-formed UTF-8 is written by its two hexadecimal digits.
-/

namespace DetachedTasks.Text

/-- A character that is shown as it is. -/
def isPrintable (character : Char) : Bool :=
  let code := character.toNat
  if code < 0x7F then
    0x20 ≤ code
  else
    !inRanges Table.unprintable code

/-- A character that attaches to the one before it. -/
def isGraphemeExtend (character : Char) : Bool :=
  0x300 ≤ character.toNat && inRanges Table.graphemeExtend character.toNat

/-- Hexadecimal digits in lower case, without leading zeros. -/
def hexadecimal (number : Nat) : Text :=
  Nat.toDigits 16 number

/-- The escaped form of one character inside double quotes. -/
def quotedChar (character : Char) : Text :=
  if character = '\x00' then ['\\', '0']
  else if character = '\t' then ['\\', 't']
  else if character = '\r' then ['\\', 'r']
  else if character = '\n' then ['\\', 'n']
  else if character = '"' then ['\\', '"']
  else if character = '\\' then ['\\', '\\']
  else if isGraphemeExtend character || !isPrintable character then
    ['\\', 'u', '\x7b'] ++ hexadecimal character.toNat ++ ['\x7d']
  else
    [character]

/-- Two upper-case hexadecimal digits for a byte. -/
def hexadecimalByte (octet : UInt8) : Text :=
  let digit (value : Nat) : Char :=
    if value < 10 then Char.ofNat (0x30 + value) else Char.ofNat (0x41 + value - 10)
  [digit (octet.toNat / 16), digit (octet.toNat % 16)]

/-- A text between double quotes, with escapes. -/
def quoted (text : Text) : Text :=
  '"' :: text.flatMap quotedChar ++ ['"']

/-- The escaped form of one piece of a byte string. -/
def quotedPiece : Utf8.Piece → Text
  | .scalar character => quotedChar character
  | .malformed octets _ =>
      octets.flatMap fun octet => '\\' :: 'x' :: hexadecimalByte octet

/-- A byte string between double quotes, with escapes. -/
def quotedBytes (bytes : Bytes) : Text :=
  '"' :: (Utf8.pieces bytes).flatMap quotedPiece ++ ['"']

end DetachedTasks.Text
