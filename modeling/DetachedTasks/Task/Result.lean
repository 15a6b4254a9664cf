import DetachedTasks.Text.Utf8

/-!
# Result files

A result file holds the exit code of a task in decimal.  Blanks around it and byte order
marks before it do not count, and a file with nothing else in it says that the result is
still being written.
-/

namespace DetachedTasks

/-- Drop the byte order marks that a text begins with. -/
def Text.withoutMarks (text : Text) : Text :=
  text.dropWhile (· == '\uFEFF')

namespace ResultText

/-- The significant part of a result file. -/
def significant (content : Bytes) : Text :=
  Text.trim (Text.withoutMarks (Utf8.decodeLossy content))

/-- Whether an integer is an exit code: it fits in 32 bits with a sign. -/
def inRange (number : Int) : Bool :=
  -2147483648 ≤ number && number < 2147483648

/-- An integer in decimal, with an optional sign and any number of zeros in front. -/
def integer? (text : Text) : Option Int :=
  match text with
  | '-' :: digits => (Text.readDigits? 10 digits).map fun number => -(number : Int)
  | '+' :: digits => (Text.readDigits? 10 digits).map fun number => (number : Int)
  | digits => (Text.readDigits? 10 digits).map fun number => (number : Int)

/-- The exit code that a text stands for. -/
def exitCode? (text : Text) : Option Int32 :=
  ((integer? text).filter inRange).map Int32.ofInt

/-- What a result file says: an exit code, or nothing yet, or something that is no exit
code. -/
def parse (content : Bytes) : Except Text (Option Int32) :=
  let text := significant content
  if text.isEmpty then
    .ok none
  else
    match exitCode? text with
    | some code => .ok (some code)
    | none => .error text

/-- What the child of a task writes into its result file. -/
def ofExitCode (code : Int32) : Bytes :=
  Utf8.encode (Text.integer code.toInt ++ ['\r', '\n'])

end ResultText

end DetachedTasks
