import DetachedTasks.Path
import DetachedTasks.Platform

/-!
# Interpreters

What differs between the script interpreters of the platforms: the program, its flags, the
byte order mark that its source files need, and the line ends of generated text.  A script
given by the user is only encoded; generated text gets the line ends of the interpreter.
-/

namespace DetachedTasks

/-- The end of a line in generated text. -/
inductive LineEnd where
  | lineFeed
  | carriageReturnLineFeed
  deriving Repr, DecidableEq

/-- The characters of a line end. -/
def LineEnd.text : LineEnd → Text
  | .lineFeed => ['\n']
  | .carriageReturnLineFeed => ['\r', '\n']

/-- An interpreter for scripts. -/
structure Interpreter where
  /-- The name of its program. -/
  program : Text
  /-- Flags that stand before everything else. -/
  flags : List Text
  /-- Its source files begin with a byte order mark. -/
  marked : Bool
  /-- The line ends of generated text. -/
  lineEnd : LineEnd
  deriving Repr, DecidableEq

/-- The interpreter of a platform.  On Windows a source file without a byte order mark would
be read in a legacy encoding. -/
def Platform.interpreter : Platform → Interpreter
  | .posix =>
      { program := "pwsh".toList
        flags := ["-NoProfile".toList, "-NonInteractive".toList]
        marked := false
        lineEnd := .lineFeed }
  | .windows =>
      { program := "powershell.exe".toList
        flags :=
          ["-NoProfile".toList, "-NonInteractive".toList, "-ExecutionPolicy".toList,
           "Bypass".toList]
        marked := true
        lineEnd := .carriageReturnLineFeed }

namespace Interpreter

/-- The flags in one line. -/
def flagsLine (interpreter : Interpreter) : Text :=
  Text.joinWith [' '] interpreter.flags

/-- The byte order mark in UTF-8. -/
def byteOrderMark : Bytes := [0xEF, 0xBB, 0xBF]

/-- Replace every carriage return with its line feed by a line feed alone. -/
def foldLineEnds : Text → Text
  | [] => []
  | '\r' :: '\n' :: rest => '\n' :: foldLineEnds rest
  | character :: rest => character :: foldLineEnds rest

/-- Put a carriage return before every line feed. -/
def expandLineEnds (text : Text) : Text :=
  Text.replaceChar '\n' ['\r', '\n'] text

/-- Generated text with the line ends of the interpreter. -/
def withLineEnds
    (interpreter : Interpreter)
    (text : Text) : Text :=
  match interpreter.lineEnd with
  | .lineFeed => text
  | .carriageReturnLineFeed => expandLineEnds (foldLineEnds text)

/-- The bytes of a source file. -/
def encode
    (interpreter : Interpreter)
    (text : Text) : Bytes :=
  (if interpreter.marked then byteOrderMark else []) ++ Utf8.encode text

end Interpreter

/-- A path inside single quotes of a command.  Only the dollar sign is escaped, with a
backtick before it. -/
def Path.fragment (path : Path) : Text :=
  Text.replaceChar '$' ['`', '$'] path.shown

end DetachedTasks
