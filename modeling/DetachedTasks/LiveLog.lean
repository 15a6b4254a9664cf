import DetachedTasks.Text.Utf8

/-!
# The live log

What a process prints arrives in chunks that are cut anywhere.  It is relayed to the live log
line by line: a line ends with its line feed, and what follows the last line feed is a line
of its own if the stream ended in an orderly way.  Bytes that are not UTF-8 are shown as
U+FFFD, and no line shows its line end.
-/

namespace DetachedTasks.LiveLog

/-- The byte of a line feed. -/
def lineFeed : UInt8 := 0x0A

/-- How a stream ends. -/
inductive Ending where
  /-- The stream was closed. -/
  | closed
  /-- Reading failed. -/
  | broken
  deriving Repr, DecidableEq

/-- Cut bytes behind every line feed: the complete lines, each with its line feed, and what
is left.  `pending` holds what came before, last byte first. -/
def cut (pending : Bytes) : Bytes → List Bytes × Bytes
  | [] => ([], pending)
  | octet :: rest =>
      if octet = lineFeed then
        let found := cut [] rest
        ((octet :: pending).reverse :: found.1, found.2)
      else
        cut (octet :: pending) rest

/-- A character of a line end. -/
def isLineEnd (character : Char) : Bool :=
  character == '\n' || character == '\r'

/-- A line as the live log shows it. -/
def shown (line : Bytes) : Text :=
  Text.dropEndWhile isLineEnd (Utf8.decodeLossy line)

/-- Read chunks one after another; `pending` is the line that is still open, last byte
first. -/
def readChunks
    (ending : Ending)
    (pending : Bytes) : List Bytes → List Text
  | [] =>
      match ending with
      | .broken => []
      | .closed => if pending.isEmpty then [] else [shown pending.reverse]
  | chunk :: rest =>
      let found := cut pending chunk
      found.1.map shown ++ readChunks ending found.2 rest

/-- The lines that are relayed from a stream that arrives in chunks. -/
def relayed
    (chunks : List Bytes)
    (ending : Ending) : List Text :=
  readChunks ending [] chunks

/-- Cutting a longer stretch of bytes goes on where the first part stopped. -/
theorem cut_append
    (pending first second : Bytes) :
    cut pending (first ++ second) =
      ((cut pending first).1 ++ (cut (cut pending first).2 second).1,
        (cut (cut pending first).2 second).2) := by
  induction first generalizing pending with
  | nil => simp [cut]
  | cons octet rest inductionHypothesis =>
      simp only [List.cons_append, cut]
      split
      · simp [inductionHypothesis]
      · exact inductionHypothesis _

/-- The lines do not depend on how the stream is cut into chunks. -/
theorem readChunks_eq_flatten
    (ending : Ending)
    (pending : Bytes)
    (chunks : List Bytes) :
    readChunks ending pending chunks = readChunks ending pending [chunks.flatten] := by
  induction chunks generalizing pending with
  | nil => simp [readChunks, cut]
  | cons chunk rest inductionHypothesis =>
      rw [readChunks, inductionHypothesis]
      simp only [readChunks, List.flatten_cons, cut_append, List.map_append,
        List.append_assoc]

end DetachedTasks.LiveLog
