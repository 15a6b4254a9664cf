import DetachedTasks.Toml.Quoted
import DetachedTasks.Toml.Scalar
import DetachedTasks.Toml.Tree

/-!
# Reading TOML

A document is read line by line into parts, each a header with the pairs below it, and the
parts are put together into one table.  What is wrong with a document is not told.
-/

namespace DetachedTasks.Toml.Reader

/-- A blank inside a line. -/
def isSpace (character : Char) : Bool :=
  character == ' ' || character == '\t'

/-- Drop the blanks that a text begins with. -/
def skipSpaces (text : Text) : Text :=
  text.dropWhile isSpace

/-- Drop the end of a line. -/
def lineEnd? : Text → Option Text
  | '\n' :: rest => some rest
  | '\r' :: '\n' :: rest => some rest
  | _ => none

/-- Drop a comment, if there is one; the end of the line stays. -/
def skipComment : Text → Text
  | '#' :: rest => rest.dropWhile Quoted.isPlain
  | text => text

/-- Drop what may follow on a line, and the end of the line or the document. -/
def endOfLine? (text : Text) : Option Text :=
  match skipComment (skipSpaces text) with
  | [] => some []
  | rest => lineEnd? rest

/-- Drop blanks, line ends and comments. -/
def skipFiller
    (fuel : Nat)
    (text : Text) : Text :=
  match fuel with
  | 0 => text
  | fuel + 1 =>
      let rest := skipSpaces text
      match rest with
      | '#' :: _ =>
          match skipComment rest with
          | [] => []
          | behind =>
              match lineEnd? behind with
              | some next => skipFiller fuel next
              | none => behind
      | _ =>
          match lineEnd? rest with
          | some next => skipFiller fuel next
          | none => rest

/-- Drop blanks, line ends and comments, as far as they go. -/
def skipAll (text : Text) : Text :=
  skipFiller (text.length + 1) text

/-- A character of a bare key. -/
def isBareKey (character : Char) : Bool :=
  character.isAlphanum || character == '_' || character == '-'

/-- One key. -/
def simpleKey? (text : Text) : Option (Text × Text) :=
  match text with
  | '"' :: _ => Quoted.oneLine? text
  | '\'' :: _ => Quoted.oneLine? text
  | _ =>
      match text.takeWhile isBareKey with
      | [] => none
      | key => some (key, text.dropWhile isBareKey)

/-- Keys with dots between them. -/
def dottedKey?
    (fuel : Nat)
    (text : Text) : Option (List Text × Text) :=
  match fuel with
  | 0 => none
  | fuel + 1 => do
      let (key, rest) ← simpleKey? (skipSpaces text)
      match skipSpaces rest with
      | '.' :: behind =>
          let (path, rest) ← dottedKey? fuel behind
          pure (key :: path, rest)
      | rest => pure ([key], rest)

/-- A key at the beginning of a text, dotted or not, and what follows it. -/
def key? (text : Text) : Option (List Text × Text) :=
  dottedKey? (text.length + 1) text

/-- How deep values may be nested. -/
def deepest : Nat := 80

mutual

/-- A value at the beginning of a text, and what follows it. -/
def value?
    (fuel depth : Nat)
    (text : Text) : Option (Value × Text) :=
  match fuel with
  | 0 => none
  | fuel + 1 =>
      match text with
      | '"' :: _ => (Quoted.string? text).map fun (string, rest) => (.string string, rest)
      | '\'' :: _ => (Quoted.string? text).map fun (string, rest) => (.string string, rest)
      | '[' :: rest =>
          if depth < deepest then do
            let (items, rest) ← items? fuel (depth + 1) (skipAll rest)
            pure (.array items, rest)
          else
            none
      | '\x7b' :: rest =>
          if depth < deepest then do
            let (entries, rest) ← entries? fuel (depth + 1) (skipAll rest)
            let table ← inlineTable? entries
            pure (table, rest)
          else
            none
      | _ =>
          let (run, rest) := Scalar.run text
          (Scalar.value? run).map fun value => (value, rest)

/-- The items of an array up to its closing bracket. -/
def items?
    (fuel depth : Nat)
    (text : Text) : Option (List Value × Text) :=
  match fuel with
  | 0 => none
  | fuel + 1 =>
      match text with
      | ']' :: rest => some ([], rest)
      | _ => do
          let (item, rest) ← value? fuel depth text
          match skipAll rest with
          | ',' :: behind =>
              let (items, rest) ← items? fuel depth (skipAll behind)
              pure (item :: items, rest)
          | ']' :: behind => pure ([item], behind)
          | _ => none

/-- The entries of an inline table up to its closing brace. -/
def entries?
    (fuel depth : Nat)
    (text : Text) : Option (List (List Text × Value) × Text) :=
  match fuel with
  | 0 => none
  | fuel + 1 =>
      match text with
      | '\x7d' :: rest => some ([], rest)
      | _ => do
          let (path, rest) ← key? text
          match rest with
          | '=' :: behind =>
              let (value, rest) ← value? fuel depth (skipSpaces behind)
              match skipAll rest with
              | ',' :: behind =>
                  let (entries, rest) ← entries? fuel depth (skipAll behind)
                  pure ((path, value) :: entries, rest)
              | '\x7d' :: behind => pure ([(path, value)], behind)
              | _ => none
          | _ => none

end

/-- A key with its value, up to the end of the line. -/
def entry? (text : Text) : Option ((List Text × Value) × Text) := do
  let (path, rest) ← key? text
  match rest with
  | '=' :: behind =>
      let (value, rest) ← value? (2 * behind.length + 2) 0 (skipSpaces behind)
      pure ((path, value), ← endOfLine? rest)
  | _ => none

/-- The header of a part, up to the end of the line. -/
def header? (text : Text) : Option ((List Text × Bool) × Text) :=
  match text with
  | '[' :: '[' :: rest => do
      let (path, rest) ← key? rest
      match rest with
      | ']' :: ']' :: behind => pure ((path, true), ← endOfLine? behind)
      | _ => none
  | '[' :: rest => do
      let (path, rest) ← key? rest
      match rest with
      | ']' :: behind => pure ((path, false), ← endOfLine? behind)
      | _ => none
  | _ => none

/-- The parts of a document; `current` is the part that is being read and holds its entries last
one first. -/
def parts?
    (fuel : Nat)
    (current : Part)
    (text : Text) : Option (List Part) :=
  let finished : Part := { current with entries := current.entries.reverse }
  match fuel with
  | 0 => none
  | fuel + 1 =>
      match skipAll text with
      | [] => some [finished]
      | '[' :: rest => do
          let ((path, repeated), behind) ← header? ('[' :: rest)
          let others ← parts? fuel ⟨path, repeated, []⟩ behind
          pure (finished :: others)
      | line => do
          let (entry, rest) ← entry? line
          parts? fuel { current with entries := entry :: current.entries } rest

/-- Drop the byte order mark that a document may begin with. -/
def dropMark : Text → Text
  | '\uFEFF' :: rest => rest
  | text => text

end DetachedTasks.Toml.Reader

namespace DetachedTasks.Toml

/-- The table that a document denotes, if it is well-formed. -/
def read? (text : Text) : Option Value := do
  let content := Reader.dropMark text
  let parts ← Reader.parts? (content.length + 1) ⟨[], false, []⟩ content
  document? parts

end DetachedTasks.Toml
