import DetachedTasks.Text.Quoted

/-!
# Paths

A path keeps the exact bytes it was built from, because messages and generated scripts show
them.  Whether two paths name the same place, which path contains which, and what the parent
of a path is, is decided by its components: repeated and trailing slashes do not count, nor
does a `.` that does not lead a relative path, while `..` is a component like any other.
-/

namespace DetachedTasks

/-- A path in the form it was written. -/
structure Path where
  bytes : Bytes
  deriving Repr, DecidableEq

/-- One component of a path. -/
inductive Component where
  /-- The slash that begins an absolute path. -/
  | root
  /-- The dot that leads a relative path. -/
  | here
  /-- Two dots. -/
  | up
  /-- A name. -/
  | name (bytes : Bytes)
  deriving Repr, DecidableEq

/-- The place that a path names, as its components from the outermost inwards. -/
abbrev Location := List Component

namespace Path

/-- The byte of a slash. -/
def slash : UInt8 := 0x2F

/-- The byte of a dot. -/
def dot : UInt8 := 0x2E

/-- The path written as a text. -/
def ofText (text : Text) : Path :=
  ⟨Utf8.encode text⟩

/-- The text of a path, with U+FFFD where it is not well-formed. -/
def shown (path : Path) : Text :=
  Utf8.decodeLossy path.bytes

/-- The path between double quotes, as messages show it. -/
def quoted (path : Path) : Text :=
  Text.quotedBytes path.bytes

/-- A path that begins with a slash. -/
def isAbsolute (path : Path) : Bool :=
  path.bytes.head? == some slash

/-- A segment between slashes that is no component of its own. -/
def isVoid (segment : Bytes) : Bool :=
  segment.isEmpty || segment == [dot]

/-- What a path begins with before its segments: a slash, a leading dot or nothing. -/
def head (path : Path) : Bytes :=
  match path.bytes with
  | first :: rest =>
      if first = slash then [slash]
      else if first = dot && (rest.isEmpty || rest.head? == some slash) then [dot]
      else []
  | [] => []

/-- What follows the head of a path. -/
def body (path : Path) : Bytes :=
  path.bytes.drop path.head.length

/-- A path is its head followed by its body. -/
theorem head_append_body (path : Path) :
    path.head ++ path.body = path.bytes := by
  rcases path with ⟨bytes⟩
  cases bytes with
  | nil => rfl
  | cons first rest =>
      by_cases isSlash : first = slash
      · simp [head, body, isSlash]
      · by_cases isDot :
            (first = dot && (rest.isEmpty || rest.head? == some slash)) = true
        · have firstDot : first = dot := by
            simp only [Bool.and_eq_true, decide_eq_true_eq] at isDot
            exact isDot.1
          simp only [head, body, isSlash, isDot, if_true, if_false]
          simp [firstDot]
        · simp [head, body, isSlash, isDot]

/-- The component that the head of a path stands for. -/
def headComponents (path : Path) : Location :=
  if path.head = [slash] then [.root]
  else if path.head = [dot] then [.here]
  else []

/-- The component that a segment stands for. -/
def componentOf (segment : Bytes) : Component :=
  if segment = [dot, dot] then .up else .name segment

/-- The place that a path names. -/
def location (path : Path) : Location :=
  path.headComponents
    ++ ((Text.splitOn slash path.body).filter (!isVoid ·)).map componentOf

/-- Two paths that name the same place. -/
def SamePlace (first second : Path) : Prop :=
  first.location = second.location

/-- Whether a path names a place at or below another one. -/
def isWithin (path directory : Path) : Bool :=
  directory.location.isPrefixOf path.location

/-- What lies within a directory continues its components. -/
theorem isWithin_iff
    {path directory : Path} :
    path.isWithin directory = true ↔
      ∃ below, path.location = directory.location ++ below := by
  rw [isWithin, List.isPrefixOf_iff_prefix]
  constructor
  · rintro ⟨below, continued⟩
    exact ⟨below, continued.symm⟩
  · rintro ⟨below, continued⟩
    exact ⟨below, continued.symm⟩

/-- The path without its last component, in the form it was written.  The root and the
empty path have no parent. -/
def parent? (path : Path) : Option Path :=
  match (Text.dropEndWhile isVoid (Text.splitOn slash path.body)).reverse with
  | [] => if path.head = [dot] then some ⟨[]⟩ else none
  | _ :: before =>
      some ⟨path.head
        ++ Text.joinWith [slash] (Text.dropEndWhile isVoid before.reverse)⟩

/-- The last component, if it is a name. -/
def fileName? (path : Path) : Option Bytes :=
  match path.location.getLast? with
  | some (.name bytes) => some bytes
  | _ => none

/-- A path continued by another one: an absolute path replaces what was there, an empty one
only adds a slash. -/
def join (base path : Path) : Path :=
  if path.isAbsolute then
    path
  else if base.bytes.isEmpty || base.bytes.getLast? == some slash then
    ⟨base.bytes ++ path.bytes⟩
  else
    ⟨base.bytes ++ slash :: path.bytes⟩

/-- A path continued by a text. -/
def joinText (base : Path) (text : Text) : Path :=
  base.join (ofText text)

/-- The bytes that a component is written with. -/
def componentBytes : Component → Bytes
  | .root => [slash]
  | .here => [dot]
  | .up => [dot, dot]
  | .name bytes => bytes

/-- A path continued by components, one after another. -/
def joinComponents (base : Path) (components : Location) : Path :=
  components.foldl (fun path component => path.join ⟨componentBytes component⟩) base

/-- An absolute form of a path seen from a current directory.  Nothing is looked up: only
repeated slashes and single dots go, two leading slashes stay two, and a trailing slash
stays.  An empty path has no absolute form. -/
def absoluteFrom? (current path : Path) : Option Path :=
  if path.bytes.isEmpty then
    none
  else
    let components := path.location.filter (· != .here)
    let resolved :=
      if path.isAbsolute then
        let twoSlashes :=
          (path.bytes.take 2 == [slash, slash]) && path.bytes[2]? != some slash
        if twoSlashes then
          joinComponents ⟨[slash, slash]⟩ (components.drop 1)
        else
          joinComponents ⟨[]⟩ components
      else
        joinComponents current components
    if path.bytes.getLast? == some slash then
      some (resolved.join ⟨[]⟩)
    else
      some resolved

/-- The mark of an extended-length network path of Windows. -/
def networkMark : Text := "\\\\?\\UNC\\".toList

/-- The mark of an extended-length path of Windows. -/
def extendedMark : Text := "\\\\?\\".toList

/-- A path without the mark of an extended-length path, which not every interpreter for
scripts accepts.  A path without the mark keeps its bytes. -/
def plain (path : Path) : Path :=
  match Text.afterPrefix? networkMark path.shown with
  | some rest => ofText ('\\' :: '\\' :: rest)
  | none =>
      match Text.afterPrefix? extendedMark path.shown with
      | some rest => ofText rest
      | none => path

end Path

end DetachedTasks
