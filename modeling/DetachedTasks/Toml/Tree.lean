import DetachedTasks.Toml.Value

/-!
# The tree of a TOML document

Headers and dotted keys name tables along a path.  A table that was only passed through may
be opened once by its own header; a table that was made by dotted keys may only be extended
by dotted keys in the same place; an inline table and a written array are closed.  Nothing
may be defined twice.
-/

namespace DetachedTasks.Toml

/-- How a table came to be, which decides how it may still grow. -/
inductive TableOrigin where
  /-- Opened by its own header, or the root. -/
  | header
  /-- Passed through on the way to another header. -/
  | passed
  /-- Passed through by dotted keys. -/
  | dotted
  deriving Repr, DecidableEq

/-- A node of a document that is being read. -/
inductive Node where
  /-- A value that cannot be extended. -/
  | closed (value : Value)
  | table (origin : TableOrigin) (pairs : List (Text × Node))
  /-- The tables of an array of tables, in order. -/
  | tables (items : List Node)
  deriving Repr

namespace Node

/-- The node of a key. -/
def find?
    (pairs : List (Text × Node))
    (key : Text) : Option Node :=
  (pairs.find? (·.1 = key)).map (·.2)

/-- Put a node in the place of a key, or at the end if the key is new. -/
def replace
    (key : Text)
    (node : Node) : List (Text × Node) → List (Text × Node)
  | [] => [(key, node)]
  | pair :: rest =>
      if pair.1 = key then (key, node) :: rest else pair :: replace key node rest

/-- Whether a table of this origin may be passed through by a path of the given kind. -/
def mayPass
    (path origin : TableOrigin) : Bool :=
  path != .dotted || origin != .header

/-- Change the table at the end of a path.  Tables that are missing are made on the way, with
the given origin; an array of tables stands for its last table. -/
def alter
    (origin : TableOrigin)
    (change : Node → Option Node) : List Text → Node → Option Node
  | [], node => change node
  | key :: path, .table own pairs => do
      let next ←
        match find? pairs key with
        | none => alter origin change path (.table origin [])
        | some (.table other inner) =>
            if mayPass origin other then
              alter origin change path (.table other inner)
            else
              none
        | some (.tables items) =>
            match items.reverse with
            | [] => none
            | last :: before =>
                (alter origin change path last).map fun changed =>
                  .tables (before.reverse ++ [changed])
        | some (.closed _) => none
      pure (.table own (replace key next pairs))
  | _ :: _, _ => none

/-- Add a pair with a new key to a table.  Behind a dotted path the table has to be a dotted
one, and without a path it must not be. -/
def addPair
    (dotted : Bool)
    (key : Text)
    (value : Value) : Node → Option Node
  | .table origin pairs =>
      if (origin == .dotted) != dotted then none
      else
        match find? pairs key with
        | none => some (.table origin (replace key (.closed value) pairs))
        | some _ => none
  | _ => none

/-- Add a value under a dotted key. -/
def addEntry
    (node : Node)
    (entry : List Text × Value) : Option Node :=
  match entry.1.reverse with
  | [] => none
  | key :: before =>
      alter .dotted (addPair (!before.isEmpty) key entry.2) before.reverse node

/-- Add values under dotted keys, in order. -/
def addEntries
    (node : Node)
    (entries : List (List Text × Value)) : Option Node :=
  entries.foldlM addEntry node

/-- Open the table of a header and fill it. -/
def openTable
    (key : Text)
    (entries : List (List Text × Value)) : Node → Option Node
  | .table origin pairs => do
      let inner ←
        match find? pairs key with
        | none => some []
        | some (.table .passed inner) => some inner
        | some _ => none
      let filled ← addEntries (.table .header inner) entries
      pure (.table origin (replace key filled pairs))
  | _ => none

/-- Add a table to an array of tables. -/
def appendTable
    (key : Text)
    (entries : List (List Text × Value)) : Node → Option Node
  | .table origin pairs => do
      let items ←
        match find? pairs key with
        | none => some []
        | some (.tables items) => some items
        | some _ => none
      let filled ← addEntries (.table .header []) entries
      pure (.table origin (replace key (.tables (items ++ [filled])) pairs))
  | _ => none

mutual

/-- The value of a finished node. -/
def value : Node → Value
  | .closed value => value
  | .table _ pairs => .table (pairValues pairs)
  | .tables items => .array (values items)

/-- The values of finished nodes with their keys. -/
def pairValues : List (Text × Node) → List (Text × Value)
  | [] => []
  | (key, node) :: rest => (key, node.value) :: pairValues rest

/-- The values of finished nodes. -/
def values : List Node → List Value
  | [] => []
  | node :: rest => node.value :: values rest

end

end Node

/-- The table that an inline table denotes. -/
def inlineTable? (entries : List (List Text × Value)) : Option Value :=
  (Node.addEntries (.table .header []) entries).map Node.value

/-- A part of a document: a header, and what stands below it. -/
structure Part where
  /-- The path of the header; empty for what stands above all headers. -/
  path : List Text
  /-- The header begins a new table of an array. -/
  repeated : Bool
  entries : List (List Text × Value)
  deriving Repr

/-- Add a part to the tree. -/
def addPart
    (root : Node)
    (part : Part) : Option Node :=
  match part.path.reverse with
  | [] => root.addEntries part.entries
  | key :: before =>
      Node.alter .passed
        (if part.repeated then Node.appendTable key part.entries
          else Node.openTable key part.entries)
        before.reverse root

/-- The table that a document denotes. -/
def document? (parts : List Part) : Option Value :=
  (parts.foldlM addPart (.table .header [])).map Node.value

end DetachedTasks.Toml
