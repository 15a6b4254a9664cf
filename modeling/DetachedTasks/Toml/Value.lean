import DetachedTasks.Number.Binary64
import DetachedTasks.Text.Order

/-!
# TOML values

What a TOML document denotes.  An integer is kept whole, whatever its size; which sizes can
be read is decided where a value is read.  A date with or without a time is kept only as
such, because no setting is one.
-/

namespace DetachedTasks.Toml

/-- A TOML value. -/
inductive Value where
  | string (text : Text)
  | integer (number : Int)
  | float (number : Binary64)
  /-- A finite literal too large for a number of double precision. -/
  | overflow
  | boolean (flag : Bool)
  /-- A date, a time or both. -/
  | moment
  | array (items : List Value)
  | table (pairs : List (Text × Value))
  deriving Repr

/-- Put a pair into a list of pairs that is sorted by key. -/
def insertPair
    (pair : Text × α) : List (Text × α) → List (Text × α)
  | [] => [pair]
  | other :: rest =>
      if Text.precedes pair.1 other.1 then pair :: other :: rest
      else other :: insertPair pair rest

/-- Pairs in the order of their keys. -/
def sortPairs (pairs : List (Text × α)) : List (Text × α) :=
  pairs.foldl (fun sorted pair => insertPair pair sorted) []

end DetachedTasks.Toml
