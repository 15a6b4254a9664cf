import DetachedTasks.Text.Quoted
import DetachedTasks.Toml.Value

/-!
# Reading settings from TOML values

A well-formed document may still not fit what is read from it.  A table is read with its keys
in order and the first misfit is reported; a list of values may stand for a table and gives
the values of its fields in the order in which they are declared.
-/

namespace DetachedTasks.Toml

/-- Why a value does not fit. -/
inductive Misfit where
  | unknownField (name : Text) (expected : List Text)
  | unknownVariant (name : Text) (expected : List Text)
  | missingField (name : Text)
  /-- A value of another kind was needed. -/
  | wrongType (found expected : Text)
  /-- A value of the right kind is out of range. -/
  | wrongValue (found expected : Text)
  /-- A value that cannot be taken at all. -/
  | unusable
  deriving Repr, DecidableEq

/-- A name between backticks. -/
def ticked (name : Text) : Text :=
  '\x60' :: name ++ ['\x60']

/-- The names that were possible. -/
def alternatives : List Text → Text
  | [] => []
  | [name] => ticked name
  | [first, second] => ticked first ++ " or ".toList ++ ticked second
  | names => "one of ".toList ++ Text.joinWith [',', ' '] (names.map ticked)

/-- The wording of a misfit; a value that cannot be taken at all has none. -/
def Misfit.message? : Misfit → Option Text
  | .unknownField name expected =>
      some ("unknown field ".toList ++ ticked name ++ ", expected ".toList
        ++ alternatives expected)
  | .unknownVariant name expected =>
      some ("unknown variant ".toList ++ ticked name ++ ", expected ".toList
        ++ alternatives expected)
  | .missingField name => some ("missing field ".toList ++ ticked name)
  | .wrongType found expected =>
      some ("invalid type: ".toList ++ found ++ ", expected ".toList ++ expected)
  | .wrongValue found expected =>
      some ("invalid value: ".toList ++ found ++ ", expected ".toList ++ expected)
  | .unusable => none

namespace Value

/-- The key under which a date or time is seen when a table is read from it. -/
def momentKey : Text := "$__toml_private_datetime".toList

/-- One more than the greatest number of 64 bits without sign. -/
def wordBound : Int := 18446744073709551616

/-- One more than the greatest number of 64 bits with a sign. -/
def signedBound : Int := 9223372036854775808

/-- One more than the greatest number of 128 bits without sign. -/
def wideBound : Int := 340282366920938463463374607431768211456

/-- One more than the greatest number of 128 bits with a sign. -/
def wideSignedBound : Int := 170141183460469231731687303715884105728

/-- What a value is called in a message; nothing if it cannot be taken at all. -/
def described? : Value → Option Text
  | .string text => some ("string ".toList ++ Text.quoted text)
  | .integer number =>
      let plain := "integer ".toList ++ ticked (Text.integer number)
      if -signedBound ≤ number && number < wordBound then some plain
      else if -wideSignedBound ≤ number && number < wideSignedBound then
        some (plain ++ " as i128".toList)
      else if 0 ≤ number && number < wideBound then some (plain ++ " as u128".toList)
      else none
  | .float number => some ("floating point ".toList ++ ticked number.text)
  | .overflow => none
  | .boolean flag =>
      some ("boolean ".toList ++ ticked (if flag then "true".toList else "false".toList))
  | .moment => some "map".toList
  | .array _ => some "sequence".toList
  | .table _ => some "map".toList

/-- The misfit of a value of the wrong kind. -/
def misfit
    (value : Value)
    (expected : Text) : Misfit :=
  match value.described? with
  | some found => .wrongType found expected
  | none => .unusable

/-- Read a text. -/
def readText (value : Value) : Except Misfit Text :=
  match value with
  | .string text => .ok text
  | _ => .error (value.misfit "a string".toList)

/-- Read a truth value. -/
def readBoolean (value : Value) : Except Misfit Bool :=
  match value with
  | .boolean flag => .ok flag
  | _ => .error (value.misfit "a boolean".toList)

/-- Read a number of 64 bits without sign. -/
def readWord (value : Value) : Except Misfit UInt64 :=
  match value with
  | .integer number =>
      if 0 ≤ number && number < wordBound then
        .ok number.toNat.toUInt64
      else if -signedBound ≤ number && number < 0 then
        .error (.wrongValue ("integer ".toList ++ ticked (Text.integer number)) "u64".toList)
      else
        .error (value.misfit "u64".toList)
  | _ => .error (value.misfit "u64".toList)

/-- Read one of several names. -/
def readVariant
    (names : List (Text × α))
    (value : Value) : Except Misfit α :=
  let choose (name : Text) : Except Misfit α :=
    match names.find? (·.1 = name) with
    | some (_, chosen) => .ok chosen
    | none => .error (.unknownVariant name (names.map (·.1)))
  match value with
  | .string name => choose name
  | .table [(name, content)] => do
      let chosen ← choose name
      match content with
      | .table [] => .ok chosen
      | .array [] => .ok chosen
      | _ => .error .unusable
  | _ => .error .unusable

/-- Read a record.  A step takes the record read so far, the name of a field and its value. -/
def readRecord
    (kind : Text)
    (names : List Text)
    (initial : α)
    (step : α → Text → Value → Except Misfit α)
    (value : Value) : Except Misfit α :=
  match value with
  | .table pairs =>
      (sortPairs pairs).foldlM (fun read pair => step read pair.1 pair.2) initial
  | .array items =>
      (names.zip items).foldlM (fun read pair => step read pair.1 pair.2) initial
  | .moment => step initial momentKey (.string [])
  | _ => .error (value.misfit ("struct ".toList ++ kind))

mutual

/-- Whether a value can be passed over: it holds no number too large to be taken. -/
def isPassable : Value → Bool
  | .integer number => -wideSignedBound ≤ number && number < wideBound
  | .overflow => false
  | .array items => arePassable items
  | .table pairs => pairsArePassable pairs
  | _ => true

/-- Whether all values of a list can be passed over. -/
def arePassable : List Value → Bool
  | [] => true
  | value :: rest => value.isPassable && arePassable rest

/-- Whether all values of a table can be passed over. -/
def pairsArePassable : List (Text × Value) → Bool
  | [] => true
  | (_, value) :: rest => value.isPassable && pairsArePassable rest

end

/-- Pass over the value of a field that nobody asks for. -/
def skip
    (value : Value)
    (record : α) : Except Misfit α :=
  if value.isPassable then .ok record else .error .unusable

end Value

/-- Why nothing can be read from a document. -/
inductive Fault where
  /-- The document is not well-formed. -/
  | malformed
  /-- The document does not fit what is read from it. -/
  | misfit (cause : Misfit)
  deriving Repr, DecidableEq

/-- The wording of a fault, where it has one. -/
def Fault.message? : Fault → Option Text
  | .malformed => none
  | .misfit cause => cause.message?

end DetachedTasks.Toml
