import DetachedTasks.Text.Table.Case

/-!
# Lower case

Full Unicode lower-casing of a text.  Every character is mapped on its own, with two
exceptions: the dotted capital I becomes two characters, and a capital sigma becomes the
final form when it ends a word.
-/

namespace DetachedTasks.Text

/-- The mapping of one character through a run, if the run covers it. -/
def Table.LowerRun.lowered?
    (run : Table.LowerRun)
    (code : Nat) : Option Nat :=
  if run.first ≤ code && code ≤ run.last && (code - run.first) % run.stride == 0 then
    some (code + run.shift).toNat
  else
    none

/-- The simple lower-case form of a character. -/
def lowerChar (character : Char) : Char :=
  if character.toNat < 0x80 then
    character.toLower
  else
    match Table.lowerRuns.findSome? (·.lowered? character.toNat) with
    | some code => Char.ofNat code
    | none => character

/-- A character that is upper-case, lower-case or title-case. -/
def isCased (character : Char) : Bool :=
  inRanges Table.cased character.toNat

/-- A character that is passed over when the neighbours of a sigma are looked for. -/
def isCaseIgnorable (character : Char) : Bool :=
  inRanges Table.caseIgnorable character.toNat

/-- Whether the first character that is not ignorable is a cased one. -/
def beginsCased (text : Text) : Bool :=
  match text.dropWhile isCaseIgnorable with
  | [] => false
  | character :: _ => isCased character

/-- Lower-case a text; `before` holds what was already read, last character first. -/
def lowercaseFrom
    (before : Text) : Text → Text
  | [] => []
  | character :: rest =>
      let lowered :=
        if character = 'Σ' then
          if beginsCased before && !beginsCased rest then ['ς'] else ['σ']
        else if character = 'İ' then
          ['i', '\u0307']
        else
          [lowerChar character]
      lowered ++ lowercaseFrom (character :: before) rest

/-- The lower-case form of a text. -/
def lowercase (text : Text) : Text :=
  lowercaseFrom [] text

-- A sigma at the end of a word takes its final form, any other sigma does not.
example : lowercase "ΟΔΟΣ ΣΟΣ".toList = "οδος σος".toList := by decide +kernel

end DetachedTasks.Text
