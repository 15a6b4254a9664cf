/-!
# Text and bytes

Text is a list of Unicode scalar values and a file's content is a list of octets.  The
operations here look at text from its two ends: the characters that count as blank,
trimming, splitting and joining.
-/

namespace DetachedTasks

/-- Text, as the sequence of its Unicode scalar values. -/
abbrev Text := List Char

/-- Raw content, as the sequence of its octets. -/
abbrev Bytes := List UInt8

/-- Membership of a number in a list of ranges with both ends included. -/
def inRanges
    (ranges : List (Nat × Nat))
    (code : Nat) : Bool :=
  ranges.any fun range => range.1 ≤ code && code ≤ range.2

namespace Text

/-- The code points of the Unicode property `White_Space`. -/
def blankRanges : List (Nat × Nat) :=
  [(0x9, 0xD), (0x20, 0x20), (0x85, 0x85), (0xA0, 0xA0), (0x1680, 0x1680),
   (0x2000, 0x200A), (0x2028, 0x2029), (0x202F, 0x202F), (0x205F, 0x205F),
   (0x3000, 0x3000)]

/-- A character with the Unicode property `White_Space`. -/
def isBlank (character : Char) : Bool :=
  inRanges blankRanges character.toNat

/-- Drop the longest run of matching elements at the end. -/
def dropEndWhile
    (test : α → Bool)
    (items : List α) : List α :=
  (items.reverse.dropWhile test).reverse

/-- What `dropEndWhile` keeps is followed only by elements that match. -/
theorem dropEndWhile_append
    (test : α → Bool)
    (items : List α) :
    dropEndWhile test items ++ (items.reverse.takeWhile test).reverse = items := by
  rw [dropEndWhile, ← List.reverse_append, List.takeWhile_append_dropWhile,
    List.reverse_reverse]

/-- Text without the blank characters at its two ends. -/
def trim (text : Text) : Text :=
  dropEndWhile isBlank (text.dropWhile isBlank)

/-- The part behind `start`, if the list begins with it. -/
def afterPrefix?
    [DecidableEq α] :
    List α → List α → Option (List α)
  | [], items => some items
  | _ :: _, [] => none
  | first :: start, item :: items =>
      if first = item then afterPrefix? start items else none

/-- `afterPrefix?` finds exactly the lists that begin with the prefix. -/
theorem afterPrefix?_eq_some_iff
    [DecidableEq α]
    {start items rest : List α} :
    afterPrefix? start items = some rest ↔ items = start ++ rest := by
  induction start generalizing items with
  | nil => simp [afterPrefix?, eq_comm]
  | cons first start inductionHypothesis =>
      cases items with
      | nil => simp [afterPrefix?]
      | cons item items =>
          by_cases same : first = item
          · simp [afterPrefix?, same, inductionHypothesis]
          · simp [afterPrefix?, same, Ne.symm same]

/-- Cut a list at every occurrence of a separator; there is always at least one piece. -/
def splitOn
    [DecidableEq α]
    (separator : α) : List α → List (List α)
  | [] => [[]]
  | item :: items =>
      if item = separator then
        [] :: splitOn separator items
      else
        match splitOn separator items with
        | [] => [[item]]
        | piece :: pieces => (item :: piece) :: pieces

/-- A split has at least one piece. -/
theorem splitOn_ne_nil
    [DecidableEq α]
    (separator : α)
    (items : List α) :
    splitOn separator items ≠ [] := by
  cases items with
  | nil => simp [splitOn]
  | cons item items =>
      simp only [splitOn]
      split
      · simp
      · split <;> simp

/-- The pieces written one after another with the separator between them. -/
def joinWith
    (separator : List α) : List (List α) → List α
  | [] => []
  | [piece] => piece
  | piece :: pieces => piece ++ separator ++ joinWith separator pieces

/-- Joining the pieces of a split gives the list back. -/
theorem joinWith_splitOn
    [DecidableEq α]
    (separator : α)
    (items : List α) :
    joinWith [separator] (splitOn separator items) = items := by
  induction items with
  | nil => rfl
  | cons item items inductionHypothesis =>
      have notEmpty := splitOn_ne_nil separator items
      simp only [splitOn]
      cases pieces : splitOn separator items with
      | nil => exact absurd pieces notEmpty
      | cons piece others =>
          rw [pieces] at inductionHypothesis
          by_cases same : item = separator
          · simp [same, joinWith, inductionHypothesis]
          · cases others with
            | nil => simpa [same, joinWith] using inductionHypothesis
            | cons second others =>
                simpa [same, joinWith] using inductionHypothesis

/-- What comes before the end of a list is its last element, and only before an empty list
what came before that. -/
theorem getLast?_or_cons
    (item : α)
    (items : List α)
    (before : Option α) :
    items.getLast?.or (some item) = (item :: items).getLast?.or before := by
  rw [List.getLast?_cons]
  cases items.getLast? <;> rfl

/-- Replace every occurrence of one character by a text. -/
def replaceChar
    (target : Char)
    (replacement : Text)
    (text : Text) : Text :=
  text.flatMap fun character =>
    if character = target then replacement else [character]

/-- A natural number in decimal. -/
def natural (number : Nat) : Text :=
  Nat.toDigits 10 number

/-- An integer in decimal, with a minus sign in front if it is negative. -/
def integer : Int → Text
  | .ofNat number => natural number
  | .negSucc number => '-' :: natural (number + 1)

/-- The digit that a character stands for in a base of at most sixteen. -/
def digitValue?
    (base : Nat)
    (character : Char) : Option Nat :=
  let code := character.toNat
  let value? :=
    if 0x30 ≤ code && code ≤ 0x39 then some (code - 0x30)
    else if 0x61 ≤ code && code ≤ 0x66 then some (code - 0x61 + 10)
    else if 0x41 ≤ code && code ≤ 0x46 then some (code - 0x41 + 10)
    else none
  value?.filter (· < base)

/-- Read a run of digits, most significant first, behind an already read value. -/
def readDigitsFrom?
    (base : Nat)
    (value : Nat) : Text → Option Nat
  | [] => some value
  | character :: rest => do
      let digit ← digitValue? base character
      readDigitsFrom? base (value * base + digit) rest

/-- Read a non-empty run of digits in the given base. -/
def readDigits?
    (base : Nat) : Text → Option Nat
  | [] => none
  | text => readDigitsFrom? base 0 text

end Text

end DetachedTasks
