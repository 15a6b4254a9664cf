import DetachedTasks.Proofs.DecimalText
import DetachedTasks.Proofs.DistinctKeys
import DetachedTasks.Proofs.TomlStrings

/-!
# Records written in lines

A record is written as one line for each of its fields, and a field holds a text, a truth
value or a number.  Whatever the texts hold, reading the lines gives the table of the fields,
if their keys need no quotes and differ.
-/

namespace DetachedTasks

/-! ### Numbers -/

namespace Text

/-- Every character of a number in decimal is a digit. -/
theorem isDigit_of_mem_natural
    {number : Nat}
    {character : Char}
    (member : character ∈ natural number) :
    character.isDigit = true :=
  Nat.isDigit_of_mem_toDigits (by decide) (by decide) member

/-- Only zero itself begins with the digit zero. -/
theorem natural_head_ne_zero
    {number : Nat}
    (positive : 0 < number)
    (rest : Text) :
    natural number ≠ '0' :: rest := by
  induction number using Nat.strongRecOn generalizing rest with
  | ind number inductionHypothesis =>
      by_cases small : number < 10
      · rw [natural_of_lt small]
        have digits : ∀ value, value < 10 → 0 < value → value.digitChar ≠ '0' := by decide
        intro same
        injection same with impossible _
        exact digits number small positive impossible
      · rw [natural_of_le (Nat.not_lt.mp small)]
        intro same
        cases shape : natural (number / 10) with
        | nil => exact natural_ne_nil _ shape
        | cons first others =>
            rw [shape] at same
            injection same with isZero _
            rw [isZero] at shape
            exact inductionHypothesis (number / 10) (by omega) (by omega) others shape

end Text

namespace Toml

namespace Scalar

theorem withoutUnderscores?_digits
    {digits : Text}
    (notEmpty : digits ≠ [])
    (allDigits : ∀ character ∈ digits, isDigit character = true) :
    withoutUnderscores? isDigit digits = some digits := by
  induction digits with
  | nil => exact absurd rfl notEmpty
  | cons first digits inductionHypothesis =>
      have firstDigit := allDigits first List.mem_cons_self
      cases digits with
      | nil => rw [withoutUnderscores?, if_pos firstDigit]
      | cons second digits =>
          have notMark : second ≠ '_' := by
            intro mark
            have secondDigit := allDigits second (by simp)
            rw [mark] at secondDigit
            exact absurd secondDigit (by decide)
          have restRead := inductionHypothesis (List.cons_ne_nil _ _)
            fun character member => allDigits character (List.mem_cons_of_mem _ member)
          rw [withoutUnderscores?, if_pos firstDigit, restRead]
          · rfl
          · exact List.cons_ne_nil _ _
          · intro rest same
            injection same with mark _
            exact notMark mark

/-- What holds a character other than a digit is no number in decimal. -/
theorem natural_ne_of_mem
    {number : Nat}
    {character : Char}
    {text : Text}
    (member : character ∈ text)
    (noDigit : isDigit character = false) :
    Text.natural number ≠ text := by
  intro same
  rw [← same] at member
  have digit : isDigit character = true := Text.isDigit_of_mem_natural member
  rw [noDigit] at digit
  cases digit

/-- A number in decimal does not begin with a sign. -/
theorem sign_natural (number : Nat) :
    sign (Text.natural number) = (false, Text.natural number) := by
  rw [sign]
  · exact fun _ => natural_ne_of_mem List.mem_cons_self (by decide)
  · exact fun _ => natural_ne_of_mem List.mem_cons_self (by decide)

theorem wholePart?_natural (number : Nat) :
    wholePart? (Text.natural number) = some (Text.natural number) := by
  have noZero : ∀ second rest, Text.natural number ≠ '0' :: second :: rest := by
    intro second rest same
    rcases Nat.eq_zero_or_pos number with zero | positive
    · rw [zero] at same
      injection same with _ same
      cases same
    · exact Text.natural_head_ne_zero positive _ same
  have digits : ∀ character ∈ Text.natural number, isDigit character = true :=
    fun _ member => Text.isDigit_of_mem_natural member
  rw [wholePart?, withoutUnderscores?_digits (Text.natural_ne_nil number) digits]
  simp only [bind, Option.bind]

theorem integer?_natural (number : Nat) :
    integer? (Text.natural number) = some (.integer number) := by
  have noMark : ∀ {mark : Char} {rest : Text}, isDigit mark = false →
      Text.natural number ≠ '0' :: mark :: rest :=
    fun noDigit => natural_ne_of_mem (List.mem_cons_of_mem _ List.mem_cons_self) noDigit
  rw [integer?, sign_natural]
  · simp only [wholePart?_natural, Text.readDigits?_natural, bind, Option.bind,
      Bool.false_eq_true, if_false]
    rfl
  · exact fun _ => noMark (by decide)
  · exact fun _ => noMark (by decide)
  · exact fun _ => noMark (by decide)

/-- A number in decimal is read as the integer it is. -/
theorem value?_natural (number : Nat) :
    value? (Text.natural number) = some (.integer number) := by
  have notTrue : Text.natural number ≠ "true".toList :=
    natural_ne_of_mem List.mem_cons_self (by decide)
  have notFalse : Text.natural number ≠ "false".toList :=
    natural_ne_of_mem List.mem_cons_self (by decide)
  rw [value?, if_neg notTrue, if_neg notFalse, integer?_natural]
  rfl

end Scalar

namespace Reader

theorem value?_string
    (fuel depth : Nat)
    (text rest : Text) :
    value? (fuel + 1) depth (Writer.string text ++ '\n' :: rest) =
      some (.string text, '\n' :: rest) := by
  have read := Writer.string?_string (Writer.ends_lineFeed rest) text
  rcases Writer.string_begins text with ⟨inside, shape⟩ | ⟨inside, shape⟩
  · rw [shape, List.cons_append] at read ⊢
    rw [value?, read]
    rfl
  · rw [shape, List.cons_append] at read ⊢
    rw [value?, read]
    rfl

theorem value?_boolean
    (fuel depth : Nat)
    (flag : Bool)
    (rest : Text) :
    value? (fuel + 1) depth (Writer.boolean flag ++ '\n' :: rest) =
      some (.boolean flag, '\n' :: rest) := by
  cases flag <;> rfl

/-- Digits up to the end of a line are one scalar. -/
theorem run_digits
    {digits : Text}
    (allDigits : ∀ character ∈ digits, character.isDigit = true)
    (rest : Text) :
    Scalar.run (digits ++ '\n' :: rest) = (digits, '\n' :: rest) := by
  have inside : ∀ character ∈ digits, (!Scalar.endsScalar character) = true := by
    intro character member
    have digit := allDigits character member
    rw [Bool.not_eq_true']
    by_contra ends
    simp only [Bool.not_eq_false, Scalar.endsScalar, Bool.or_eq_true, beq_iff_eq] at ends
    rcases ends with ((((((h | h) | h) | h) | h) | h) | h) | h <;>
      exact absurd (h ▸ digit) (by decide)
  rw [Scalar.run, List.takeWhile_append_of_pos inside, List.dropWhile_append_of_pos inside]
  simp [Scalar.endsScalar]

theorem value?_word
    (fuel depth : Nat)
    (number : UInt64)
    (rest : Text) :
    value? (fuel + 1) depth (Writer.word number ++ '\n' :: rest) =
      some (.integer number.toNat, '\n' :: rest) := by
  have digit : ∀ character ∈ Writer.word number, character.isDigit = true :=
    fun character member => Text.isDigit_of_mem_natural member
  cases shape : Writer.word number with
  | nil => exact absurd shape (Text.natural_ne_nil number.toNat)
  | cons first others =>
      have firstDigit := digit first (by rw [shape]; exact List.mem_cons_self)
      have value := Scalar.value?_natural number.toNat
      have run := run_digits digit rest
      rw [shape, List.cons_append] at run
      rw [List.cons_append, value?]
      · rw [run, ← shape, Writer.word]
        simp only [value]
        rfl
      all_goals
        intro more same
        injection same with impossible _
        rw [impossible] at firstDigit
        exact absurd firstDigit (by decide)

/-! ### Lines -/

/-- A key that needs no quotes. -/
structure IsBare (key : Text) : Prop where
  notEmpty : key ≠ []
  bare : ∀ character ∈ key, isBareKey character = true

/-- The characters of a bare key begin nothing but a key. -/
theorem ne_of_isBareKey
    {character other : Char}
    (bare : isBareKey character = true)
    (noKey : isBareKey other = false) :
    character ≠ other := by
  intro same
  rw [same, noKey] at bare
  cases bare

/-- No blanks stand before a bare key. -/
theorem skipSpaces_bare
    {character : Char}
    (bare : isBareKey character = true)
    (rest : Text) :
    skipSpaces (character :: rest) = character :: rest := by
  have noSpace : isSpace character = false := by
    simp only [isSpace, Bool.or_eq_false_iff, beq_eq_false_iff_ne]
    exact ⟨ne_of_isBareKey bare (by decide), ne_of_isBareKey bare (by decide)⟩
  rw [skipSpaces, List.dropWhile_cons_of_neg]
  rw [noSpace]
  decide

/-- No blanks, line ends or comments stand before a bare key. -/
theorem skipAll_bare
    {character : Char}
    (bare : isBareKey character = true)
    (rest : Text) :
    skipAll (character :: rest) = character :: rest := by
  have noLineEnd : lineEnd? (character :: rest) = none := by
    rw [lineEnd?]
    · intro more same
      injection same with impossible _
      exact ne_of_isBareKey bare (by decide) impossible
    · intro more same
      injection same with impossible _
      exact ne_of_isBareKey bare (by decide) impossible
  rw [skipAll, skipFiller, skipSpaces_bare bare]
  split
  · rename_i shape
    injection shape with impossible _
    exact absurd impossible (ne_of_isBareKey bare (by decide))
  · rw [noLineEnd]

/-- A bare key up to the sign behind it. -/
theorem key?_bare
    {key : Text}
    (isBare : IsBare key)
    (behind : Text) :
    key? (key ++ " = ".toList ++ behind) = some ([key], '=' :: ' ' :: behind) := by
  obtain ⟨notEmpty, bare⟩ := isBare
  have taken : (key ++ " = ".toList ++ behind).takeWhile isBareKey = key := by
    rw [List.append_assoc, List.takeWhile_append_of_pos bare]
    exact List.append_nil key
  have dropped :
      (key ++ " = ".toList ++ behind).dropWhile isBareKey = " = ".toList ++ behind := by
    rw [List.append_assoc, List.dropWhile_append_of_pos bare]
    rfl
  cases key with
  | nil => exact absurd rfl notEmpty
  | cons first others =>
      have firstBare := bare first List.mem_cons_self
      have stays :
          skipSpaces (first :: others ++ " = ".toList ++ behind) =
            first :: others ++ " = ".toList ++ behind :=
        skipSpaces_bare firstBare _
      have simple :
          simpleKey? (first :: others ++ " = ".toList ++ behind) =
            some (first :: others, " = ".toList ++ behind) := by
        rw [List.cons_append, List.cons_append] at taken dropped ⊢
        rw [simpleKey?, taken, dropped]
        · intro rest same
          injection same with impossible _
          exact ne_of_isBareKey firstBare (by decide) impossible
        · intro rest same
          injection same with impossible _
          exact ne_of_isBareKey firstBare (by decide) impossible
      rw [key?, dottedKey?, stays, simple]
      rfl

/-- A line with a bare key is read as one pair. -/
theorem entry?_line
    {key written rest : Text}
    {value : Value}
    (isBare : IsBare key)
    (noSpace : skipSpaces (written ++ '\n' :: rest) = written ++ '\n' :: rest)
    (read : ∀ fuel,
      value? (fuel + 1) 0 (written ++ '\n' :: rest) = some (value, '\n' :: rest)) :
    entry? (Writer.line key written ++ rest) = some (([key], value), rest) := by
  have shape :
      Writer.line key written ++ rest =
        key ++ " = ".toList ++ (written ++ '\n' :: rest) := by
    simp [Writer.line]
  have skipped : skipSpaces (' ' :: (written ++ '\n' :: rest)) = written ++ '\n' :: rest :=
    noSpace
  rw [shape, entry?, key?_bare isBare]
  simp only [bind, Option.bind, skipped, read]
  rfl

/-- A line with a bare key adds one pair to the part that is being read. -/
theorem parts?_line
    {key written rest : Text}
    {value : Value}
    (isBare : IsBare key)
    (noSpace : skipSpaces (written ++ '\n' :: rest) = written ++ '\n' :: rest)
    (read : ∀ fuel,
      value? (fuel + 1) 0 (written ++ '\n' :: rest) = some (value, '\n' :: rest))
    (fuel : Nat)
    (current : Part) :
    parts? (fuel + 1) current (Writer.line key written ++ rest) =
      parts? fuel { current with entries := ([key], value) :: current.entries } rest := by
  have entry := entry?_line isBare noSpace read
  cases key with
  | nil => exact absurd rfl isBare.notEmpty
  | cons first others =>
      have firstBare := isBare.bare first List.mem_cons_self
      have shape :
          Writer.line (first :: others) written ++ rest =
            first :: (others ++ " = ".toList ++ written ++ ['\n'] ++ rest) := by
        simp [Writer.line]
      rw [shape] at entry ⊢
      rw [parts?, skipAll_bare firstBare]
      split
      · rename_i impossible
        cases impossible
      · rename_i same
        injection same with impossible _
        exact absurd impossible (ne_of_isBareKey firstBare (by decide))
      · rw [entry]
        rfl

/-- Keys that need no quotes can be told by their characters. -/
theorem isBare_of_mem
    {keys : List Text}
    (checked : keys.all (fun key => !key.isEmpty && key.all isBareKey) = true) :
    ∀ key ∈ keys, IsBare key := by
  intro key member
  have both := List.all_eq_true.mp checked key member
  rw [Bool.and_eq_true, Bool.not_eq_true', List.isEmpty_eq_false_iff] at both
  exact ⟨both.1, List.all_eq_true.mp both.2⟩

end Reader

/-! ### Records -/

/-- What a field of a record holds. -/
inductive Content where
  | text (held : Text)
  | flag (held : Bool)
  | word (held : UInt64)

namespace Content

/-- The written form of what a field holds. -/
def written : Content → Text
  | .text held => Writer.string held
  | .flag held => Writer.boolean held
  | .word held => Writer.word held

/-- The value that is read from the written form. -/
def value : Content → Value
  | .text held => .string held
  | .flag held => .boolean held
  | .word held => .integer held.toNat

/-- No blank stands before a written string, a truth value or a number. -/
theorem skipSpaces_written
    (content : Content)
    (rest : Text) :
    Reader.skipSpaces (content.written ++ rest) = content.written ++ rest := by
  cases content with
  | text held =>
      rcases Writer.string_begins held with ⟨inside, shape⟩ | ⟨inside, shape⟩
      · rw [written, shape]
        rfl
      · rw [written, shape]
        rfl
  | flag held => cases held <;> rfl
  | word held =>
      rw [written]
      cases shape : Writer.word held with
      | nil => exact absurd shape (Text.natural_ne_nil held.toNat)
      | cons first others =>
          have member : first ∈ Text.natural held.toNat := by
            rw [← Writer.word, shape]
            exact List.mem_cons_self
          have digit := Text.isDigit_of_mem_natural member
          rw [Reader.skipSpaces, List.cons_append, List.dropWhile_cons_of_neg]
          intro space
          simp only [Reader.isSpace, Bool.or_eq_true, beq_iff_eq] at space
          rcases space with space | space <;> exact absurd (space ▸ digit) (by decide)

theorem value?_written
    (content : Content)
    (fuel : Nat)
    (rest : Text) :
    Reader.value? (fuel + 1) 0 (content.written ++ '\n' :: rest) =
      some (content.value, '\n' :: rest) := by
  cases content with
  | text held => exact Reader.value?_string fuel 0 held rest
  | flag held => exact Reader.value?_boolean fuel 0 held rest
  | word held => exact Reader.value?_word fuel 0 held rest

end Content

/-- A record whose keys differ and need no quotes. -/
structure Record where
  fields : List (Text × Content)
  bare : ∀ key ∈ fields.map Prod.fst, Reader.IsBare key
  distinct : (fields.map Prod.fst).Nodup

/-- Fields in lines of their own. -/
def linesOf (fields : List (Text × Content)) : Text :=
  fields.flatMap fun field => Writer.line field.1 field.2.written

namespace Record

/-- A record in its written form. -/
def text (record : Record) : Text :=
  linesOf record.fields

/-- The table that is read from the written form. -/
def table (record : Record) : Value :=
  .table (record.fields.map fun field => (field.1, field.2.value))

end Record

/-! ### Reading the lines -/

section Lines

variable {fields : List (Text × Content)}

/-- There are no more lines than characters. -/
theorem length_le_linesOf (fields : List (Text × Content)) :
    fields.length ≤ (linesOf fields).length := by
  induction fields with
  | nil => exact Nat.le_refl _
  | cons field fields inductionHypothesis =>
      have lineEnd : 1 ≤ (Writer.line field.1 field.2.written).length := by
        rw [Writer.line, List.length_append]
        exact Nat.le_add_left _ _
      have whole : (linesOf (field :: fields)).length =
          (Writer.line field.1 field.2.written).length + (linesOf fields).length :=
        List.length_append
      rw [whole, List.length_cons]
      omega

/-- The lines of some fields are read as one part with a pair for each of them. -/
theorem Reader.parts?_linesOf
    (bare : ∀ key ∈ fields.map Prod.fst, IsBare key)
    (fuel : Nat)
    (current : Part) :
    parts? (fuel + fields.length + 1) current (linesOf fields) =
      some [{ current with
        entries := current.entries.reverse ++
          fields.map fun field => ([field.1], field.2.value) }] := by
  induction fields generalizing current with
  | nil =>
      rw [List.map_nil, List.append_nil]
      rfl
  | cons field fields inductionHypothesis =>
      have first : IsBare field.1 := bare field.1 List.mem_cons_self
      have others : ∀ key ∈ fields.map Prod.fst, IsBare key :=
        fun key member => bare key (List.mem_cons_of_mem _ member)
      have shape : linesOf (field :: fields) =
          Writer.line field.1 field.2.written ++ linesOf fields := rfl
      rw [shape, parts?_line first (field.2.skipSpaces_written _)
        fun fuel => field.2.value?_written fuel _, List.length_cons, ← Nat.add_assoc,
        inductionHypothesis others]
      simp

/-- No byte order mark stands before a key that needs no quotes. -/
theorem Reader.dropMark_linesOf
    (bare : ∀ key ∈ fields.map Prod.fst, IsBare key) :
    dropMark (linesOf fields) = linesOf fields := by
  cases fields with
  | nil => rfl
  | cons field fields =>
      obtain ⟨key, content⟩ := field
      obtain ⟨notEmpty, letters⟩ := bare key List.mem_cons_self
      cases key with
      | nil => exact absurd rfl notEmpty
      | cons first others =>
          have shape : ∃ rest, linesOf ((first :: others, content) :: fields) = first :: rest :=
            ⟨_, rfl⟩
          obtain ⟨rest, shape⟩ := shape
          rw [shape, dropMark]
          intro more same
          injection same with isMark _
          exact ne_of_isBareKey (letters first List.mem_cons_self) (by decide) isMark

end Lines

/-! ### Building the table -/

namespace Node

variable {before : List (Text × Node)} {key : Text}

theorem find?_new
    (new : ∀ pair ∈ before, pair.1 ≠ key) :
    find? before key = none := by
  rw [find?, Option.map_eq_none_iff, List.find?_eq_none]
  intro pair member
  simpa using new pair member

/-- A new key goes to the end. -/
theorem replace_new
    (new : ∀ pair ∈ before, pair.1 ≠ key)
    (node : Node) :
    replace key node before = before ++ [(key, node)] := by
  induction before with
  | nil => rfl
  | cons pair before inductionHypothesis =>
      have first := new pair List.mem_cons_self
      have others := inductionHypothesis fun other member =>
        new other (List.mem_cons_of_mem _ member)
      rw [replace, if_neg first, others]
      rfl

theorem addEntry_new
    (new : ∀ pair ∈ before, pair.1 ≠ key)
    (value : Value) :
    addEntry (.table .header before) ([key], value) =
      some (.table .header (before ++ [(key, .closed value)])) := by
  have added : addEntry (.table .header before) ([key], value) =
      addPair false key value (.table .header before) := rfl
  rw [added, addPair, find?_new new, replace_new new]
  rfl

/-- Pairs with new keys that differ are added to a table in their order. -/
theorem addEntries_new
    {fields : List (Text × Content)}
    (distinct : (fields.map Prod.fst).Nodup)
    (new : ∀ key ∈ fields.map Prod.fst, ∀ pair ∈ before, pair.1 ≠ key) :
    addEntries (.table .header before) (fields.map fun field => ([field.1], field.2.value)) =
      some (.table .header
        (before ++ fields.map fun field => (field.1, .closed field.2.value))) := by
  induction fields generalizing before with
  | nil =>
      rw [List.map_nil, List.map_nil, List.append_nil]
      rfl
  | cons field fields inductionHypothesis =>
      rw [List.map_cons, List.nodup_cons] at distinct
      have first := addEntry_new (new field.1 List.mem_cons_self) field.2.value
      have others : ∀ key ∈ fields.map Prod.fst,
          ∀ pair ∈ before ++ [(field.1, Node.closed field.2.value)], pair.1 ≠ key := by
        intro key member pair isThere
        rcases List.mem_append.mp isThere with old | added
        · exact new key (List.mem_cons_of_mem _ member) pair old
        · rw [List.mem_singleton.mp added]
          intro same
          exact distinct.1 (same ▸ member)
      rw [addEntries, List.map_cons, List.foldlM_cons, first]
      have rest := inductionHypothesis distinct.2 others
      rw [addEntries] at rest
      simpa using rest

end Node

/-- Pairs in one part denote the table that they build. -/
theorem document?_fields
    {fields : List (Text × Content)}
    (distinct : (fields.map Prod.fst).Nodup) :
    document? [⟨[], false, fields.map fun field => ([field.1], field.2.value)⟩] =
      some (.table (fields.map fun field => (field.1, field.2.value))) := by
  have built : (Node.table .header []).addEntries
        (fields.map fun field => ([field.1], field.2.value)) =
      some (.table .header ([] ++ fields.map fun field => (field.1, .closed field.2.value))) :=
    Node.addEntries_new distinct fun _ _ _ impossible => absurd impossible List.not_mem_nil
  have added : addPart (.table .header [])
        ⟨[], false, fields.map fun field => ([field.1], field.2.value)⟩ =
      (Node.table .header []).addEntries
        (fields.map fun field => ([field.1], field.2.value)) := rfl
  rw [document?, List.foldlM_cons, added, built, List.nil_append]
  show some (Node.table .header _).value = _
  rw [Node.value, Node.pairValues_eq_map, List.map_map]
  congr 2

/-- Reading a record in its written form gives its table. -/
theorem Record.read?_text (record : Record) :
    read? record.text = some record.table := by
  obtain ⟨fields, bare, distinct⟩ := record
  have short := length_le_linesOf fields
  have enough : (linesOf fields).length + 1 =
      (linesOf fields).length - fields.length + fields.length + 1 := by
    omega
  rw [text, read?, Reader.dropMark_linesOf bare]
  simp only [enough, Reader.parts?_linesOf bare, bind, Option.bind]
  exact document?_fields distinct

end Toml

end DetachedTasks
