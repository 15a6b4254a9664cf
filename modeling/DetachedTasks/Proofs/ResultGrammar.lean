import DetachedTasks.Proofs.ResultReading
import DetachedTasks.Proofs.TaskQueries
import DetachedTasks.Proofs.TextRuns

/-!
# The grammar of result files

A result file may begin with byte order marks, and blanks may stand around what it says.  What
is left without them decides: nothing, a numeral that is an exit code, or something else.
`ResultText.parseFile_exact` says for every content which of the three a look at the file
answers; the numerals are given by a grammar of their own.
-/

namespace DetachedTasks

namespace Text

/-! ### What surrounds the significant part of a text -/

/-- A text as byte order marks, blanks, a core, and blanks again. -/
structure Framed (text marks before core after : Text) : Prop where
  whole : text = marks ++ before ++ core ++ after
  onlyMarks : ∀ character ∈ marks, character = '\uFEFF'
  blankBefore : ∀ character ∈ before, isBlank character = true
  blankAfter : ∀ character ∈ after, isBlank character = true

/-- A text with neither a blank at its beginning nor one at its end. -/
structure IsTrimmed (text : Text) : Prop where
  first : ∀ character, text.head? = some character → isBlank character = false
  last : ∀ character, text.getLast? = some character → isBlank character = false

/-- What is left of a text without the whole run of byte order marks that it begins with, and
without the blanks on both sides of the rest. -/
def Leaves (text core : Text) : Prop :=
  ∃ marks before after,
    Framed text marks before core after ∧
      (before ++ core).head? ≠ some '\uFEFF' ∧ IsTrimmed core

/-- A text of byte order marks with nothing but blanks behind them. -/
def IsVoid (text : Text) : Prop :=
  ∃ marks blanks, Framed text marks blanks [] []

theorem isBlank_mark : isBlank '\uFEFF' = false := by decide

/-- Dropping the marks stops at blanks and at a core that does not begin with a mark. -/
theorem withoutMarks_of_framed
    {text marks before core after : Text}
    (framed : Framed text marks before core after)
    (noMark : (before ++ core).head? ≠ some '\uFEFF') :
    withoutMarks text = before ++ core ++ after := by
  have isMark : ∀ character ∈ marks, (character == '\uFEFF') = true :=
    fun character member => beq_iff_eq.mpr (framed.onlyMarks character member)
  rw [withoutMarks, framed.whole, List.append_assoc, List.append_assoc,
    ← List.append_assoc before, dropWhile_run isMark]
  intro character first
  rw [beq_eq_false_iff_ne]
  rintro rfl
  rw [List.head?_append, Option.or_eq_some_iff] at first
  rcases first with inside | ⟨_, behind⟩
  · exact noMark inside
  · have blank := framed.blankAfter _ (List.mem_of_head? behind)
    rw [isBlank_mark] at blank
    cases blank

/-- Trimming takes the blanks on both sides of a trimmed text, and nothing of it. -/
theorem trim_surrounded
    {before core after : Text}
    (blankBefore : ∀ character ∈ before, isBlank character = true)
    (trimmed : IsTrimmed core)
    (blankAfter : ∀ character ∈ after, isBlank character = true) :
    trim (before ++ core ++ after) = core := by
  rw [trim, List.append_assoc, List.dropWhile_append_of_pos blankBefore]
  cases core with
  | nil =>
      rw [List.nil_append, List.dropWhile_eq_nil_iff.mpr blankAfter]
      rfl
  | cons first rest =>
      have stops : ∀ character, (first :: rest ++ after).head? = some character →
          isBlank character = false := fun character same => trimmed.first character same
      rw [dropWhile_eq_self stops]
      exact dropEndWhile_run trimmed.last blankAfter

/-- Every text is what trimming leaves of it, with blanks on both sides. -/
theorem exists_surrounded (text : Text) :
    ∃ before after,
      text = before ++ trim text ++ after ∧
        (∀ character ∈ before, isBlank character = true) ∧
          (∀ character ∈ after, isBlank character = true) ∧ IsTrimmed (trim text) := by
  have front := List.takeWhile_append_dropWhile (p := isBlank) (l := text)
  have back := dropEndWhile_append isBlank (text.dropWhile isBlank)
  refine ⟨text.takeWhile isBlank,
    ((text.dropWhile isBlank).reverse.takeWhile isBlank).reverse, ?_, ?_, ?_, ?_, ?_⟩
  · rw [List.append_assoc, trim, back, front]
  · intro character member
    exact List.mem_takeWhile_imp member
  · intro character member
    exact List.mem_takeWhile_imp (List.mem_reverse.mp member)
  · intro character first
    have firstOfRest : (text.dropWhile isBlank).head? = some character := by
      rw [← back, List.head?_append]
      rw [trim] at first
      rw [first]
      rfl
    exact head?_dropWhile_eq_false firstOfRest
  · intro character last
    exact getLast?_dropEndWhile_eq_false last

/-- What a text leaves is what trimming finds behind the marks. -/
theorem leaves_iff
    {text core : Text} :
    Leaves text core ↔ trim (withoutMarks text) = core := by
  constructor
  · rintro ⟨marks, before, after, framed, noMark, trimmed⟩
    rw [withoutMarks_of_framed framed noMark,
      trim_surrounded framed.blankBefore trimmed framed.blankAfter]
  · rintro rfl
    obtain ⟨before, after, whole, blankBefore, blankAfter, trimmed⟩ :=
      exists_surrounded (withoutMarks text)
    refine ⟨text.takeWhile (· == '\uFEFF'), before, after,
      ⟨?_, ?_, blankBefore, blankAfter⟩, ?_, trimmed⟩
    · rw [List.append_assoc, List.append_assoc, ← List.append_assoc before, ← whole]
      exact List.takeWhile_append_dropWhile.symm
    · intro character member
      have isMark := List.mem_takeWhile_imp member
      exact beq_iff_eq.mp isMark
    · intro first
      have firstOfWhole : (withoutMarks text).head? = some '\uFEFF' := by
        rw [whole, List.head?_append, first]
        rfl
      have notMark := head?_dropWhile_eq_false firstOfWhole
      cases notMark

/-- A void text is one that leaves nothing. -/
theorem isVoid_iff
    {text : Text} :
    IsVoid text ↔ Leaves text [] := by
  constructor
  · rintro ⟨marks, blanks, framed⟩
    refine ⟨marks, blanks, [], framed, ?_, ⟨?_, ?_⟩⟩
    · intro first
      rw [List.append_nil] at first
      have blank := framed.blankBefore _ (List.mem_of_head? first)
      rw [isBlank_mark] at blank
      cases blank
    · intro character none
      cases none
    · intro character none
      cases none
  · rintro ⟨marks, before, after, framed, -, -⟩
    refine ⟨marks, before ++ after, ?_, framed.onlyMarks, ?_, ?_⟩
    · simpa using framed.whole
    · intro character member
      rcases List.mem_append.mp member with isBefore | isAfter
      · exact framed.blankBefore character isBefore
      · exact framed.blankAfter character isAfter
    · intro character none
      cases none

/-! ### Numerals -/

/-- The number that a run of decimal digits stands for. -/
def decimalValue (digits : Text) : Nat :=
  digits.foldl (fun value digit => 10 * value + (digit.toNat - '0'.toNat)) 0

/-- At least one ASCII digit, and nothing else. -/
structure IsDecimal (digits : Text) : Prop where
  notEmpty : digits ≠ []
  onlyDigits : ∀ character ∈ digits, character.isDigit = true

/-- How an integer may be written: digits, as many zeros among them in front as one likes, and
a sign before them or none. -/
inductive Numeral : Text → Int → Prop where
  | plain {digits : Text} (decimal : IsDecimal digits) :
      Numeral digits (decimalValue digits)
  | positive {digits : Text} (decimal : IsDecimal digits) :
      Numeral ('+' :: digits) (decimalValue digits)
  | negative {digits : Text} (decimal : IsDecimal digits) :
      Numeral ('-' :: digits) (-(decimalValue digits : Int))

/-- A text that holds the numeral of a number, behind byte order marks and between blanks. -/
def Denotes (text : Text) (number : Int) : Prop :=
  ∃ marks before numeral after,
    Framed text marks before numeral after ∧ Numeral numeral number

theorem isDigit_iff
    {character : Char} :
    character.isDigit = true ↔ 0x30 ≤ character.toNat ∧ character.toNat ≤ 0x39 := by
  simp only [Char.isDigit, Bool.and_eq_true, decide_eq_true_eq, ge_iff_le,
    UInt32.le_iff_toNat_le]
  rfl

/-- A digit is neither a blank nor a mark. -/
theorem isSolid_of_isDigit
    {character : Char}
    (digit : character.isDigit = true) :
    isSolid character = true := by
  rw [isDigit_iff] at digit
  have notMark : character ≠ '\uFEFF' := by
    rintro rfl
    exact absurd digit (by decide)
  simp only [isSolid, isBlank, inRanges, blankRanges, List.any_cons, List.any_nil,
    Bool.and_eq_true, Bool.not_eq_true', Bool.or_eq_false_iff, Bool.and_eq_false_iff,
    decide_eq_false_iff_not, bne_iff_ne, and_true]
  exact ⟨by omega, notMark⟩

/-- Exactly the ASCII digits have a value in base ten. -/
theorem digitValue?_eq_some_iff
    {character : Char}
    {digit : Nat} :
    digitValue? 10 character = some digit ↔
      character.isDigit = true ∧ character.toNat - '0'.toNat = digit := by
  have zero : '0'.toNat = 0x30 := rfl
  rw [isDigit_iff, zero, digitValue?]
  simp only [Option.filter_eq_some_iff, Bool.and_eq_true, decide_eq_true_eq]
  split_ifs with isDigit isLower isUpper
  · simp only [Option.some.injEq]
    omega
  · simp only [Option.some.injEq]
    omega
  · simp only [Option.some.injEq]
    omega
  · simp only [false_and, false_iff, not_and]
    exact fun digit => absurd digit isDigit

/-- Digits are read as the number that they stand for, behind what was read before. -/
theorem readDigitsFrom?_eq_some_iff
    {value number : Nat}
    {digits : Text} :
    readDigitsFrom? 10 value digits = some number ↔
      (∀ character ∈ digits, character.isDigit = true) ∧
        digits.foldl (fun value digit => 10 * value + (digit.toNat - '0'.toNat)) value =
          number := by
  induction digits generalizing value with
  | nil => simp [readDigitsFrom?]
  | cons character rest inductionHypothesis =>
      simp only [readDigitsFrom?, Option.bind_eq_bind, Option.bind_eq_some_iff,
        digitValue?_eq_some_iff, inductionHypothesis, List.mem_cons, forall_eq_or_imp,
        List.foldl_cons]
      constructor
      · rintro ⟨digit, ⟨isDigit, rfl⟩, others, total⟩
        rw [Nat.mul_comm value] at total
        exact ⟨⟨isDigit, others⟩, total⟩
      · rintro ⟨⟨isDigit, others⟩, total⟩
        refine ⟨_, ⟨isDigit, rfl⟩, others, ?_⟩
        rw [Nat.mul_comm value]
        exact total

theorem readDigits?_eq_some_iff
    {number : Nat}
    {digits : Text} :
    readDigits? 10 digits = some number ↔
      IsDecimal digits ∧ decimalValue digits = number := by
  cases digits with
  | nil =>
      constructor
      · intro none
        cases none
      · rintro ⟨decimal, -⟩
        exact absurd rfl decimal.notEmpty
  | cons character rest =>
      rw [readDigits?, readDigitsFrom?_eq_some_iff]
      · constructor
        · rintro ⟨onlyDigits, total⟩
          exact ⟨⟨List.cons_ne_nil _ _, onlyDigits⟩, total⟩
        · rintro ⟨decimal, total⟩
          exact ⟨decimal.onlyDigits, total⟩
      · exact List.cons_ne_nil _ _

end Text

namespace ResultText

open Text (Numeral Denotes IsVoid Leaves)

/-- Digits without a sign are read as an integer. -/
theorem magnitude_eq_some_iff
    {digits : Text}
    {number : Int} :
    (do let value ← Text.readDigits? 10 digits; pure (value : Int)) = some number ↔
      Text.IsDecimal digits ∧ (Text.decimalValue digits : Int) = number := by
  simp only [Option.bind_eq_bind, Option.pure_def, Option.bind_eq_some_iff,
    Option.some.injEq, Text.readDigits?_eq_some_iff]
  constructor
  · rintro ⟨value, ⟨decimal, rfl⟩, same⟩
    exact ⟨decimal, same⟩
  · rintro ⟨decimal, same⟩
    exact ⟨_, ⟨decimal, rfl⟩, same⟩

/-- Exactly the numerals are read as integers. -/
theorem integer?_eq_some_iff
    {text : Text}
    {number : Int} :
    integer? text = some number ↔ Numeral text number := by
  constructor
  · intro read
    unfold integer? at read
    split at read
    · rename_i digits
      obtain ⟨value, isValue, rfl⟩ := Option.map_eq_some_iff.mp read
      obtain ⟨decimal, rfl⟩ := magnitude_eq_some_iff.mp isValue
      exact .negative decimal
    · rename_i digits
      obtain ⟨value, isValue, rfl⟩ := Option.map_eq_some_iff.mp read
      obtain ⟨decimal, rfl⟩ := magnitude_eq_some_iff.mp isValue
      exact .positive decimal
    · obtain ⟨value, isValue, rfl⟩ := Option.map_eq_some_iff.mp read
      obtain ⟨decimal, rfl⟩ := magnitude_eq_some_iff.mp isValue
      exact .plain decimal
  · intro numeral
    cases numeral with
    | positive decimal =>
        rw [integer?, magnitude_eq_some_iff.mpr ⟨decimal, rfl⟩]
        rfl
    | negative decimal =>
        rw [integer?, magnitude_eq_some_iff.mpr ⟨decimal, rfl⟩]
        rfl
    | plain decimal =>
        cases text with
        | nil => exact absurd rfl decimal.notEmpty
        | cons first rest =>
            have digit := decimal.onlyDigits first List.mem_cons_self
            rw [integer?_of_isDigit digit, Text.readDigits?_eq_some_iff.mpr ⟨decimal, rfl⟩]
            rfl

/-- Exactly the numerals of integers of 32 bits are exit codes. -/
theorem exitCode?_eq_some_iff
    {text : Text}
    {code : Int32} :
    exitCode? text = some code ↔ Numeral text code.toInt := by
  rw [exitCode?, Option.map_eq_some_iff, ← integer?_eq_some_iff]
  constructor
  · rintro ⟨number, read, rfl⟩
    rw [Option.filter_eq_some_iff] at read
    have fits := read.2
    simp only [inRange, Bool.and_eq_true, decide_eq_true_eq] at fits
    rw [Int32.toInt_ofInt_of_le fits.1 fits.2]
    exact read.1
  · intro read
    exact ⟨code.toInt, Option.filter_eq_some_iff.mpr ⟨read, inRange_toInt code⟩,
      Int32.ofInt_toInt code⟩

/-- A numeral has no blanks and no marks. -/
theorem solid_of_numeral
    {text : Text}
    {number : Int}
    (numeral : Numeral text number) :
    (∀ character ∈ text, Text.isSolid character = true) ∧ text ≠ [] := by
  have plus : Text.isSolid '+' = true := by decide
  have minus : Text.isSolid '-' = true := by decide
  cases numeral with
  | plain decimal =>
      exact ⟨fun character member =>
        Text.isSolid_of_isDigit (decimal.onlyDigits character member), decimal.notEmpty⟩
  | positive decimal =>
      refine ⟨?_, List.cons_ne_nil _ _⟩
      simp only [List.mem_cons, forall_eq_or_imp]
      exact ⟨plus, fun character member =>
        Text.isSolid_of_isDigit (decimal.onlyDigits character member)⟩
  | negative decimal =>
      refine ⟨?_, List.cons_ne_nil _ _⟩
      simp only [List.mem_cons, forall_eq_or_imp]
      exact ⟨minus, fun character member =>
        Text.isSolid_of_isDigit (decimal.onlyDigits character member)⟩

/-- A text denotes a number exactly if it leaves a numeral of it. -/
theorem denotes_iff
    {text : Text}
    {number : Int} :
    Denotes text number ↔ ∃ core, Leaves text core ∧ Numeral core number := by
  constructor
  · rintro ⟨marks, before, numeral, after, framed, isNumeral⟩
    obtain ⟨solid, notEmpty⟩ := solid_of_numeral isNumeral
    have parts : ∀ character ∈ numeral,
        Text.isBlank character = false ∧ character ≠ '\uFEFF' := by
      intro character member
      have isSolid := solid character member
      simpa [Text.isSolid] using isSolid
    refine ⟨numeral, ⟨marks, before, after, framed, ?_, ⟨?_, ?_⟩⟩, isNumeral⟩
    · intro first
      rcases List.mem_append.mp (List.mem_of_head? first) with isBefore | isInside
      · have blank := framed.blankBefore _ isBefore
        rw [Text.isBlank_mark] at blank
        cases blank
      · exact (parts _ isInside).2 rfl
    · exact fun character first => (parts character (List.mem_of_head? first)).1
    · exact fun character last => (parts character (List.mem_of_getLast? last)).1
  · rintro ⟨core, ⟨marks, before, after, framed, -, -⟩, isNumeral⟩
    exact ⟨marks, before, core, after, framed, isNumeral⟩

/-! ### What a look at the file answers -/

/-- What a look at a result file has read: an exit code, or nothing yet.  What is neither is
reported with the file and with what the content leaves. -/
def parseFile
    (file : Path)
    (content : Bytes) : Except TaskFault (Option Int32) :=
  (parse content).mapError (.corruptResult file)

/-- The status that a result stands for. -/
def statusFrom : Option Int32 → Status
  | none => .running
  | some code => .complete code

/-- A look at a result file ends with what it has read. -/
theorem readStatus_eq
    (file : Path)
    (content : Bytes) :
    readStatus file content = (do
      let result ← (ExceptT.mk (pure (parseFile file content)) : TaskProgram (Option Int32))
      TaskProgram.note .debug
      pure (statusFrom result)) := by
  rw [readStatus, parseFile]
  cases parse content with
  | error text => rfl
  | ok result =>
      cases result with
      | none => rfl
      | some code => rfl

/-- The three ways in which a content is read, each under exactly its own condition. -/
theorem parse_exact (content : Bytes) :
    (parse content = .ok none ↔ IsVoid (Utf8.decodeLossy content)) ∧
      (∀ code : Int32,
        parse content = .ok (some code) ↔
          Denotes (Utf8.decodeLossy content) code.toInt) ∧
      ∀ core,
        parse content = .error core ↔
          Leaves (Utf8.decodeLossy content) core ∧ core ≠ [] ∧
            ∀ code : Int32, ¬ Numeral core code.toInt := by
  have leaves : ∀ core, Leaves (Utf8.decodeLossy content) core ↔ significant content = core :=
    fun core => Text.leaves_iff
  simp only [Text.isVoid_iff, denotes_iff, leaves, ← exitCode?_eq_some_iff]
  rw [parse]
  generalize significant content = text
  by_cases nothing : text = []
  · subst nothing
    have noCode : ∀ code, exitCode? [] ≠ some code := by
      intro code found
      cases found
    refine ⟨by simp, fun code => ?_, fun core => ?_⟩
    · simp only [List.isEmpty_nil, if_true, Except.ok.injEq, reduceCtorEq, false_iff]
      rintro ⟨core, rfl, found⟩
      exact noCode code found
    · simp only [List.isEmpty_nil, if_true, reduceCtorEq, false_iff]
      rintro ⟨rfl, notEmpty, -⟩
      exact notEmpty rfl
  · cases read : exitCode? text with
    | some code =>
        simp [nothing, read]
    | none =>
        simp [nothing, read]

/-- A content of byte order marks and blanks is no result yet; a numeral between them that is
in the range of 32 bits with a sign is the exit code; and whatever else is left is reported
as it is, together with the file.  This is what a look at the file ends with. -/
theorem parseFile_exact
    (file : Path)
    (content : Bytes) :
    (parseFile file content = .ok none ↔ IsVoid (Utf8.decodeLossy content)) ∧
      (∀ number : Int,
        (∃ code : Int32,
            code.toInt = number ∧ parseFile file content = .ok (some code)) ↔
          Denotes (Utf8.decodeLossy content) number ∧
            -2 ^ 31 ≤ number ∧ number ≤ 2 ^ 31 - 1) ∧
      (¬ IsVoid (Utf8.decodeLossy content) →
        (∀ number, Denotes (Utf8.decodeLossy content) number →
          ¬ (-2 ^ 31 ≤ number ∧ number ≤ 2 ^ 31 - 1)) →
        ∃ core,
          Leaves (Utf8.decodeLossy content) core ∧ core ≠ [] ∧
            parseFile file content = .error (.corruptResult file core)) ∧
      readStatus file content = (do
        let result ← (ExceptT.mk (pure (parseFile file content)) : TaskProgram (Option Int32))
        TaskProgram.note .debug
        pure (statusFrom result)) := by
  obtain ⟨void, exitCode, corrupt⟩ := parse_exact content
  have sameCode : ∀ result,
      parseFile file content = .ok result ↔ parse content = .ok result := by
    intro result
    rw [parseFile]
    cases parse content with
    | error text => simp [Except.mapError]
    | ok other => simp [Except.mapError]
  refine ⟨by rw [sameCode, void], ?_, ?_, readStatus_eq file content⟩
  · intro number
    simp only [sameCode, exitCode]
    constructor
    · rintro ⟨code, rfl, denotes⟩
      have low := code.minValue_le_toInt
      have high := code.toInt_lt
      exact ⟨denotes, low, by omega⟩
    · rintro ⟨denotes, low, high⟩
      have back := Int32.toInt_ofInt_of_le low (by omega)
      exact ⟨Int32.ofInt number, back, back.symm ▸ denotes⟩
  · intro notVoid outOfRange
    cases parsed : parse content with
    | ok result =>
        cases result with
        | none => exact absurd (void.mp parsed) notVoid
        | some code =>
            have low := code.minValue_le_toInt
            have high := code.toInt_lt
            exact absurd ⟨low, by omega⟩ (outOfRange _ ((exitCode code).mp parsed))
    | error core =>
        obtain ⟨leaves, notEmpty, -⟩ := (corrupt core).mp parsed
        refine ⟨core, leaves, notEmpty, ?_⟩
        rw [parseFile, parsed]
        rfl

end ResultText

end DetachedTasks
