import DetachedTasks.Script.Text
import DetachedTasks.Proofs.Utf8RoundTrip

/-!
# Reading generated scripts

A generated script is read from left to right.  Outside of single quotes it falls into words
between blanks, and a semicolon is a word of its own.  A single quote opens a fragment that
goes on to the next single quote, and in a fragment a backtick before a dollar sign is taken
away.  A generated script is read as it was meant as long as no path in it holds a single
quote.  Line ends are mended in the whole of a wrapper, its path included.
-/

namespace DetachedTasks.Script

/-! ## The reader -/

/-- What a piece of a script is read as. -/
inductive Token where
  | word (text : Text)
  /-- What stood between single quotes, as a path. -/
  | fragment (path : Path)
  deriving Repr, DecidableEq

/-- What was begun and is not complete. -/
inductive Pending where
  | outside (word : Text)
  | inside (raw : Text)
  deriving Repr, DecidableEq

/-- How far a script was read. -/
structure Reading where
  tokens : List Token
  pending : Pending
  deriving Repr, DecidableEq

/-- The text that a fragment stands for. -/
def unescape : Text → Text
  | [] => []
  | '\x60' :: '$' :: rest => '$' :: unescape rest
  | character :: rest => character :: unescape rest

/-- A word, unless nothing was begun. -/
def closed (word : Text) : List Token :=
  if word.isEmpty then [] else [.word word]

/-- Read one more character. -/
def Reading.advance
    (reading : Reading)
    (character : Char) : Reading :=
  match reading.pending with
  | .outside word =>
      if character = '\'' then
        ⟨reading.tokens ++ closed word, .inside []⟩
      else if Text.isBlank character then
        ⟨reading.tokens ++ closed word, .outside []⟩
      else if character = ';' then
        ⟨reading.tokens ++ (closed word ++ [Token.word [character]]), .outside []⟩
      else
        ⟨reading.tokens, .outside (word ++ [character])⟩
  | .inside raw =>
      if character = '\'' then
        ⟨reading.tokens ++ [Token.fragment (Path.ofText (unescape raw))], .outside []⟩
      else
        ⟨reading.tokens, .inside (raw ++ [character])⟩

/-- All that was read, unless a fragment is still open. -/
def Reading.tokens? : Reading → Option (List Token)
  | ⟨tokens, .outside word⟩ => some (tokens ++ closed word)
  | ⟨_, .inside _⟩ => none

/-- Read a script. -/
def read? (text : Text) : Option (List Token) :=
  (text.foldl Reading.advance ⟨[], .outside []⟩).tokens?

/-! ## What is read of a piece -/

/-- Whatever was read before, a text adds tokens and leaves something begun. -/
def Reads
    (before : Pending)
    (text : Text)
    (tokens : List Token)
    (after : Pending) : Prop :=
  ∀ read, text.foldl Reading.advance ⟨read, before⟩ = ⟨read ++ tokens, after⟩

/-- What was read before has no part in what a character does. -/
theorem advance_append
    (read tokens : List Token)
    (pending : Pending)
    (character : Char) :
    Reading.advance ⟨read ++ tokens, pending⟩ character =
      ⟨read ++ (Reading.advance ⟨tokens, pending⟩ character).tokens,
        (Reading.advance ⟨tokens, pending⟩ character).pending⟩ := by
  cases pending with
  | outside word =>
      simp only [Reading.advance]
      split_ifs <;> simp
  | inside raw =>
      simp only [Reading.advance]
      split_ifs <;> simp

/-- A text is read alike behind whatever was read before. -/
theorem foldl_advance_append
    (text : Text)
    (read tokens : List Token)
    (pending : Pending) :
    text.foldl Reading.advance ⟨read ++ tokens, pending⟩ =
      ⟨read ++ (text.foldl Reading.advance ⟨tokens, pending⟩).tokens,
        (text.foldl Reading.advance ⟨tokens, pending⟩).pending⟩ := by
  induction text generalizing tokens pending with
  | nil => rfl
  | cons character text inductionHypothesis =>
      rw [List.foldl_cons, advance_append, inductionHypothesis, List.foldl_cons]

namespace Reads

variable {before middle after : Pending} {text more : Text} {tokens others : List Token}

/-- What was read before does not matter. -/
theorem of_alone
    (alone : text.foldl Reading.advance ⟨[], before⟩ = ⟨tokens, after⟩) :
    Reads before text tokens after := by
  intro read
  have whole := foldl_advance_append text read [] before
  rwa [alone, List.append_nil] at whole

/-- Texts that are read one after the other are read as one text. -/
theorem append
    (first : Reads before text tokens middle)
    (second : Reads middle more others after) :
    Reads before (text ++ more) (tokens ++ others) after := by
  intro read
  rw [List.foldl_append, first, second, List.append_assoc]

/-- Without a single quote a fragment goes on. -/
theorem inside
    (noQuote : '\'' ∉ text)
    (raw : Text) :
    Reads (.inside raw) text [] (.inside (raw ++ text)) := by
  intro read
  induction text generalizing raw with
  | nil => rw [List.append_nil, List.append_nil]; rfl
  | cons character text inductionHypothesis =>
      rw [List.mem_cons, not_or] at noQuote
      rw [List.foldl_cons, Reading.advance]
      simp only [if_neg (Ne.symm noQuote.1)]
      rw [inductionHypothesis noQuote.2, List.append_assoc, List.singleton_append]

/-- A single quote ends a fragment. -/
theorem close (raw : Text) :
    Reads (.inside raw) ['\''] [.fragment (Path.ofText (unescape raw))] (.outside []) :=
  fun _ => rfl

/-- A text that begins and ends outside of quotes is read to the end. -/
theorem read?_eq
    (reads : Reads (.outside []) text tokens (.outside [])) :
    read? text = some tokens := by
  rw [read?, reads, List.nil_append, Reading.tokens?, closed]
  exact congrArg some (List.append_nil tokens)

end Reads

/-! ## Fragments -/

/-- What is written for a text in a fragment. -/
def escape (text : Text) : Text :=
  Text.replaceChar '$' ['\x60', '$'] text

/-- A path is put between quotes as its escaped text. -/
theorem fragment_ofText (text : Text) :
    (Path.ofText text).fragment = escape text :=
  congrArg escape (Utf8.decodeLossy_encode text)

/-- Only a dollar gets an escape in front of it. -/
theorem escape_cons
    (character : Char)
    (text : Text) :
    escape (character :: text) =
      (if character = '$' then ['\x60', '$'] else [character]) ++ escape text := rfl

theorem escape_append (first second : Text) :
    escape (first ++ second) = escape first ++ escape second :=
  List.flatMap_append

/-- A text without a dollar is its own escaped form. -/
theorem escape_of_plain
    {text : Text}
    (plain : '$' ∉ text) :
    escape text = text := by
  induction text with
  | nil => rfl
  | cons character text inductionHypothesis =>
      rw [List.mem_cons, not_or] at plain
      rw [escape_cons, if_neg (Ne.symm plain.1), inductionHypothesis plain.2]
      rfl

/-- A dollar sign never comes first, so nothing before it is taken for its backtick. -/
theorem unescape_escape (text : Text) :
    unescape (escape text) = text := by
  induction text with
  | nil => rfl
  | cons character text inductionHypothesis =>
      rw [escape_cons]
      by_cases isDollar : character = '$'
      · subst isDollar
        rw [if_pos rfl]
        exact congrArg ('$' :: ·) inductionHypothesis
      · have alone : ∀ rest,
            character = '\x60' → escape text ≠ '$' :: rest := by
          intro rest _ shape
          cases text with
          | nil => cases shape
          | cons next others =>
              rw [escape_cons] at shape
              split at shape
              · cases shape
              · rename_i notDollar
                exact notDollar (List.cons.inj shape).1
        rw [if_neg isDollar, List.singleton_append, unescape.eq_3 _ _ alone,
          inductionHypothesis]

/-- Escaping puts in nothing but backticks. -/
theorem mem_escape
    {character : Char}
    (notBacktick : character ≠ '\x60')
    {text : Text}
    (member : character ∈ escape text) :
    character ∈ text := by
  obtain ⟨source, isSource, stands⟩ := List.mem_flatMap.mp member
  split at stands
  · rename_i isDollar
    rw [List.mem_cons, List.mem_singleton] at stands
    rcases stands with isBacktick | same
    · exact absurd isBacktick notBacktick
    · rwa [same, ← isDollar]
  · rw [List.mem_singleton.mp stands]
    exact isSource

/-- Unescaping puts in nothing. -/
theorem mem_of_mem_unescape
    {character : Char}
    {raw : Text}
    (member : character ∈ unescape raw) :
    character ∈ raw := by
  induction raw using unescape.induct with
  | case1 => exact member
  | case2 rest inductionHypothesis =>
      rw [unescape, List.mem_cons] at member
      rcases member with same | inRest
      · rw [same]
        exact List.mem_cons_of_mem _ List.mem_cons_self
      · exact List.mem_cons_of_mem _ (List.mem_cons_of_mem _ (inductionHypothesis inRest))
  | case3 first rest alone inductionHypothesis =>
      rw [unescape.eq_3 _ _ alone, List.mem_cons] at member
      rcases member with same | inRest
      · rw [same]
        exact List.mem_cons_self
      · exact List.mem_cons_of_mem _ (inductionHypothesis inRest)

/-! ## Nothing but fragments without quotes is read -/

/-- A path that a text without single quotes was written as. -/
def IsQuotable (path : Path) : Prop :=
  ∃ text, path = Path.ofText text ∧ '\'' ∉ text

/-- No fragment that was read or begun holds a single quote. -/
structure Reading.IsHonest (reading : Reading) : Prop where
  tokens : ∀ path, .fragment path ∈ reading.tokens → IsQuotable path
  pending : ∀ raw, reading.pending = .inside raw → '\'' ∉ raw

/-- A word that ends is a word, and not a path. -/
theorem fragment_not_mem_closed
    (path : Path)
    (word : Text) :
    .fragment path ∉ closed word := by
  rw [closed]
  split <;> simp

/-- No character makes a path with a quote in it. -/
theorem Reading.IsHonest.advance
    {reading : Reading}
    (honest : reading.IsHonest)
    (character : Char) :
    (reading.advance character).IsHonest := by
  obtain ⟨tokens, pending⟩ := reading
  have kept : ∀ others : List Token, (∀ path, .fragment path ∉ others) →
      ∀ path, .fragment path ∈ tokens ++ others → IsQuotable path := by
    intro others noFragment path member
    rcases List.mem_append.mp member with before | new
    · exact honest.tokens path before
    · exact absurd new (noFragment path)
  cases pending with
  | outside word =>
      simp only [Reading.advance]
      split_ifs
      · refine ⟨kept _ fun path => fragment_not_mem_closed path word, ?_⟩
        intro raw begun
        cases begun
        exact List.not_mem_nil
      · exact ⟨kept _ fun path => fragment_not_mem_closed path word, nofun⟩
      · refine ⟨kept _ ?_, nofun⟩
        intro path member
        rcases List.mem_append.mp member with inWord | isSemicolon
        · exact fragment_not_mem_closed path word inWord
        · cases List.mem_singleton.mp isSemicolon
      · exact ⟨honest.tokens, nofun⟩
  | inside raw =>
      have noQuote := honest.pending raw rfl
      simp only [Reading.advance]
      split_ifs with isQuote
      · refine ⟨?_, nofun⟩
        intro path member
        rcases List.mem_append.mp member with before | new
        · exact honest.tokens path before
        · cases List.mem_singleton.mp new
          exact ⟨unescape raw, rfl, fun isThere => noQuote (mem_of_mem_unescape isThere)⟩
      · refine ⟨honest.tokens, ?_⟩
        intro longer begun
        cases begun
        rw [List.mem_append, List.mem_singleton, not_or]
        exact ⟨noQuote, Ne.symm isQuote⟩

/-- However a text goes on, no path that was read has a quote in it. -/
theorem Reading.IsHonest.foldl
    {reading : Reading}
    (honest : reading.IsHonest)
    (text : Text) :
    (text.foldl Reading.advance reading).IsHonest := by
  induction text generalizing reading with
  | nil => exact honest
  | cons character text inductionHypothesis =>
      exact inductionHypothesis (honest.advance character)

/-- What is read as a fragment holds no single quote. -/
theorem isQuotable_of_read?
    {text : Text}
    {tokens : List Token}
    (read : read? text = some tokens)
    {path : Path}
    (member : .fragment path ∈ tokens) :
    IsQuotable path := by
  have start : Reading.IsHonest ⟨[], .outside []⟩ := ⟨nofun, nofun⟩
  have honest := start.foldl text
  rw [read?] at read
  generalize text.foldl Reading.advance ⟨[], .outside []⟩ = reading at read honest
  obtain ⟨before, word | raw⟩ := reading
  · cases read
    rcases List.mem_append.mp member with inBefore | inWord
    · exact honest.tokens path inBefore
    · exact absurd inWord (fragment_not_mem_closed path word)
  · cases read

/-! ## Filled templates -/

/-- A path between single quotes, behind what leads to it. -/
def quoted
    (lead : Text)
    (path : Path) : Text :=
  lead ++ '\'' :: (path.fragment ++ ['\''])

/-- A path without a quote in it is read back from between quotes as it was. -/
theorem Reads.quoted
    {lead : Text}
    {words : List Token}
    {path : Path}
    (quotable : IsQuotable path)
    (reads : lead.foldl Reading.advance ⟨[], .outside []⟩ = ⟨words, .outside []⟩) :
    Reads (.outside []) (quoted lead path) (words ++ [Token.fragment path]) (.outside []) := by
  obtain ⟨text, rfl, noQuote⟩ := quotable
  have absent : '\'' ∉ escape text :=
    fun member => noQuote (mem_escape (by decide) member)
  have opens : Reads (.outside []) ['\''] [] (.inside []) := .of_alone rfl
  have closes := (Reads.inside absent []).append (Reads.close _)
  rw [List.nil_append, List.nil_append, unescape_escape] at closes
  rw [Script.quoted, fragment_ofText]
  exact (Reads.of_alone reads).append (opens.append closes)

/-- The pieces of a template in which every placeholder stands between single quotes: what
leads to each of them with its name, and what follows the last one. -/
def quotedSegments
    (places : List (Text × Text))
    (ending : Text) : List Segment :=
  places.flatMap (fun place =>
    place.1.map Segment.literal
      ++ [Segment.literal '\'', Segment.placeholder place.2, Segment.literal '\''])
    ++ ending.map Segment.literal

/-- Characters that stand for themselves are filled in as they are. -/
theorem flatMap_literal
    (bindings : Bindings)
    (text : Text) :
    (text.map Segment.literal).flatMap (Template.fillSegment bindings) = text := by
  rw [List.flatMap_map]
  exact List.flatMap_singleton' text

/-- A template in which every place stands between quotes is filled place by place. -/
theorem fill_eq
    {source : Text}
    {places : List (Text × Text)}
    {ending : Text}
    (shape : Template.segments source = quotedSegments places ending)
    (bindings : Bindings) :
    Template.fill source bindings =
      places.flatMap (fun place =>
        place.1 ++ '\'' :: ((Template.value? bindings place.2).getD [] ++ ['\'']))
        ++ ending := by
  rw [Template.fill, shape, quotedSegments, List.flatMap_append, flatMap_literal,
    List.flatMap_assoc]
  congr 2
  funext place
  rw [List.flatMap_append, flatMap_literal]
  rfl

/-- The command of a task whose output is not captured. -/
theorem command_eq
    {paths : CommandPaths}
    (plain : paths.output = none) :
    command paths =
      quoted ". ".toList paths.helper
        ++ (quoted "; Execute-AndWriteOutput -MainScript ".toList paths.wrapper
        ++ (quoted " -LogFile ".toList paths.log
        ++ (quoted " -ResultFile ".toList paths.result ++ ";".toList))) := by
  have shape : Template.segments commandTemplate =
      quotedSegments
        [(". ".toList, "helper".toList),
         ("; Execute-AndWriteOutput -MainScript ".toList, "wrapper".toList),
         (" -LogFile ".toList, "log".toList),
         (" -ResultFile ".toList, "result".toList)] ";".toList := by
    decide +kernel
  rw [command_eq_fill, CommandPaths.template, plain, Option.isSome_none,
    if_neg Bool.false_ne_true, fill_eq shape]
  simp only [List.flatMap_cons, List.flatMap_nil, List.append_nil, List.append_assoc]
  rfl

/-- The command of a task whose output is captured. -/
theorem command_eq_capturing
    {paths : CommandPaths}
    {output : Path}
    (capturing : paths.output = some output) :
    command paths =
      quoted ". ".toList paths.helper
        ++ (quoted "; Execute-AndWriteOutput -MainScript ".toList paths.wrapper
        ++ (quoted " -OutputFile ".toList output
        ++ (quoted " -LogFile ".toList paths.log
        ++ (quoted " -ResultFile ".toList paths.result ++ " -CaptureOutput;".toList)))) := by
  have shape : Template.segments capturingCommandTemplate =
      quotedSegments
        [(". ".toList, "helper".toList),
         ("; Execute-AndWriteOutput -MainScript ".toList, "wrapper".toList),
         (" -OutputFile ".toList, "output".toList),
         (" -LogFile ".toList, "log".toList),
         (" -ResultFile ".toList, "result".toList)] " -CaptureOutput;".toList := by
    decide +kernel
  have value : Template.value? paths.bindings "output".toList = some output.fragment := by
    rw [CommandPaths.bindings, capturing]
    rfl
  rw [command_eq_fill, CommandPaths.template, capturing, Option.isSome_some, if_pos rfl,
    fill_eq shape]
  simp only [List.flatMap_cons, List.flatMap_nil, List.append_nil, List.append_assoc, value]
  rfl

/-! ## Commands -/

/-- The words and paths of a command. -/
def CommandPaths.tokens (paths : CommandPaths) : List Token :=
  [Token.word ".".toList, Token.fragment paths.helper, Token.word ";".toList,
    Token.word entryPoint, Token.word "-MainScript".toList, Token.fragment paths.wrapper]
    ++ (match paths.output with
      | some output => [Token.word "-OutputFile".toList, Token.fragment output]
      | none => [])
    ++ [Token.word "-LogFile".toList, Token.fragment paths.log,
      Token.word "-ResultFile".toList, Token.fragment paths.result]
    ++ (if paths.output.isSome then [Token.word "-CaptureOutput".toList] else [])
    ++ [Token.word ";".toList]

/-- The paths of a command can stand between single quotes. -/
structure CommandPaths.AreQuotable (paths : CommandPaths) : Prop where
  helper : IsQuotable paths.helper
  wrapper : IsQuotable paths.wrapper
  log : IsQuotable paths.log
  result : IsQuotable paths.result
  output : ∀ output, paths.output = some output → IsQuotable output

/-- A command is read as it was meant if its paths can stand between single quotes. -/
theorem read_command
    {paths : CommandPaths}
    (quotable : paths.AreQuotable) :
    read? (command paths) = some paths.tokens := by
  have helper : Reads (.outside []) (quoted ". ".toList paths.helper)
      ([Token.word ".".toList] ++ [Token.fragment paths.helper]) (.outside []) :=
    .quoted quotable.helper (by decide +kernel)
  have wrapper : Reads (.outside [])
      (quoted "; Execute-AndWriteOutput -MainScript ".toList paths.wrapper)
      ([Token.word ";".toList, Token.word entryPoint, Token.word "-MainScript".toList]
        ++ [Token.fragment paths.wrapper]) (.outside []) :=
    .quoted quotable.wrapper (by decide +kernel)
  have log : Reads (.outside []) (quoted " -LogFile ".toList paths.log)
      ([Token.word "-LogFile".toList] ++ [Token.fragment paths.log]) (.outside []) :=
    .quoted quotable.log (by decide +kernel)
  have result : Reads (.outside []) (quoted " -ResultFile ".toList paths.result)
      ([Token.word "-ResultFile".toList] ++ [Token.fragment paths.result]) (.outside []) :=
    .quoted quotable.result (by decide +kernel)
  cases found : paths.output with
  | none =>
      have ending : Reads (.outside []) ";".toList [Token.word ";".toList] (.outside []) :=
        .of_alone (by decide +kernel)
      rw [command_eq found, CommandPaths.tokens, found]
      exact (helper.append (wrapper.append (log.append (result.append ending)))).read?_eq
  | some output =>
      have captured : Reads (.outside []) (quoted " -OutputFile ".toList output)
          ([Token.word "-OutputFile".toList] ++ [Token.fragment output]) (.outside []) :=
        .quoted (quotable.output output found) (by decide +kernel)
      have ending : Reads (.outside []) " -CaptureOutput;".toList
          [Token.word "-CaptureOutput".toList, Token.word ";".toList] (.outside []) :=
        .of_alone (by decide +kernel)
      rw [command_eq_capturing found, CommandPaths.tokens, found]
      exact (helper.append (wrapper.append (captured.append
        (log.append (result.append ending))))).read?_eq

/-! ## Line ends -/

/-- A line feed without a carriage return before it. -/
def isBareLineFeed
    (before : Option Char)
    (character : Char) : Bool :=
  character == '\n' && before != some '\r'

/-- Put a carriage return before every line feed that has none. -/
def mend : Option Char → Text → Text
  | _, [] => []
  | before, character :: rest =>
      (if isBareLineFeed before character then ['\r', character] else [character])
        ++ mend (some character) rest

theorem expandLineEnds_cons
    (character : Char)
    (text : Text) :
    Interpreter.expandLineEnds (character :: text) =
      (if character = '\n' then ['\r', '\n'] else [character])
        ++ Interpreter.expandLineEnds text := rfl

/-- To fold all line ends and to expand them again is to mend the bare ones. -/
theorem expand_fold
    {text : Text}
    {before : Option Char}
    (apart : before = some '\r' → text.head? ≠ some '\n') :
    Interpreter.expandLineEnds (Interpreter.foldLineEnds text) = mend before text := by
  induction text using Interpreter.foldLineEnds.induct generalizing before with
  | case1 => rfl
  | case2 rest inductionHypothesis =>
      have behind : Interpreter.expandLineEnds (Interpreter.foldLineEnds rest) =
          mend (some '\n') rest := inductionHypothesis nofun
      rw [Interpreter.foldLineEnds, expandLineEnds_cons, if_pos rfl, behind]
      rfl
  | case3 character rest alone inductionHypothesis =>
      have behind : Interpreter.expandLineEnds (Interpreter.foldLineEnds rest) =
          mend (some character) rest := by
        apply inductionHypothesis
        intro isReturn isFeed
        cases rest with
        | nil => cases isFeed
        | cons next others =>
            cases isFeed
            exact alone others (Option.some.inj isReturn) rfl
      rw [Interpreter.foldLineEnds.eq_3 _ _ alone, expandLineEnds_cons, behind, mend]
      by_cases isFeed : character = '\n'
      · have bare : isBareLineFeed before character = true := by
          rw [isBareLineFeed, Bool.and_eq_true, beq_iff_eq, bne_iff_ne]
          exact ⟨isFeed, fun isReturn => apart isReturn (congrArg some isFeed)⟩
        rw [if_pos isFeed, if_pos bare, isFeed]
      · have notBare : isBareLineFeed before character = false := by
          rw [isBareLineFeed, beq_eq_false_iff_ne.mpr isFeed, Bool.false_and]
        rw [if_neg isFeed, notBare, if_neg Bool.false_ne_true]

/-- A text is mended piece by piece, where each piece has to know what the last one ended
with. -/
theorem mend_append
    (before : Option Char)
    (first second : Text) :
    mend before (first ++ second) =
      mend before first ++ mend (first.getLast?.or before) second := by
  induction first generalizing before with
  | nil => rfl
  | cons character first inductionHypothesis =>
      rw [List.cons_append, mend, mend, inductionHypothesis,
        Text.getLast?_or_cons character first before, List.append_assoc]

/-- Only a carriage return changes what happens to the next character. -/
theorem mend_afresh
    {character : Char}
    (notReturn : character ≠ '\r')
    (text : Text) :
    mend (some character) text = mend none text := by
  have different : (some character != some '\r') = true := by
    rw [bne_iff_ne]
    exact fun same => notReturn (Option.some.inj same)
  cases text with
  | nil => rfl
  | cons next rest => rw [mend, mend, isBareLineFeed, isBareLineFeed, different]; rfl

/-- A single quote keeps the line ends on its two sides apart. -/
theorem mend_quote (first second : Text) :
    mend none (first ++ '\'' :: second) = mend none first ++ '\'' :: mend none second := by
  rw [mend_append, mend, mend_afresh (by decide)]
  rfl

/-- Escapes are no line ends. -/
theorem mend_escape
    (before : Option Char)
    (text : Text) :
    mend before (escape text) =
      escape (mend before text) := by
  induction text generalizing before with
  | nil => rfl
  | cons character text inductionHypothesis =>
      by_cases isDollar : character = '$'
      · subst isDollar
        exact congrArg (['\x60', '$'] ++ ·) (inductionHypothesis (some '$'))
      · have plain : '$' ∉
            (if isBareLineFeed before character then ['\r', character] else [character]) := by
          split
          · simpa using Ne.symm isDollar
          · simpa using Ne.symm isDollar
        rw [escape_cons, if_neg isDollar, List.singleton_append, mend, mend, escape_append,
          escape_of_plain plain, inductionHypothesis]

/-- Mending brings in carriage returns, and no other character. -/
theorem mem_mend
    {before : Option Char}
    {character : Char}
    (notReturn : character ≠ '\r')
    {text : Text}
    (member : character ∈ mend before text) :
    character ∈ text := by
  induction text generalizing before with
  | nil => exact member
  | cons first text inductionHypothesis =>
      rw [mend, List.mem_append] at member
      rcases member with here | behind
      · split at here
        · rw [List.mem_cons, List.mem_singleton] at here
          rcases here with isReturn | same
          · exact absurd isReturn notReturn
          · rw [same]
            exact List.mem_cons_self
        · rw [List.mem_singleton.mp here]
          exact List.mem_cons_self
      · exact List.mem_cons_of_mem _ (inductionHypothesis behind)

/-- Where lines end with a line feed a text stays as it is. -/
theorem withLineEnds_of_lineFeed
    {interpreter : Interpreter}
    (plain : interpreter.lineEnd = .lineFeed)
    (text : Text) :
    interpreter.withLineEnds text = text := by
  rw [Interpreter.withLineEnds, plain]

theorem withLineEnds_of_carriageReturn
    {interpreter : Interpreter}
    (marked : interpreter.lineEnd = .carriageReturnLineFeed)
    (text : Text) :
    interpreter.withLineEnds text = mend none text := by
  rw [Interpreter.withLineEnds, marked]
  exact expand_fold nofun

/-- Other line ends bring in no character but carriage returns. -/
theorem mem_withLineEnds
    {interpreter : Interpreter}
    {character : Char}
    (notReturn : character ≠ '\r')
    {text : Text}
    (member : character ∈ interpreter.withLineEnds text) :
    character ∈ text := by
  cases ends : interpreter.lineEnd with
  | lineFeed => rwa [withLineEnds_of_lineFeed ends] at member
  | carriageReturnLineFeed =>
      rw [withLineEnds_of_carriageReturn ends] at member
      exact mem_mend notReturn member

/-! ## Wrappers -/

/-- The words and the path of a wrapper. -/
def wrapperTokens
    (interpreter : Interpreter)
    (script : Path) : List Token :=
  [Token.word "[CmdletBinding()]".toList, Token.word "param()".toList,
    Token.word interpreter.program]
    ++ interpreter.flags.map Token.word
    ++ [Token.word "-File".toList, Token.fragment script, Token.word ";".toList]

/-- What stands before the path in a wrapper. -/
def wrapperLead (interpreter : Interpreter) : Text :=
  "[CmdletBinding()]\nparam()\n".toList
    ++ (interpreter.program ++ ' ' :: (interpreter.flagsLine ++ " -File ".toList))

/-- What the wrapper template comes to. -/
theorem wrapper_eq
    (interpreter : Interpreter)
    (script : Path) :
    wrapper interpreter script =
      interpreter.withLineEnds
        (quoted (wrapperLead interpreter) script ++ ";\n".toList) := by
  have shape : Template.segments wrapperTemplate =
      "[CmdletBinding()]\nparam()\n".toList.map Segment.literal
        ++ (Segment.placeholder "binary".toList :: Segment.literal ' '
        :: Segment.placeholder "flags".toList :: (" -File '".toList.map Segment.literal
        ++ (Segment.placeholder "script".toList :: "';\n".toList.map Segment.literal))) := by
    decide +kernel
  have filled :
      Template.fill wrapperTemplate (wrapperBindings interpreter script) =
        "[CmdletBinding()]\nparam()\n".toList ++ (interpreter.program
          ++ ' ' :: (interpreter.flagsLine ++ (" -File '".toList
          ++ (script.fragment ++ "';\n".toList)))) := by
    rw [Template.fill, shape]
    simp only [List.flatMap_append, List.flatMap_cons, flatMap_literal]
    rfl
  have regrouped : ∀ lead program flags word path ending : Text,
      lead ++ (program ++ ' ' :: (flags ++ ((word ++ ['\'']) ++ (path ++ '\'' :: ending)))) =
        (lead ++ (program ++ ' ' :: (flags ++ word))) ++ '\'' :: (path ++ ['\''])
          ++ ending := by
    intro lead program flags word path ending
    simp only [List.append_assoc, List.cons_append, List.nil_append]
  rw [wrapper_eq_fill, filled]
  exact congrArg interpreter.withLineEnds
    (regrouped "[CmdletBinding()]\nparam()\n".toList interpreter.program
      interpreter.flagsLine " -File ".toList script.fragment ";\n".toList)

/-- The path in a wrapper gets the line ends of the interpreter. -/
theorem wrapper_ofText
    (interpreter : Interpreter)
    (text : Text) :
    wrapper interpreter (Path.ofText text) =
      quoted (interpreter.withLineEnds (wrapperLead interpreter))
        (Path.ofText (interpreter.withLineEnds text))
        ++ interpreter.withLineEnds ";\n".toList := by
  rw [wrapper_eq]
  cases ends : interpreter.lineEnd with
  | lineFeed =>
      simp only [withLineEnds_of_lineFeed ends]
  | carriageReturnLineFeed =>
      simp only [withLineEnds_of_carriageReturn ends, quoted, fragment_ofText,
        List.append_assoc, List.cons_append, List.nil_append, mend_quote, mend_escape]

/-- A wrapper is read as it was meant, but for the line ends in its path. -/
theorem read_wrapper
    (platform : Platform)
    {text : Text}
    (noQuote : '\'' ∉ text) :
    read? (wrapper platform.interpreter (Path.ofText text)) =
      some (wrapperTokens platform.interpreter
        (Path.ofText (platform.interpreter.withLineEnds text))) := by
  have stillNone : '\'' ∉ platform.interpreter.withLineEnds text :=
    fun member => noQuote (mem_withLineEnds (by decide) member)
  have ending : Reads (.outside []) (platform.interpreter.withLineEnds ";\n".toList)
      [Token.word ";".toList] (.outside []) := by
    cases platform <;> exact .of_alone (by decide +kernel)
  have lead :
      (platform.interpreter.withLineEnds (wrapperLead platform.interpreter)).foldl
          Reading.advance ⟨[], .outside []⟩ =
        ⟨[Token.word "[CmdletBinding()]".toList, Token.word "param()".toList,
          Token.word platform.interpreter.program] ++ platform.interpreter.flags.map Token.word
          ++ [Token.word "-File".toList], .outside []⟩ := by
    cases platform <;> decide +kernel
  have path := Reads.quoted ⟨_, rfl, stillNone⟩ lead
  have whole := (path.append ending).read?_eq
  rw [← wrapper_ofText, List.append_assoc, List.append_assoc] at whole
  exact whole

end DetachedTasks.Script
