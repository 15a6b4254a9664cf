import DetachedTasks.Proofs.TextOrder
import DetachedTasks.Proofs.TextRuns
import DetachedTasks.Script.Template
import Mathlib.Data.List.Find

/-!
# Placeholders where they stand

A template is read from left to right by a function that looks at one character after the
other.  What it finds is told here without it: an occurrence of a placeholder is a stretch of
the text with the right spelling, and the leftmost ones that do not overlap are taken.
`Template.render_fills_leftmost` compares rendering with putting the values in the places of
these occurrences.
-/

namespace DetachedTasks.Template

/-! ### How a placeholder is spelled -/

/-- A letter or an underscore, and letters, digits and underscores behind it; all of them
ASCII. -/
def IsIdentifier (name : Text) : Prop :=
  ∃ first rest, name = first :: rest ∧
    (first.isAlpha = true ∨ first = '_') ∧
    ∀ character ∈ rest, character.isAlphanum = true ∨ character = '_'

/-- The spelling of a placeholder: an identifier between double braces, with blanks on both
sides of it or none. -/
def Spells (spelling name : Text) : Prop :=
  ∃ before after,
    spelling = opening ++ before ++ name ++ after ++ closing ∧
      (∀ character ∈ before, Text.isBlank character = true) ∧
      IsIdentifier name ∧ ∀ character ∈ after, Text.isBlank character = true

theorem isNameStart_iff
    {character : Char} :
    isNameStart character = true ↔ character.isAlpha = true ∨ character = '_' := by
  rw [isNameStart, Bool.or_eq_true, beq_iff_eq]

theorem isNamePart_iff
    {character : Char} :
    isNamePart character = true ↔ character.isAlphanum = true ∨ character = '_' := by
  rw [isNamePart, isNameStart, Char.isAlphanum, Bool.or_eq_true, Bool.or_eq_true,
    Bool.or_eq_true, beq_iff_eq, or_right_comm]

/-- A character of a name is no blank. -/
theorem isBlank_of_isNamePart
    {character : Char}
    (part : isNamePart character = true) :
    Text.isBlank character = false := by
  have codes :
      (0x41 ≤ character.toNat ∧ character.toNat ≤ 0x5A) ∨
        (0x61 ≤ character.toNat ∧ character.toNat ≤ 0x7A) ∨
          (0x30 ≤ character.toNat ∧ character.toNat ≤ 0x39) ∨ character = '_' := by
    rw [isNamePart_iff, Char.isAlphanum] at part
    delta Char.isAlpha Char.isUpper Char.isLower at part
    simp only [Char.isDigit, Bool.or_eq_true, Bool.and_eq_true, decide_eq_true_eq, ge_iff_le,
      UInt32.le_iff_toNat_le, or_assoc] at part
    exact part
  simp only [Text.isBlank, inRanges, Text.blankRanges, List.any_cons, List.any_nil,
    Bool.or_eq_false_iff, Bool.and_eq_false_iff, decide_eq_false_iff_not, and_true]
  rcases codes with upper | lower | digit | underscore
  · omega
  · omega
  · omega
  · subst underscore
    decide

theorem isNamePart_of_isNameStart
    {character : Char}
    (start : isNameStart character = true) :
    isNamePart character = true := by
  rw [isNamePart, start]
  rfl

/-- A name is read up to the first character that is no part of one. -/
theorem name?_eq_some_iff
    {text name behind : Text} :
    name? text = some (name, behind) ↔
      text = name ++ behind ∧ IsIdentifier name ∧
        ∀ character, behind.head? = some character → isNamePart character = false := by
  constructor
  · intro read
    cases text with
    | nil => cases read
    | cons first rest =>
        by_cases starts : isNameStart first = true
        · rw [name?, if_pos starts, Option.some.injEq, Prod.mk.injEq] at read
          obtain ⟨rfl, rfl⟩ := read
          refine ⟨?_, ⟨first, _, rfl, isNameStart_iff.mp starts, ?_⟩, ?_⟩
          · rw [List.cons_append, List.takeWhile_append_dropWhile]
          · exact fun character member => isNamePart_iff.mp (List.mem_takeWhile_imp member)
          · exact fun character first => Text.head?_dropWhile_eq_false first
        · rw [name?, if_neg starts] at read
          cases read
  · rintro ⟨rfl, ⟨first, rest, rfl, starts, parts⟩, stops⟩
    have matching : ∀ character ∈ rest, isNamePart character = true :=
      fun character member => isNamePart_iff.mpr (parts character member)
    rw [List.cons_append, name?, if_pos (isNameStart_iff.mpr starts),
      Text.takeWhile_run matching stops, Text.dropWhile_run matching stops]

/-- A text begins with a placeholder exactly if it begins with the spelling of one. -/
theorem placeholder?_eq_some_iff
    {text name behind : Text} :
    placeholder? text = some (name, behind) ↔
      ∃ spelling, Spells spelling name ∧ text = spelling ++ behind := by
  have shape :
      placeholder? text = some (name, behind) ↔
        ∃ inside rest, text = opening ++ inside ∧
          name? (inside.dropWhile Text.isBlank) = some (name, rest) ∧
          rest.dropWhile Text.isBlank = closing ++ behind := by
    simp only [placeholder?, Option.bind_eq_bind, Option.pure_def, Option.bind_eq_some_iff,
      Text.afterPrefix?_eq_some_iff, Option.some.injEq, Prod.mk.injEq, Prod.exists]
    constructor
    · rintro ⟨inside, isInside, other, rest, isName, behind, isClosed, rfl, rfl⟩
      exact ⟨inside, rest, isInside, isName, isClosed⟩
    · rintro ⟨inside, rest, isInside, isName, isClosed⟩
      exact ⟨inside, isInside, name, rest, isName, behind, isClosed, rfl, rfl⟩
  rw [shape]
  constructor
  · rintro ⟨inside, rest, rfl, isName, isClosed⟩
    obtain ⟨insideName, identifier, -⟩ := name?_eq_some_iff.mp isName
    refine ⟨opening ++ inside.takeWhile Text.isBlank ++ name ++
        rest.takeWhile Text.isBlank ++ closing,
      ⟨_, _, rfl, ?_, identifier, ?_⟩, ?_⟩
    · exact fun character member => List.mem_takeWhile_imp member
    · exact fun character member => List.mem_takeWhile_imp member
    · have front := List.takeWhile_append_dropWhile (p := Text.isBlank) (l := inside)
      have back := List.takeWhile_append_dropWhile (p := Text.isBlank) (l := rest)
      rw [insideName] at front
      rw [isClosed] at back
      simp only [List.append_assoc, back, front]
  · rintro ⟨spelling, ⟨before, after, rfl, blankBefore, identifier, blankAfter⟩, rfl⟩
    refine ⟨before ++ (name ++ (after ++ (closing ++ behind))),
      after ++ (closing ++ behind), by simp only [List.append_assoc], ?_, ?_⟩
    · rw [Text.dropWhile_run blankBefore, name?_eq_some_iff]
      · refine ⟨rfl, identifier, ?_⟩
        intro character first
        by_contra part
        have notBlank := isBlank_of_isNamePart (by simpa using part)
        rw [List.head?_append, Option.or_eq_some_iff] at first
        rcases first with isAfter | ⟨-, isClosing⟩
        · have blank := blankAfter character (List.mem_of_head? isAfter)
          rw [notBlank] at blank
          cases blank
        · cases isClosing
          exact part (by decide)
      · obtain ⟨first, rest, rfl, starts, -⟩ := identifier
        intro character same
        cases same
        exact isBlank_of_isNamePart (isNamePart_of_isNameStart (isNameStart_iff.mpr starts))
    · refine Text.dropWhile_run blankAfter ?_
      intro character first
      cases first
      decide

/-! ### Leftmost occurrences -/

/-- A stretch of a text, from one position up to another one, and the name in it. -/
structure Occurrence where
  start : Nat
  stop : Nat
  name : Text
  deriving Repr, DecidableEq

/-- There is a placeholder in this stretch of the text. -/
def Occurrence.IsIn
    (occurrence : Occurrence)
    (source : Text) : Prop :=
  ∃ front spelling back,
    source = front ++ spelling ++ back ∧ Spells spelling occurrence.name ∧
      occurrence.start = front.length ∧ occurrence.stop = (front ++ spelling).length

/-- The occurrences from a position on, each time the leftmost one behind the one before. -/
inductive Leftmost (source : Text) : Nat → List Occurrence → Prop where
  | none
      {position : Nat}
      (nothing : ∀ other : Occurrence, other.IsIn source → other.start < position) :
      Leftmost source position []
  | next
      {position : Nat}
      {occurrence : Occurrence}
      {others : List Occurrence}
      (stands : occurrence.IsIn source)
      (ahead : position ≤ occurrence.start)
      (first : ∀ other : Occurrence, other.IsIn source → position ≤ other.start →
        occurrence.start ≤ other.start)
      (behind : Leftmost source occurrence.stop others) :
      Leftmost source position (occurrence :: others)

/-- A text from a position on, with values in the places of the occurrences and everything
between them as it is. -/
def filledFrom
    (source : Text)
    (value : Text → Text) : Nat → List Occurrence → Text
  | position, [] => source.drop position
  | position, occurrence :: others =>
      (source.take occurrence.start).drop position ++ value occurrence.name ++
        filledFrom source value occurrence.stop others

theorem Spells.ne_nil
    {spelling name : Text}
    (spells : Spells spelling name) :
    spelling ≠ [] := by
  obtain ⟨before, after, rfl, -⟩ := spells
  exact List.cons_ne_nil _ _

/-- An occurrence is what is read at its first position. -/
theorem Occurrence.isIn_iff
    {occurrence : Occurrence}
    {source : Text} :
    occurrence.IsIn source ↔
      ∃ behind,
        placeholder? (source.drop occurrence.start) = some (occurrence.name, behind) ∧
          occurrence.stop + behind.length = source.length := by
  simp only [placeholder?_eq_some_iff]
  constructor
  · rintro ⟨front, spelling, back, rfl, spells, start, stop⟩
    refine ⟨back, ⟨spelling, spells, ?_⟩, ?_⟩
    · rw [start, List.append_assoc, List.drop_left]
    · rw [stop, ← List.length_append]
  · rintro ⟨behind, ⟨spelling, spells, rest⟩, stop⟩
    have cut := List.take_append_drop occurrence.start source
    have inside : occurrence.start ≤ source.length := by
      by_contra outside
      rw [List.drop_eq_nil_of_le (by omega)] at rest
      exact spells.ne_nil (List.append_eq_nil_iff.mp rest.symm).1
    have start : (source.take occurrence.start).length = occurrence.start := by
      rw [List.length_take, Nat.min_eq_left inside]
    refine ⟨source.take occurrence.start, spelling, behind, ?_, spells, start.symm, ?_⟩
    · rw [List.append_assoc, ← rest, cut]
    · have parts := congrArg List.length cut
      rw [rest, List.length_append, List.length_append] at parts
      rw [List.length_append]
      omega

theorem Occurrence.IsIn.start_lt
    {occurrence : Occurrence}
    {source : Text}
    (stands : occurrence.IsIn source) :
    occurrence.start < source.length := by
  obtain ⟨front, spelling, back, rfl, spells, start, -⟩ := stands
  have something := List.length_pos_iff.mpr spells.ne_nil
  rw [start, List.length_append, List.length_append]
  omega

/-- At one position there is at most one occurrence. -/
theorem Occurrence.IsIn.unique
    {first second : Occurrence}
    {source : Text}
    (firstStands : first.IsIn source)
    (secondStands : second.IsIn source)
    (same : first.start = second.start) :
    first = second := by
  obtain ⟨behind, read, stop⟩ := Occurrence.isIn_iff.mp firstStands
  obtain ⟨otherBehind, otherRead, otherStop⟩ := Occurrence.isIn_iff.mp secondStands
  rw [same, otherRead, Option.some.injEq, Prod.mk.injEq] at read
  obtain ⟨names, rfl⟩ := read
  rcases first with ⟨start, firstStop, name⟩
  rcases second with ⟨otherStart, secondStop, otherName⟩
  simp only at same names stop otherStop
  subst same names
  congr 1
  omega

/-- The leftmost occurrences are determined by the text. -/
theorem Leftmost.unique
    {source : Text}
    {position : Nat}
    {first second : List Occurrence}
    (leftmost : Leftmost source position first)
    (other : Leftmost source position second) :
    first = second := by
  induction leftmost generalizing second with
  | none nothing =>
      cases other with
      | none _ => rfl
      | next stands ahead _ _ => exact absurd (nothing _ stands) (Nat.not_lt.mpr ahead)
  | next stands ahead isFirst _ inductionHypothesis =>
      cases other with
      | none nothing => exact absurd (nothing _ stands) (Nat.not_lt.mpr ahead)
      | next otherStands otherAhead otherFirst otherBehind =>
          have same := Occurrence.IsIn.unique stands otherStands
            (Nat.le_antisymm (isFirst _ otherStands otherAhead)
              (otherFirst _ stands ahead))
          subst same
          rw [inductionHypothesis otherBehind]

/-- Where no occurrence begins, the search goes on one position further. -/
theorem Leftmost.pass
    {source : Text}
    {position : Nat}
    {found : List Occurrence}
    (nothing : ∀ other : Occurrence, other.IsIn source → other.start ≠ position)
    (leftmost : Leftmost source (position + 1) found) :
    Leftmost source position found := by
  have later : ∀ other : Occurrence, other.IsIn source → position ≤ other.start →
      position + 1 ≤ other.start := by
    intro other stands ahead
    have := nothing other stands
    omega
  cases leftmost with
  | none behind =>
      refine .none fun other stands => ?_
      by_contra ahead
      have := behind other stands
      have := later other stands (Nat.not_lt.mp ahead)
      omega
  | next stands ahead first behind =>
      exact .next stands (by omega)
        (fun other otherStands otherAhead => first other otherStands
          (later other otherStands otherAhead)) behind

/-- Everything up to the first occurrence stays as it is. -/
theorem filledFrom_pass
    {source : Text}
    {position : Nat}
    {character : Char}
    {rest : Text}
    {found : List Occurrence}
    (value : Text → Text)
    (stands : source.drop position = character :: rest)
    (leftmost : Leftmost source (position + 1) found) :
    filledFrom source value position found =
      character :: filledFrom source value (position + 1) found := by
  have next : source.drop (position + 1) = rest := by
    rw [← List.drop_drop, stands]
    rfl
  cases leftmost with
  | none _ => rw [filledFrom, filledFrom, stands, next]
  | @next _ occurrence others _ ahead _ _ =>
      obtain ⟨gap, isGap⟩ := Nat.exists_eq_add_of_le ahead
      have before : occurrence.start - position = gap + 1 := by omega
      have behind : occurrence.start - (position + 1) = gap := by omega
      rw [filledFrom, filledFrom, List.drop_take, List.drop_take, stands, next, before, behind,
        List.take_succ_cons, List.cons_append, List.cons_append]

/-! ### Pieces and occurrences -/

/-- Characters that belong to a placeholder that was found are passed over. -/
theorem segmentsFrom_eq_drop
    (skipped : Nat)
    (text : Text) :
    segmentsFrom skipped text = segments (text.drop skipped) := by
  induction text generalizing skipped with
  | nil => simp [segments, segmentsFrom]
  | cons character rest inductionHypothesis =>
      cases skipped with
      | zero => rfl
      | succ skipped =>
          rw [segmentsFrom, inductionHypothesis, List.drop_succ_cons]

/-- A placeholder at the beginning is one piece. -/
theorem segments_spelling
    {spelling name : Text}
    (spells : Spells spelling name)
    (behind : Text) :
    segments (spelling ++ behind) = .placeholder name :: segments behind := by
  have found := placeholder?_eq_some_iff.mpr ⟨spelling, spells, (rfl : spelling ++ behind = _)⟩
  cases spelling with
  | nil => exact absurd rfl spells.ne_nil
  | cons character tail =>
      rw [List.cons_append] at found
      rw [List.cons_append, segments, segmentsFrom, found]
      simp only [List.length_append, Nat.add_sub_cancel_right, segmentsFrom_eq_drop,
        List.drop_left]

/-- Without a placeholder at the beginning the first character stands for itself. -/
theorem segments_literal
    {character : Char}
    {rest : Text}
    (nothing : placeholder? (character :: rest) = none) :
    segments (character :: rest) = .literal character :: segments rest := by
  rw [segments, segmentsFrom, nothing]
  rfl

/-- The pieces of a text are its leftmost occurrences with the characters between them. -/
theorem exists_leftmost
    (bindings : Bindings)
    (front text : Text) :
    ∃ found,
      Leftmost (front ++ text) front.length found ∧
        found.map Occurrence.name = (segments text).filterMap nameOf? ∧
        filledFrom (front ++ text) (fun name => (value? bindings name).getD []) front.length
            found =
          fill text bindings := by
  -- On the length of what is still to be read; a placeholder is read in one step.
  induction size : text.length using Nat.strong_induction_on generalizing front text with
  | h size inductionHypothesis =>
      cases text with
      | nil =>
          refine ⟨[], .none fun other stands => ?_, rfl, ?_⟩
          · have inside := stands.start_lt
            rwa [List.append_nil] at inside
          · rw [filledFrom, List.drop_left]
            rfl
      | cons character rest =>
          cases read : placeholder? (character :: rest) with
          | none =>
              obtain ⟨found, leftmost, names, filled⟩ :=
                inductionHypothesis rest.length (by rw [← size]; exact Nat.lt_succ_self _)
                  (front ++ [character]) rest rfl
              rw [List.append_assoc, List.singleton_append, List.length_append,
                List.length_singleton] at leftmost filled
              refine ⟨found, leftmost.pass ?_, ?_, ?_⟩
              · rintro other stands same
                obtain ⟨behind, otherRead, -⟩ := Occurrence.isIn_iff.mp stands
                rw [same, List.drop_left, read] at otherRead
                cases otherRead
              · rw [segments_literal read, names]
                rfl
              · rw [filledFrom_pass _ List.drop_left leftmost, filled, fill, fill,
                  segments_literal read]
                rfl
          | some placeholder =>
              obtain ⟨name, behind⟩ := placeholder
              obtain ⟨spelling, spells, whole⟩ := placeholder?_eq_some_iff.mp read
              have something := List.length_pos_iff.mpr spells.ne_nil
              rw [whole, List.length_append] at size
              rw [whole]
              obtain ⟨found, leftmost, names, filled⟩ :=
                inductionHypothesis behind.length (by omega) (front ++ spelling) behind rfl
              rw [List.append_assoc] at leftmost filled
              refine ⟨⟨front.length, (front ++ spelling).length, name⟩ :: found, ?_, ?_, ?_⟩
              · exact .next
                  ⟨front, spelling, behind, (List.append_assoc _ _ _).symm, spells, rfl, rfl⟩
                  (Nat.le_refl _) (fun other _ ahead => ahead) leftmost
              · rw [segments_spelling spells, List.map_cons, names]
                rfl
              · rw [filledFrom, filled, fill, fill, segments_spelling spells, List.take_left,
                  List.drop_length]
                rfl

/-! ### Rendering -/

/-- No value is given for a name. -/
def IsUnbound (bindings : Bindings) (name : Text) : Prop :=
  ∀ entry ∈ bindings, entry.1 ≠ name

/-- The value of a name is that of the first entry for it. -/
theorem value?_eq_lookup
    (bindings : Bindings)
    (name : Text) :
    value? bindings name = bindings.lookup name := by
  induction bindings with
  | nil => rfl
  | cons entry rest inductionHypothesis =>
      rcases entry with ⟨key, value⟩
      rw [value?] at inductionHypothesis ⊢
      by_cases same : key = name
      · subst same
        simp
      · have other : (name == key) = false := beq_eq_false_iff_ne.mpr (Ne.symm same)
        rw [List.find?_cons_of_neg (by simpa using same), inductionHypothesis,
          List.lookup_cons, other]

theorem isNone_value?_iff
    {bindings : Bindings}
    {name : Text} :
    (value? bindings name).isNone = true ↔ IsUnbound bindings name := by
  rw [value?, Option.isNone_map, Option.isNone_iff_eq_none, List.find?_eq_none]
  simp [IsUnbound]

/-- A value depends on nothing but the entries for its name. -/
theorem value?_congr
    {first second : Bindings}
    {name : Text}
    (same : first.filter (·.1 = name) = second.filter (·.1 = name)) :
    value? first name = value? second name := by
  have ofFilter : ∀ bindings : Bindings,
      value? bindings name = (bindings.filter (·.1 = name)).head?.map (·.2) := by
    intro bindings
    rw [value?, List.head?_filter]
  rw [ofFilter, ofFilter, same]

/-- Rendering depends on nothing but the values of the names that occur. -/
theorem render_congr
    {source : Text}
    {first second : Bindings}
    (same : ∀ name ∈ placeholders source, value? first name = value? second name) :
    render source first = render source second := by
  have filled : fill source first = fill source second := by
    rw [fill, fill]
    refine List.flatMap_congr fun segment member => ?_
    cases segment with
    | literal character => rfl
    | placeholder name =>
        have isName : name ∈ placeholders source :=
          Text.mem_sortedUnique.mpr (List.mem_filterMap.mpr ⟨_, member, rfl⟩)
        rw [fillSegment, fillSegment, same name isName]
  have missing :
      (placeholders source).find? (fun name => (value? first name).isNone) =
        (placeholders source).find? fun name => (value? second name).isNone :=
    List.find?_congr fun name member => by rw [same name member]
  rw [render, render, missing, filled]

/-- Rendering fails exactly with the least name that has no value. -/
theorem render_eq_error_iff
    {source missing : Text}
    {bindings : Bindings} :
    render source bindings = .error missing ↔
      IsLeast {name | name ∈ placeholders source ∧ IsUnbound bindings name} missing := by
  have sorted : (placeholders source).Pairwise (· < ·) := Text.pairwise_sortedUnique _
  simp only [← isNone_value?_iff]
  rw [← Text.find?_eq_some_iff_isLeast sorted, render]
  cases (placeholders source).find? fun name => (value? bindings name).isNone <;> simp

/-- Rendering succeeds exactly if every name has a value, and then it fills the template. -/
theorem render_eq_ok_iff
    {source text : Text}
    {bindings : Bindings} :
    render source bindings = .ok text ↔
      (∀ name ∈ placeholders source, ¬ IsUnbound bindings name) ∧
        text = fill source bindings := by
  have bound :
      ((placeholders source).find? fun name => (value? bindings name).isNone) = none ↔
        ∀ name ∈ placeholders source, ¬ IsUnbound bindings name := by
    simp only [List.find?_eq_none, isNone_value?_iff]
  rw [← bound, render]
  cases (placeholders source).find? fun name => (value? bindings name).isNone with
  | none => simp [eq_comm]
  | some missing => simp

/-- Rendering is a matter of the leftmost placeholders: their names are the names of the
template, the least one without a value is what is missed, and otherwise each of them gives
way to the value of the first entry for its name, which is not searched again.  Entries for
other names, and the order of entries for different names, do not matter. -/
theorem render_fills_leftmost
    (source : Text)
    (bindings : Bindings) :
    ∃ found,
      Leftmost source 0 found ∧
      (∀ other, Leftmost source 0 other → other = found) ∧
      (placeholders source).Pairwise (· < ·) ∧
      (∀ name, name ∈ placeholders source ↔ ∃ occurrence ∈ found, occurrence.name = name) ∧
      (∀ missing,
        render source bindings = .error missing ↔
          IsLeast {name | (∃ occurrence ∈ found, occurrence.name = name) ∧
            IsUnbound bindings name} missing) ∧
      (∀ text,
        render source bindings = .ok text ↔
          (∀ occurrence ∈ found, ¬ IsUnbound bindings occurrence.name) ∧
            text = filledFrom source (fun name => (bindings.lookup name).getD []) 0 found) ∧
      ∀ others : Bindings,
        (∀ occurrence ∈ found,
          others.filter (·.1 = occurrence.name) = bindings.filter (·.1 = occurrence.name)) →
        render source others = render source bindings := by
  obtain ⟨found, leftmost, names, filled⟩ := exists_leftmost bindings [] source
  simp only [List.nil_append, List.length_nil, value?_eq_lookup] at leftmost filled
  have isName : ∀ name, name ∈ placeholders source ↔
      ∃ occurrence ∈ found, occurrence.name = name := by
    intro name
    rw [placeholders, Text.mem_sortedUnique, ← names, List.mem_map]
  refine ⟨found, leftmost, fun other others => others.unique leftmost,
    Text.pairwise_sortedUnique _, isName, ?_, ?_, ?_⟩
  · intro missing
    simp only [render_eq_error_iff, isName]
  · intro text
    simp only [render_eq_ok_iff, isName, filled, forall_exists_index, and_imp,
      forall_apply_eq_imp_iff₂]
  · intro others same
    refine render_congr fun name member => ?_
    obtain ⟨occurrence, isFound, rfl⟩ := (isName name).mp member
    exact value?_congr (same occurrence isFound)

-- The first of two entries counts, and what it puts in place is not a placeholder again.
example :
    render "\x7b\x7b\x7b a \x7d\x7d\x7b\x7bb\x7d".toList
        [("a".toList, "\x7b\x7bb\x7d\x7d".toList), ("a".toList, [])] =
      .ok "\x7b\x7b\x7bb\x7d\x7d\x7b\x7bb\x7d".toList := by
  rfl

end DetachedTasks.Template
