import DetachedTasks.Proofs.ScriptReading
import DetachedTasks.Proofs.WellFormedBytes

/-!
# Fragments are read as they were written

In a fragment a backtick stands before every dollar sign of a path.  A backtick of the path
itself is not escaped, so a fragment may hold backticks that were there before, also right
before one that was put in.  This does no harm: whatever stands before a dollar sign of a
fragment is the fragment of what stood before it in the path, and then one backtick more.  So
the backtick that is taken away again is always the one that was put in, and no two paths in
well-formed UTF-8 have the same fragment.
-/

namespace DetachedTasks

namespace Script

/-- A dollar sign of an escaped text is one of the text, and right before it stands a backtick
that is no part of what was written for the text before. -/
theorem exists_of_escape_eq_append
    {text front rest : Text}
    (shape : escape text = front ++ '$' :: rest) :
    ∃ before after, text = before ++ '$' :: after ∧
      front = escape before ++ ['\x60'] ∧ rest = escape after := by
  induction text generalizing front with
  | nil => exact absurd shape.symm (List.append_ne_nil_of_right_ne_nil front nofun)
  | cons character text inductionHypothesis =>
      rw [escape_cons] at shape
      by_cases isDollar : character = '$'
      · subst isDollar
        rw [if_pos rfl] at shape
        match front with
        | [] => cases (List.cons.inj shape).1
        | [backtick] =>
            simp only [List.cons_append, List.nil_append, List.cons.injEq, true_and] at shape
            obtain ⟨rfl, rfl⟩ := shape
            exact ⟨[], text, rfl, rfl, rfl⟩
        | backtick :: dollar :: front =>
            simp only [List.cons_append, List.nil_append, List.cons.injEq] at shape
            obtain ⟨rfl, rfl, shape⟩ := shape
            obtain ⟨before, after, rfl, rfl, rfl⟩ := inductionHypothesis shape
            exact ⟨'$' :: before, after, rfl, rfl, rfl⟩
      · rw [if_neg isDollar] at shape
        match front with
        | [] => exact absurd (List.cons.inj shape).1 isDollar
        | first :: front =>
            simp only [List.cons_append, List.nil_append, List.cons.injEq] at shape
            obtain ⟨rfl, shape⟩ := shape
            obtain ⟨before, after, rfl, rfl, rfl⟩ := inductionHypothesis shape
            refine ⟨character :: before, after, rfl, ?_, rfl⟩
            rw [escape_cons, if_neg isDollar]
            rfl

theorem escape_injective : Function.Injective escape :=
  Function.LeftInverse.injective unescape_escape

end Script

namespace Path

/-- A path in well-formed UTF-8 is its text, encoded. -/
theorem eq_ofText_of_decode?
    {path : Path}
    {text : Text}
    (wellFormed : Utf8.decode? path.bytes = some text) :
    path = ofText text :=
  congrArg Path.mk (Utf8.decode?_eq_some_iff.mp wellFormed)

/-- Reading a fragment gives the text of the path back, each of its dollar signs stands behind
a backtick that was put in for it, and it is the fragment of no other path. -/
theorem fragment_undone
    {path : Path}
    {text : Text}
    (wellFormed : Utf8.decode? path.bytes = some text) :
    Script.unescape path.fragment = text ∧
      (∀ front rest, path.fragment = front ++ '$' :: rest →
        ∃ before after, text = before ++ '$' :: after ∧
          front = (ofText before).fragment ++ ['\x60'] ∧ rest = (ofText after).fragment) ∧
      ∀ other : Path, (Utf8.decode? other.bytes).isSome = true →
        other.fragment = path.fragment → other = path := by
  obtain rfl := eq_ofText_of_decode? wellFormed
  rw [Script.fragment_ofText]
  refine ⟨Script.unescape_escape text, ?_, ?_⟩
  · intro front rest shape
    obtain ⟨before, after, split, isFront, isRest⟩ := Script.exists_of_escape_eq_append shape
    rw [← Script.fragment_ofText] at isFront isRest
    exact ⟨before, after, split, isFront, isRest⟩
  · intro other otherWellFormed same
    obtain ⟨otherText, decoded⟩ := Option.isSome_iff_exists.mp otherWellFormed
    obtain rfl := eq_ofText_of_decode? decoded
    rw [Script.fragment_ofText] at same
    exact congrArg ofText (Script.escape_injective same)

/-- A path that holds an escaped dollar sign already, two in a row, and backticks at its end. -/
def escapedBefore : Path :=
  ofText "/a\x60$b$$c\x60\x60".toList

theorem fragment_undone_sample :
    Utf8.decode? escapedBefore.bytes = some "/a\x60$b$$c\x60\x60".toList ∧
      escapedBefore.fragment = "/a\x60\x60$b\x60$\x60$c\x60\x60".toList ∧
      Script.unescape escapedBefore.fragment = "/a\x60$b$$c\x60\x60".toList ∧
      (∀ front rest, escapedBefore.fragment = front ++ '$' :: rest →
        ∃ before after, "/a\x60$b$$c\x60\x60".toList = before ++ '$' :: after ∧
          front = (ofText before).fragment ++ ['\x60'] ∧ rest = (ofText after).fragment) ∧
      ∀ other : Path, (Utf8.decode? other.bytes).isSome = true →
        other.fragment = escapedBefore.fragment → other = escapedBefore := by
  have wellFormed : Utf8.decode? escapedBefore.bytes = some "/a\x60$b$$c\x60\x60".toList := by
    decide +kernel
  exact ⟨wellFormed, by decide +kernel, fragment_undone wellFormed⟩

/-- A path that is not well formed shares its fragment with others. -/
example : (⟨[0xFF]⟩ : Path).fragment = (⟨[0xFE]⟩ : Path).fragment := by
  decide

end Path

end DetachedTasks
