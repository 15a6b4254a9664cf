import DetachedTasks.Text.Order

/-!
# Templates

A template is text with placeholders.  A placeholder is a name between double braces, with
blanks allowed on both sides of the name; it is the only special form, because generated
scripts are full of single braces and dollar signs.  Every placeholder needs a value: a
missing one is an error and not an empty text.  Values go in verbatim and are not searched
for placeholders again.
-/

namespace DetachedTasks

/-- A piece of a template. -/
inductive Segment where
  /-- A character that stands for itself. -/
  | literal (character : Char)
  /-- A placeholder for the value of a name. -/
  | placeholder (name : Text)
  deriving Repr, DecidableEq

/-- Names with their values; of two values for a name the first one counts. -/
abbrev Bindings := List (Text × Text)

namespace Template

/-- A character that a name may begin with. -/
def isNameStart (character : Char) : Bool :=
  character.isAlpha || character == '_'

/-- A character that a name may go on with. -/
def isNamePart (character : Char) : Bool :=
  isNameStart character || character.isDigit

/-- The two characters that open a placeholder. -/
def opening : Text := ['\x7b', '\x7b']

/-- The two characters that close a placeholder. -/
def closing : Text := ['\x7d', '\x7d']

/-- The name at the beginning of a text, and what follows it. -/
def name? : Text → Option (Text × Text)
  | [] => none
  | first :: rest =>
      if isNameStart first then
        some (first :: rest.takeWhile isNamePart, rest.dropWhile isNamePart)
      else
        none

/-- The name of the placeholder that a text begins with, and what follows it. -/
def placeholder? (text : Text) : Option (Text × Text) := do
  let inside ← Text.afterPrefix? opening text
  let (name, behind) ← name? (inside.dropWhile Text.isBlank)
  let rest ← Text.afterPrefix? closing (behind.dropWhile Text.isBlank)
  pure (name, rest)

/-- The pieces of a template from left to right; the first `skipped` characters belong to a
placeholder that was found already. -/
def segmentsFrom
    (skipped : Nat) : Text → List Segment
  | [] => []
  | character :: rest =>
      match skipped with
      | skipped + 1 => segmentsFrom skipped rest
      | 0 =>
          match placeholder? (character :: rest) with
          | some (name, behind) =>
              .placeholder name :: segmentsFrom (rest.length - behind.length) rest
          | none => .literal character :: segmentsFrom 0 rest

/-- The pieces of a template from left to right. -/
def segments (source : Text) : List Segment :=
  segmentsFrom 0 source

/-- The name that a piece asks a value for. -/
def nameOf? : Segment → Option Text
  | .literal _ => none
  | .placeholder name => some name

/-- The names of all placeholders, each once and in order. -/
def placeholders (source : Text) : List Text :=
  Text.sortedUnique ((segments source).filterMap nameOf?)

/-- The value of a name. -/
def value?
    (bindings : Bindings)
    (name : Text) : Option Text :=
  (bindings.find? (·.1 = name)).map (·.2)

/-- The text that a piece becomes; a name without value becomes nothing. -/
def fillSegment
    (bindings : Bindings) : Segment → Text
  | .literal character => [character]
  | .placeholder name => (value? bindings name).getD []

/-- The template with the values in the places of their names. -/
def fill
    (source : Text)
    (bindings : Bindings) : Text :=
  (segments source).flatMap (fillSegment bindings)

/-- The template with its values, or the first name, in order, that has none. -/
def render
    (source : Text)
    (bindings : Bindings) : Except Text Text :=
  match (placeholders source).find? fun name => (value? bindings name).isNone with
  | some missing => .error missing
  | none => .ok (fill source bindings)

/-- Where every placeholder has a value, rendering is filling. -/
theorem render_eq_ok
    {source : Text}
    {bindings : Bindings}
    (bound : ∀ name ∈ placeholders source, (value? bindings name).isSome = true) :
    render source bindings = .ok (fill source bindings) := by
  have none_missing :
      (placeholders source).find? (fun name => (value? bindings name).isNone) = none := by
    rw [List.find?_eq_none]
    intro name member
    have := bound name member
    cases found : value? bindings name <;> simp_all
  simp [render, none_missing]

end Template

end DetachedTasks
