import DetachedTasks.Proofs.HandleRoundTrip
import DetachedTasks.Proofs.TaskPlaces

/-!
# Handles that were cut short

A process that is killed while it saves a handle may leave any beginning of what it was to
write.  The offset is written last, and a field that is missing has its default.  So whatever
can still be read in a saved handle that was fresh is a fresh handle on the same task.
-/

namespace DetachedTasks

namespace Toml

/-! ## Documents that are cut short -/

namespace Reader

/-- Parts of a document of which the first one begins with more entries. -/
def behind
    (entries : List (List Text × Value)) : List Part → List Part
  | [] => []
  | first :: others => { first with entries := entries ++ first.entries } :: others

theorem behind_behind
    (first second : List (List Text × Value))
    (parts : List Part) :
    behind first (behind second parts) = behind (first ++ second) parts := by
  cases parts with
  | nil => rfl
  | cons part parts => simp [behind]

/-- The entries that were read already stand before the others, and nothing depends on
them. -/
theorem parts?_behind
    (fuel : Nat)
    (path : List Text)
    (repeated : Bool)
    (entries : List (List Text × Value))
    (text : Text) :
    parts? fuel ⟨path, repeated, entries⟩ text =
      (parts? fuel ⟨path, repeated, []⟩ text).map (behind entries.reverse) := by
  induction fuel generalizing entries text with
  | zero => rfl
  | succ fuel inductionHypothesis =>
      rw [parts?, parts?]
      split
      · simp [behind]
      · rename_i rest _
        cases header? ('[' :: rest) with
        | none => rfl
        | some header =>
            rcases header with ⟨⟨next, again⟩, rest⟩
            cases others : parts? fuel ⟨next, again, []⟩ rest <;> simp [others, behind]
      · cases entry? (skipAll text) with
        | none => rfl
        | some found =>
            rcases found with ⟨entry, rest⟩
            show parts? fuel ⟨path, repeated, entry :: entries⟩ rest =
              (parts? fuel ⟨path, repeated, [entry]⟩ rest).map _
            rw [inductionHypothesis (entry :: entries), inductionHypothesis [entry],
              Option.map_map]
            congr 1
            funext parts
            simp [behind_behind]

/-- The characters of bare keys by their numbers. -/
theorem isBareKey_eq (character : Char) :
    isBareKey character =
      (((decide (65 ≤ character.val ∧ character.val ≤ 90)
        || decide (97 ≤ character.val) && decide (character.val ≤ 122))
        || decide (48 ≤ character.val) && decide (character.val ≤ 57))
        || character == '_' || character == '-') := rfl

/-- The characters of bare keys are printed, and none of them is a quote or a backslash. -/
theorem printed_of_isBareKey
    {character : Char}
    (bare : isBareKey character = true) :
    0x20 < character.toNat ∧ character.toNat < 0x7F := by
  simp only [isBareKey_eq, Bool.or_eq_true, Bool.and_eq_true, decide_eq_true_eq, beq_iff_eq,
    UInt32.le_iff_toNat_le, UInt32.reduceToNat] at bare
  simp only [Char.toNat]
  rcases bare with (((⟨low, high⟩ | ⟨low, high⟩) | ⟨low, high⟩) | rfl) | rfl
  · exact ⟨by omega, by omega⟩
  · exact ⟨by omega, by omega⟩
  · exact ⟨by omega, by omega⟩
  · decide
  · decide

end Reader

namespace Quoted

/-- A string without its closing quote cannot be read. -/
theorem basic?_open
    {text : Text}
    (bare : ∀ character ∈ text, Reader.isBareKey character = true) :
    basic? text = none := by
  induction text with
  | nil => rfl
  | cons character text inductionHypothesis =>
      have isBare := bare character List.mem_cons_self
      have printed := Reader.printed_of_isBareKey isBare
      have plain : isPlain character = true := by
        simp only [isPlain, Bool.or_eq_true, Bool.and_eq_true, decide_eq_true_eq, bne_iff_ne]
        exact Or.inr ⟨by omega, by omega⟩
      rw [basic?_plain (Reader.ne_of_isBareKey isBare (by decide))
        (Reader.ne_of_isBareKey isBare (by decide)) plain,
        inductionHypothesis fun other member => bare other (List.mem_cons_of_mem _ member)]
      rfl

end Quoted

namespace Writer

/-- A bare text stands between quotes as it is. -/
theorem string_bare
    {text : Text}
    (bare : ∀ character ∈ text, Reader.isBareKey character = true) :
    string text = '"' :: (text ++ ['"']) := by
  have absent : ∀ character, Reader.isBareKey character = false → character ∉ text := by
    intro character notBare member
    rw [bare character member] at notBare
    cases notBare
  have noControl : text.any isControl = false := by
    rw [List.any_eq_false]
    intro character member
    have printed := Reader.printed_of_isBareKey (bare character member)
    simp only [isControl, Bool.or_eq_true, Bool.and_eq_true, decide_eq_true_eq, beq_iff_eq]
    omega
  have form : formOf text = .basic := by
    have noBackslash := absent '\\' (by decide)
    have noQuote := absent '"' (by decide)
    have noLineFeed := absent '\n' (by decide)
    simp [formOf, noControl, noBackslash, noQuote, noLineFeed]
  have escaped : ∀ rest, (∀ character ∈ rest, Reader.isBareKey character = true) →
      escapeFrom false 0 0 rest = rest := by
    intro rest bareRest
    induction rest with
    | nil => rfl
    | cons character rest inductionHypothesis =>
        have isBare := bareRest character List.mem_cons_self
        have printed := Reader.printed_of_isBareKey isBare
        have unescaped : escape? character = none := by
          have ne : ∀ other, Reader.isBareKey other = false → character ≠ other :=
            fun other notBare => Reader.ne_of_isBareKey isBare notBare
          rw [escape?, if_neg (ne _ (by decide)), if_neg (ne _ (by decide)),
            if_neg (ne _ (by decide)), if_neg (ne _ (by decide)), if_neg (ne _ (by decide)),
            if_neg]
          simp only [Bool.or_eq_true, decide_eq_true_eq]
          omega
        rw [escapeFrom, if_neg (Reader.ne_of_isBareKey isBare (by decide)),
          if_neg (Reader.ne_of_isBareKey isBare (by decide)), unescaped,
          inductionHypothesis fun other member => bareRest other (List.mem_cons_of_mem _ member)]
        rfl
  rw [string, form, stringIn, escaped text bare]
  rfl

end Writer

end Toml

namespace TaskId

theorem isBareKey_of_isWellFormed
    {id : Text}
    (wellFormed : isWellFormed id = true)
    {character : Char}
    (member : character ∈ id) :
    Toml.Reader.isBareKey character = true := by
  obtain ⟨rest, shape, _, hexadecimal⟩ := isWellFormed_iff.mp wellFormed
  rw [shape, List.mem_append] at member
  rcases member with inStart | inRest
  · have allStart : start.all Toml.Reader.isBareKey = true := by decide
    exact List.all_eq_true.mp allStart character inStart
  · have isDigit := List.all_eq_true.mp hexadecimal character inRest
    simp only [TaskId.isDigit, Bool.or_eq_true, Bool.and_eq_true, decide_eq_true_eq] at isDigit
    simp only [Toml.Reader.isBareKey_eq, Bool.or_eq_true]
    rcases isDigit with decimal | ⟨low, high⟩
    · exact Or.inl (Or.inl (Or.inr decimal))
    · left; left; left; right
      simp only [UInt32.le_iff_toNat_le, Bool.and_eq_true, decide_eq_true_eq]
      exact ⟨low, Nat.le_trans high (by decide)⟩

end TaskId

namespace Handle

open Toml

section Torn

variable {id : Text}

/-- What the document of a handle begins with, up to the quote before the id. -/
def opening : Text := "id = \"".toList

/-- The lines of a fresh handle that follow its id. -/
def ending (capturing : Bool) : Text :=
  Writer.line "capturing_output".toList (Writer.boolean capturing)
    ++ Writer.line "log_offset".toList (Writer.word 0)

theorem toToml_attach
    (wellFormed : TaskId.isWellFormed id = true)
    (capturing : Bool) :
    (attach id capturing).toToml = opening ++ (id ++ ('"' :: '\n' :: ending capturing)) := by
  have written := Writer.string_bare fun character member =>
    TaskId.isBareKey_of_isWellFormed wellFormed member
  simp only [toToml, attach, Writer.line, written, ending, List.append_assoc, List.cons_append,
    List.nil_append]
  rfl

/-- What is read of a document that begins with an id. -/
theorem read?_opening (begun : Text) :
    Toml.read? (opening ++ begun) =
      (Reader.entry? (opening ++ begun)).bind fun found =>
        ((Reader.parts? (opening ++ begun).length ⟨[], false, []⟩ found.2).map
          (Reader.behind [found.1])).bind document? := by
  have skipped : Reader.skipAll (opening ++ begun) = opening ++ begun :=
    Reader.skipAll_bare (by decide : Reader.isBareKey 'i' = true) ("d = \"".toList ++ begun)
  show (Reader.parts? ((opening ++ begun).length + 1) ⟨[], false, []⟩ (opening ++ begun)).bind
    document? = _
  rw [Reader.parts?, skipped]
  show ((Reader.entry? (opening ++ begun)).bind fun found =>
    Reader.parts? (opening ++ begun).length ⟨[], false, [found.1]⟩ found.2).bind document? = _
  cases Reader.entry? (opening ++ begun) with
  | none => rfl
  | some found =>
      show (Reader.parts? _ ⟨[], false, [found.1]⟩ found.2).bind document? = _
      rw [Reader.parts?_behind]
      rfl

/-- The first entry is a string up to the end of its line. -/
theorem entry?_opening (begun : Text) :
    Reader.entry? (opening ++ begun) =
      (Quoted.string? ('"' :: begun)).bind fun found =>
        (Reader.endOfLine? found.2).map fun last =>
          ((["id".toList], .string found.1), last) := by
  have key := Reader.key?_bare (isBare_of_mem_fields _ List.mem_cons_self) ('"' :: begun)
  have shape : opening ++ begun = "id".toList ++ " = ".toList ++ '"' :: begun := rfl
  rw [shape, Reader.entry?, key]
  show ((Reader.value? (2 * (begun.length + 2) + 2) 0 ('"' :: begun)).bind fun found =>
    (Reader.endOfLine? found.2).bind fun last => some ((["id".toList], found.1), last)) = _
  rw [Reader.value?]
  cases Quoted.string? ('"' :: begun) with
  | none => rfl
  | some found =>
      show ((Reader.endOfLine? found.2).bind fun last =>
          some ((["id".toList], Value.string found.1), last)) =
        (Reader.endOfLine? found.2).map _
      cases Reader.endOfLine? found.2 <;> rfl

/-- Nothing can be read before the id is closed. -/
theorem read?_open
    {begun : Text}
    (bare : ∀ character ∈ begun, Reader.isBareKey character = true) :
    Toml.read? (opening ++ begun) = none := by
  have notString : Quoted.string? ('"' :: begun) = none := by
    rw [Quoted.string?]
    · exact Quoted.basic?_open bare
    · intro rest same
      injection same with _ same
      rw [same] at bare
      exact absurd (bare '"' List.mem_cons_self) (by decide)
    · intro rest same
      injection same with impossible _
      exact absurd impossible (by decide)
  rw [read?_opening, entry?_opening, notString]
  rfl

/-- The id is read once it is closed, and then what follows its line. -/
theorem read?_closed
    (wellFormed : TaskId.isWellFormed id = true)
    {rest last : Text}
    (ends : Writer.Ends rest)
    (lineEnds : Reader.endOfLine? rest = some last) :
    Toml.read? (opening ++ (id ++ '"' :: rest)) =
      ((Reader.parts? (23 + rest.length) ⟨[], false, []⟩ last).map
        (Reader.behind [(["id".toList], .string id)])).bind document? := by
  have written := Writer.string_bare fun character member =>
    TaskId.isBareKey_of_isWellFormed wellFormed member
  have read := Writer.string?_string ends id
  rw [written, List.cons_append, List.append_assoc, List.singleton_append] at read
  have long : (opening ++ (id ++ '"' :: rest)).length = 23 + rest.length := by
    have opens : opening.length = 6 := rfl
    have sixteen := TaskId.length_of_isWellFormed wellFormed
    simp only [List.length_append, List.length_cons]
    omega
  rw [read?_opening, entry?_opening, read, long]
  show ((Reader.endOfLine? rest).map _).bind _ = _
  rw [lineEnds]
  rfl

/-- The fields behind the id, as far as they were written. -/
inductive Begun : List (List Text × Value) → Prop where
  | nothing : Begun []
  | capturing (flag : Bool) : Begun [(["capturing_output".toList], .boolean flag)]
  | whole (flag : Bool) :
      Begun [(["capturing_output".toList], .boolean flag), (["log_offset".toList], .integer 0)]

/-- Whether one part was read whose fields are begun. -/
def isBegun : List Part → Bool
  | [⟨[], false, []⟩] => true
  | [⟨[], false, [(first, .boolean _)]⟩] => first = ["capturing_output".toList]
  | [⟨[], false, [(first, .boolean _), (second, .integer number)]⟩] =>
      first = ["capturing_output".toList] && second = ["log_offset".toList] && number = 0
  | _ => false

theorem begun_of_isBegun
    {parts : List Part}
    (isBegun : isBegun parts = true) :
    ∃ entries, parts = [⟨[], false, entries⟩] ∧ Begun entries := by
  unfold Handle.isBegun at isBegun
  split at isBegun
  · exact ⟨[], rfl, .nothing⟩
  · rw [decide_eq_true_eq] at isBegun
    subst isBegun
    exact ⟨_, rfl, .capturing _⟩
  · simp only [Bool.and_eq_true, decide_eq_true_eq] at isBegun
    obtain ⟨⟨rfl, rfl⟩, rfl⟩ := isBegun
    exact ⟨_, rfl, .whole _⟩
  · cases isBegun

/-- Whatever was written behind the id is malformed or begins the fields. -/
theorem isBegun_ending
    (capturing : Bool)
    (count : Nat) :
    let written := (ending capturing).take count
    (Reader.parts? (24 + written.length) ⟨[], false, []⟩ written).all isBegun = true := by
  have all : ∀ flag : Bool, ∀ length < 41,
      (Reader.parts? (24 + length) ⟨[], false, []⟩ ((ending flag).take length)).all
        isBegun = true := by
    decide +kernel
  have long : (ending capturing).length ≤ 40 := by cases capturing <;> decide
  have shorter := Nat.le_trans (List.length_take_le' count (ending capturing)) long
  have same := List.prefix_iff_eq_take.mp (List.take_prefix count (ending capturing))
  have checked := all capturing _ (Nat.lt_succ_of_le shorter)
  rwa [← same] at checked

/-- An id with begun fields is a fresh handle. -/
theorem ofValue_begun
    {entries : List (List Text × Value)}
    (begun : Begun entries)
    (id : Text) :
    ∃ table flag,
      document? (Reader.behind [(["id".toList], .string id)] [⟨[], false, entries⟩]) =
          some table ∧
        ofValue table = .ok (attach id flag) := by
  cases begun with
  | nothing => exact ⟨_, false, rfl, rfl⟩
  | capturing flag => exact ⟨_, flag, rfl, rfl⟩
  | whole flag => exact ⟨_, flag, rfl, rfl⟩

theorem ofToml_of_unread
    {text : Text}
    (unread : Toml.read? text = none) :
    ofToml text = .error .malformed := by
  rw [ofToml, unread]

/-- What is read of a document with an id and begun fields is a fresh handle. -/
theorem attach_of_read
    {text : Text}
    {parts : Option (List Part)}
    (same : Toml.read? text =
      (parts.map (Reader.behind [(["id".toList], .string id)])).bind document?)
    (checked : parts.all isBegun = true)
    {handle : Handle}
    (read : ofToml text = .ok handle) :
    ∃ flag, handle = attach id flag := by
  cases parts with
  | none =>
      rw [ofToml_of_unread same] at read
      cases read
  | some parts =>
      obtain ⟨entries, rfl, begun⟩ := begun_of_isBegun checked
      obtain ⟨table, flag, isTable, isHandle⟩ := ofValue_begun begun id
      rw [ofToml, same, Option.map_some, Option.bind_some, isTable] at read
      simp only [isHandle] at read
      cases read
      exact ⟨flag, rfl⟩

/-- What can be read in any beginning of a fresh handle is a fresh handle on the same
task. -/
theorem ofToml_take
    (wellFormed : TaskId.isWellFormed id = true)
    {capturing : Bool}
    {count : Nat}
    {handle : Handle}
    (read : ofToml ((attach id capturing).toToml.take count) = .ok handle) :
    ∃ flag, handle = attach id flag := by
  have opens : opening.length = 6 := rfl
  have sixteen := TaskId.length_of_isWellFormed wellFormed
  rw [toToml_attach wellFormed] at read
  rcases Nat.lt_or_ge count 6 with early | behindOpening
  · have failed : ∀ count < 6, (ofToml (opening.take count)).toOption = none := by
      decide +kernel
    have never := failed count early
    rw [List.take_append_of_le_length (by omega)] at read
    rw [read] at never
    cases never
  · obtain ⟨count, rfl⟩ := Nat.exists_eq_add_of_le behindOpening
    rw [← opens, List.take_length_add_append] at read
    rcases Nat.lt_or_ge count 17 with inId | behindId
    · have bare : ∀ character ∈ id.take count, Reader.isBareKey character = true :=
        fun character member =>
          TaskId.isBareKey_of_isWellFormed wellFormed (List.mem_of_mem_take member)
      rw [List.take_append_of_le_length (by omega), ofToml_of_unread (read?_open bare)] at read
      cases read
    · obtain ⟨count, rfl⟩ := Nat.exists_eq_add_of_le behindId
      have cut : (id ++ ('"' :: '\n' :: ending capturing)).take (17 + count) =
          id ++ '"' :: ('\n' :: ending capturing).take count := by
        rw [show 17 + count = id.length + (count + 1) by omega, List.take_length_add_append]
        rfl
      rw [cut] at read
      cases count with
      | zero =>
          have noQuote : Writer.Ends [] := ⟨by simp, by simp⟩
          exact attach_of_read (read?_closed wellFormed noQuote rfl) rfl read
      | succ count =>
          have same := read?_closed wellFormed
            (Writer.ends_lineFeed ((ending capturing).take count)) rfl
          rw [List.length_cons, ← Nat.add_assoc, Nat.add_right_comm] at same
          exact attach_of_read same (isBegun_ending capturing count) read

end Torn

end Handle

end DetachedTasks
