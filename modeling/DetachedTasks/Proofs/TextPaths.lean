import DetachedTasks.Proofs.AbsoluteNames
import DetachedTasks.Proofs.ParentPlaces
import DetachedTasks.Proofs.SiblingFiles
import DetachedTasks.Proofs.TaskPlaces
import DetachedTasks.Proofs.Utf8RoundTrip

/-!
# Paths that are texts

Where the root of a workspace is the path of a text, the files of its tasks are paths of
texts as well.  The text of such a file may differ from that of the root in its slashes and
single dots, and it has a few plain names more.  So a single quote or a line feed shows in
it exactly where it shows in the text of the root.
-/

namespace DetachedTasks

/-! ## Characters between slashes -/

namespace Utf8

/-- A character is one byte below 128, or it has only bytes from 128 on. -/
theorem encodeChar_cases (character : Char) :
    character.toNat < 0x80 ∧ String.utf8EncodeChar character = [asciiByte character] ∨
      String.utf8EncodeChar character ≠ [] ∧
        ∀ byte ∈ String.utf8EncodeChar character, 0x80 ≤ byte.toNat := by
  have valid := toNat_scalar character
  simp only [String.utf8EncodeChar]
  generalize number : character.val.toNat = code at valid
  split
  · refine Or.inl ⟨?_, ?_⟩
    · rw [Char.toNat, number]
      omega
    · rw [asciiByte, Char.toNat, number]
  · refine Or.inr ?_
    split
    · refine ⟨List.cons_ne_nil _ _, ?_⟩
      simp only [List.mem_cons, List.not_mem_nil, or_false, forall_eq_or_imp, forall_eq]
      rw [toNat_octet (by omega), toNat_octet (by omega)]
      omega
    · split
      · refine ⟨List.cons_ne_nil _ _, ?_⟩
        simp only [List.mem_cons, List.not_mem_nil, or_false, forall_eq_or_imp, forall_eq]
        rw [toNat_octet (by omega), toNat_octet (by omega), toNat_octet (by omega)]
        omega
      · refine ⟨List.cons_ne_nil _ _, ?_⟩
        simp only [List.mem_cons, List.not_mem_nil, or_false, forall_eq_or_imp, forall_eq]
        rw [toNat_octet (by omega), toNat_octet (by omega), toNat_octet (by omega),
          toNat_octet (by omega)]
        omega

theorem slash_not_mem_encodeChar
    {character : Char}
    (different : character ≠ '/') :
    Path.slash ∉ String.utf8EncodeChar character := by
  intro member
  rcases encodeChar_cases character with ⟨small, one⟩ | ⟨_, high⟩
  · rw [one, List.mem_singleton] at member
    have value := congrArg UInt8.toNat member
    rw [asciiByte, toNat_octet (Nat.lt_trans small (by decide))] at value
    exact different (Char.toNat_inj.mp value.symm)
  · exact absurd (high _ member) (by decide)

end Utf8

namespace Text

/-- What is put before a list without a separator belongs to its first piece. -/
theorem splitOn_append_of_not_mem
    {α : Type}
    [DecidableEq α]
    {separator : α}
    {first items piece : List α}
    {pieces : List (List α)}
    (absent : separator ∉ first)
    (cut : splitOn separator items = piece :: pieces) :
    splitOn separator (first ++ items) = (first ++ piece) :: pieces := by
  induction first with
  | nil => exact cut
  | cons item first inductionHypothesis =>
      rw [List.mem_cons, not_or] at absent
      rw [List.cons_append, splitOn, if_neg (Ne.symm absent.1), inductionHypothesis absent.2]
      rfl

/-- An encoded text is cut at its slashes as the text is. -/
theorem splitOn_encode (text : Text) :
    splitOn Path.slash (Utf8.encode text) = (splitOn '/' text).map Utf8.encode := by
  induction text with
  | nil => rfl
  | cons character text inductionHypothesis =>
      by_cases isSlash : character = '/'
      · subst isSlash
        have cut := splitOn_append_cons Path.slash [] (Utf8.encode text)
        rw [List.nil_append] at cut
        rw [Utf8.encode_cons, splitOn, if_pos rfl]
        rw [inductionHypothesis] at cut
        exact cut
      · obtain ⟨piece, pieces, cut⟩ := List.exists_cons_of_ne_nil (splitOn_ne_nil '/' text)
        rw [cut, List.map_cons] at inductionHypothesis
        rw [Utf8.encode_cons, splitOn, if_neg isSlash, cut,
          splitOn_append_of_not_mem (Utf8.slash_not_mem_encodeChar isSlash)
            inductionHypothesis]
        rfl

end Text

/-! ## Flaws -/

/-- A single quote, or a line feed that comes behind certain characters.  A slash before it
counts no more than the beginning of the text. -/
structure Flaw where
  shows : Option Char → Char → Bool
  rare : ∀ before character, shows before character = true →
    character = '\'' ∨ character = '\n'
  afresh : ∀ character, shows (some '/') character = shows none character

namespace Flaw

/-- Whether a flaw shows in a text that comes behind a character. -/
def isIn
    (flaw : Flaw) : Option Char → Text → Bool
  | _, [] => false
  | before, character :: rest =>
      flaw.shows before character || flaw.isIn (some character) rest

variable {flaw : Flaw} {before : Option Char} {text : Text}

theorem isIn_append (first second : Text) :
    flaw.isIn before (first ++ second) =
      (flaw.isIn before first || flaw.isIn (first.getLast?.or before) second) := by
  induction first generalizing before with
  | nil => rfl
  | cons character first inductionHypothesis =>
      rw [List.cons_append, isIn, isIn, inductionHypothesis,
        Text.getLast?_or_cons character first before, Bool.or_assoc]

theorem shows_eq_false
    {character : Char}
    (noQuote : character ≠ '\'')
    (noLineFeed : character ≠ '\n') :
    flaw.shows before character = false := by
  rw [Bool.eq_false_iff]
  intro found
  rcases flaw.rare before character found with isQuote | isLineFeed
  · exact noQuote isQuote
  · exact noLineFeed isLineFeed

/-- Other characters are no flaws. -/
theorem isIn_eq_false
    (noQuote : '\'' ∉ text)
    (noLineFeed : '\n' ∉ text) :
    flaw.isIn before text = false := by
  induction text generalizing before with
  | nil => rfl
  | cons character text inductionHypothesis =>
      rw [List.mem_cons, not_or] at noQuote noLineFeed
      rw [isIn, shows_eq_false (Ne.symm noQuote.1) (Ne.symm noLineFeed.1), Bool.false_or]
      exact inductionHypothesis noQuote.2 noLineFeed.2

theorem isIn_afresh (text : Text) :
    flaw.isIn (some '/') text = flaw.isIn none text := by
  cases text with
  | nil => rfl
  | cons character rest => rw [isIn, isIn, flaw.afresh]

/-- A slash keeps the flaws on its two sides apart. -/
theorem isIn_slash (first second : Text) :
    flaw.isIn before (first ++ '/' :: second) =
      (flaw.isIn before first || flaw.isIn none second) := by
  have slash : flaw.shows (first.getLast?.or before) '/' = false :=
    shows_eq_false (by decide) (by decide)
  rw [isIn_append, isIn, slash, Bool.false_or, isIn_afresh]

theorem isIn_joinWith (pieces : List Text) :
    flaw.isIn none (Text.joinWith ['/'] pieces) = pieces.any (flaw.isIn none) := by
  induction pieces with
  | nil => rfl
  | cons piece pieces inductionHypothesis =>
      cases pieces with
      | nil => simp [Text.joinWith]
      | cons next others =>
          rw [Text.joinWith_cons_cons, List.append_assoc, List.singleton_append, isIn_slash,
            inductionHypothesis]
          rfl

/-- Whether a flaw shows in what is written for a component. -/
def isInComponent
    (flaw : Flaw)
    (component : Component) : Bool :=
  flaw.isIn none (Utf8.decodeLossy (Path.componentBytes component))

theorem isInComponent_name (name : Text) :
    flaw.isInComponent (.name (Utf8.encode name)) = flaw.isIn none name := by
  rw [isInComponent, Path.componentBytes, Utf8.decodeLossy_encode]

theorem isInComponent_componentOf (piece : Text) :
    flaw.isInComponent (Path.componentOf (Utf8.encode piece)) = flaw.isIn none piece := by
  have written : Path.componentBytes (Path.componentOf (Utf8.encode piece)) =
      Utf8.encode piece := by
    rw [Path.componentOf]
    split
    · rename_i isUp
      exact isUp.symm
    · rfl
  rw [isInComponent, written, Utf8.decodeLossy_encode]

/-- A segment that is no component has no flaw. -/
theorem isIn_of_isVoid
    {piece : Text}
    (void : Path.isVoid (Utf8.encode piece) = true) :
    flaw.isIn none piece = false := by
  rw [Path.isVoid, Bool.or_eq_true, List.isEmpty_iff, beq_iff_eq] at void
  rcases void with empty | isDot
  · have same : piece = [] := Utf8.encode_injective empty
    rw [same]
    rfl
  · have same : piece = ['.'] := Utf8.encode_injective isDot
    rw [same]
    exact isIn_eq_false (by decide) (by decide)

/-- A flaw of a path shows in one of its components. -/
theorem isIn_location (text : Text) :
    flaw.isIn none text = (Path.ofText text).location.any flaw.isInComponent := by
  have head : (Path.ofText text).headComponents.any flaw.isInComponent = false := by
    have root : flaw.isIn none ['/'] = false := isIn_eq_false (by decide) (by decide)
    have here : flaw.isIn none ['.'] = false := isIn_eq_false (by decide) (by decide)
    rw [Path.headComponents]
    split
    · rw [List.any_cons, List.any_nil, Bool.or_false]
      exact root
    · split
      · rw [List.any_cons, List.any_nil, Bool.or_false]
        exact here
      · rfl
  have segments : Path.segments (Path.ofText text).body =
      ((Text.splitOn '/' text).filter fun piece => !Path.isVoid (Utf8.encode piece)).map
        Utf8.encode := by
    rw [← Path.segments_bytes, Path.segments, Path.ofText, Text.splitOn_encode,
      List.filter_map]
    rfl
  have counted : ∀ piece,
      (!Path.isVoid (Utf8.encode piece) && flaw.isIn none piece) = flaw.isIn none piece := by
    intro piece
    cases void : Path.isVoid (Utf8.encode piece) with
    | true => rw [isIn_of_isVoid void, Bool.and_false]
    | false => rfl
  have pieces : flaw.isIn none (Text.joinWith ['/'] (Text.splitOn '/' text)) =
      (Text.splitOn '/' text).any (flaw.isIn none) := isIn_joinWith _
  rw [Text.joinWith_splitOn] at pieces
  rw [pieces, Path.location_eq, List.any_append, head, Bool.false_or, segments,
    List.any_map, List.any_map, List.any_filter]
  congr 1
  funext piece
  rw [Function.comp, Function.comp, isInComponent_componentOf, counted]

end Flaw

/-! ## Paths of texts -/

namespace Path

/-- A path that a text was written as. -/
def IsText (path : Path) : Prop :=
  ∃ text, path = ofText text

theorem IsText.join
    {base path : Path}
    (baseIsText : base.IsText)
    (isText : path.IsText) :
    (base.join path).IsText := by
  obtain ⟨first, rfl⟩ := baseIsText
  obtain ⟨second, rfl⟩ := isText
  rw [Path.join]
  split
  · exact ⟨second, rfl⟩
  · split
    · exact ⟨first ++ second, congrArg Path.mk (Utf8.encode_append first second).symm⟩
    · have written := Utf8.encode_append first ('/' :: second)
      exact ⟨first ++ '/' :: second, congrArg Path.mk written.symm⟩

/-- Behind an ASCII character a text goes on as a text. -/
theorem encode_tail
    {text : Text}
    {byte : UInt8}
    {rest : Bytes}
    (written : Utf8.encode text = byte :: rest)
    (small : byte.toNat < 0x80) :
    ∃ more, rest = Utf8.encode more := by
  cases text with
  | nil => cases written
  | cons character more =>
      rw [Utf8.encode_cons] at written
      rcases Utf8.encodeChar_cases character with ⟨_, one⟩ | ⟨notEmpty, high⟩
      · rw [one, List.singleton_append] at written
        injection written with _ sameRest
        exact ⟨more, sameRest.symm⟩
      · obtain ⟨first, others, shape⟩ := List.exists_cons_of_ne_nil notEmpty
        rw [shape, List.cons_append] at written
        injection written with sameByte _
        have large := high first (shape ▸ List.mem_cons_self)
        rw [sameByte] at large
        omega

/-- The body of a text is a text. -/
theorem IsText.body
    {path : Path}
    (isText : path.IsText) :
    ∃ text, path.body = Utf8.encode text := by
  obtain ⟨text, written⟩ := isText
  have whole : path.bytes = Utf8.encode text := congrArg Path.bytes written
  rcases path.begins with ⟨body, rfl⟩ | ⟨body, rfl, opens⟩ | ⟨body, rfl, bare⟩
  · rw [Path.body, head_slash]
    exact encode_tail whole.symm (by decide)
  · rw [Path.body, head_dot opens]
    exact encode_tail whole.symm (by decide)
  · rw [Path.body, head_bare bare]
    exact ⟨text, whole⟩

theorem isText_head (path : Path) :
    ∃ text, path.head = Utf8.encode text := by
  rcases path.begins with ⟨body, rfl⟩ | ⟨body, rfl, opens⟩ | ⟨body, rfl, bare⟩
  · exact ⟨['/'], head_slash body⟩
  · exact ⟨['.'], head_dot opens⟩
  · exact ⟨[], head_bare bare⟩

/-- Pieces of a text that are joined with slashes are a text again. -/
theorem joinWith_encode (pieces : List Text) :
    Text.joinWith [slash] (pieces.map Utf8.encode) =
      Utf8.encode (Text.joinWith ['/'] pieces) := by
  induction pieces with
  | nil => rfl
  | cons piece pieces inductionHypothesis =>
      cases pieces with
      | nil => rfl
      | cons next others =>
          rw [List.map_cons] at inductionHypothesis
          rw [List.map_cons, List.map_cons, Text.joinWith_cons_cons, inductionHypothesis,
            Text.joinWith_cons_cons, Utf8.encode_append, Utf8.encode_append]
          rfl

/-- The parent of a text is a text. -/
theorem IsText.parent
    {path parent : Path}
    (isText : path.IsText)
    (isParent : path.parent? = some parent) :
    parent.IsText := by
  obtain ⟨body, bodyWritten⟩ := isText.body
  obtain ⟨head, headWritten⟩ := path.isText_head
  have pieces : Text.splitOn slash path.body = (Text.splitOn '/' body).map Utf8.encode := by
    rw [bodyWritten, Text.splitOn_encode]
  rw [parent?] at isParent
  split at isParent
  · split at isParent
    · cases isParent
      exact ⟨[], rfl⟩
    · cases isParent
  · rename_i last before shape
    cases isParent
    -- What is kept are the first pieces of the body.
    have kept := Text.dropEndWhile_before_prefix shape
    rw [pieces, List.prefix_iff_eq_take, ← List.map_take] at kept
    obtain ⟨texts, written⟩ :
        ∃ texts : List Text, Text.dropEndWhile isVoid before.reverse = texts.map Utf8.encode :=
      ⟨_, kept⟩
    refine ⟨head ++ Text.joinWith ['/'] texts, ?_⟩
    rw [written, joinWith_encode, headWritten, ofText, Utf8.encode_append]

/-- A name in a path is one of its segments. -/
theorem mem_segments_of_mem_location
    {path : Path}
    {name : Bytes}
    (member : .name name ∈ path.location) :
    name ∈ segments path.body ∧ IsName name := by
  have inBody : .name name ∈ (segments path.body).map componentOf := by
    rw [location_eq, List.mem_append] at member
    rcases member with inHead | inBody
    · rw [headComponents] at inHead
      split at inHead
      · cases List.mem_singleton.mp inHead
      · split at inHead
        · cases List.mem_singleton.mp inHead
        · cases inHead
    · exact inBody
  obtain ⟨segment, isSegment, stands⟩ := List.mem_map.mp inBody
  rw [componentOf] at stands
  split at stands
  · cases stands
  · rename_i notUp
    cases stands
    have counts := (List.mem_filter.mp isSegment).2
    rw [Bool.not_eq_true'] at counts
    exact ⟨isSegment, counts, notUp, Text.not_mem_of_mem_splitOn (List.mem_filter.mp isSegment).1⟩

/-- The names in a text are texts. -/
theorem IsText.name
    {path : Path}
    {name : Bytes}
    (isText : path.IsText)
    (member : .name name ∈ path.location) :
    ∃ text, name = Utf8.encode text := by
  obtain ⟨body, bodyWritten⟩ := isText.body
  have isSegment := (mem_segments_of_mem_location member).1
  rw [segments, bodyWritten, Text.splitOn_encode] at isSegment
  obtain ⟨text, _, written⟩ := List.mem_map.mp (List.mem_filter.mp isSegment).1
  exact ⟨text, written.symm⟩

end Path

/-! ## The files of a task -/

namespace Workspace

variable {text : Text}

/-- The directory of all tasks is the path of a text where the root is one, and shows the
flaws of the root. -/
theorem tasksDirectory_ofText (text : Text) :
    (tasksDirectory ⟨Path.ofText text⟩).IsText ∧
      ∀ flaw : Flaw,
        (tasksDirectory ⟨Path.ofText text⟩).location.any flaw.isInComponent =
          flaw.isIn none text := by
  have isText : (Path.ofText text).IsText := ⟨text, rfl⟩
  have plainSuffix : Path.IsName (Utf8.encode suffix) :=
    ⟨by decide, by decide, by decide⟩
  have flawless : ∀ (flaw : Flaw) (before : Option Char), flaw.isIn before suffix = false :=
    fun flaw before => Flaw.isIn_eq_false (by decide) (by decide)
  rw [tasksDirectory]
  split
  · rename_i parent name isParent isFileName
    have last : (Path.ofText text).location.getLast? = some (.name name) := by
      rw [Path.fileName?] at isFileName
      split at isFileName
      · rename_i bytes found
        cases isFileName
        exact found
      · cases isFileName
    obtain ⟨above, whole⟩ := List.getLast?_eq_some_iff.mp last
    have member : .name name ∈ (Path.ofText text).location := List.mem_of_getLast? last
    obtain ⟨own, rfl⟩ := isText.name member
    have plain := (Path.mem_segments_of_mem_location member).2
    rw [← Utf8.encode_append]
    refine ⟨(isText.parent isParent).join ⟨own ++ suffix, rfl⟩, ?_⟩
    intro flaw
    have plainLonger : Path.IsName (Utf8.encode (own ++ suffix)) := by
      rw [Utf8.encode_append]
      exact plain.append (by decide) (by decide)
    rw [Flaw.isIn_location, Path.location_join plainLonger, Path.location_parent isParent,
      whole, List.dropLast_concat, List.any_append, List.any_append]
    simp only [List.any_cons, List.any_nil, Bool.or_false, Flaw.isInComponent_name,
      Flaw.isIn_append, flawless]
  · refine ⟨isText.join ⟨suffix, rfl⟩, ?_⟩
    intro flaw
    have below : ((Path.ofText text).joinText suffix).location =
        (Path.ofText text).location ++ [.name (Utf8.encode suffix)] :=
      Path.location_join plainSuffix (Path.ofText text)
    rw [below, Flaw.isIn_location, List.any_append]
    simp only [List.any_cons, List.any_nil, Bool.or_false, Flaw.isInComponent_name, flawless]

end Workspace

/-- A file of a task is the path of a text where the root is one, and shows the flaws of the
root. -/
theorem Handle.file_ofText
    {handle : Handle}
    (wellFormed : TaskId.isWellFormed handle.id = true)
    {name : Text}
    (plain : Path.IsName (Utf8.encode name))
    (noQuote : '\'' ∉ name)
    (noLineFeed : '\n' ∉ name)
    (text : Text) :
    ∃ own, handle.file ⟨Path.ofText text⟩ name = Path.ofText own ∧
      ∀ flaw : Flaw, flaw.isIn none own = flaw.isIn none text := by
  obtain ⟨isText, flaws⟩ := Workspace.tasksDirectory_ofText text
  obtain ⟨own, written⟩ : (handle.file ⟨Path.ofText text⟩ name).IsText :=
    (isText.join ⟨handle.id, rfl⟩).join ⟨name, rfl⟩
  refine ⟨own, written, ?_⟩
  intro flaw
  have idFlawless : flaw.isIn none handle.id = false := by
    apply Flaw.isIn_eq_false
    · exact TaskId.not_mem_of_isWellFormed wellFormed (by decide) (by decide)
    · exact TaskId.not_mem_of_isWellFormed wellFormed (by decide) (by decide)
  rw [Flaw.isIn_location, ← written, location_file wellFormed plain, Workspace.placeOfFile,
    Workspace.placeOf, List.any_append, List.any_append, flaws]
  simp only [List.any_cons, List.any_nil, Bool.or_false, Flaw.isInComponent_name, idFlawless,
    Flaw.isIn_eq_false noQuote noLineFeed]

end DetachedTasks
