import DetachedTasks.LiveLog
import DetachedTasks.Proofs.WellFormedBytes
import Mathlib.Data.List.DropRight

/-!
# Lines of a stream that arrives in chunks

A stream is relayed line by line while it arrives, and every line is decoded by itself.  What
is relayed is nevertheless a matter of the whole stream alone: an ASCII byte continues no
sequence, so decoding goes in step with cutting behind line feeds, wherever the chunks were
cut.  `LiveLog.relayed_eq_linesOf` compares the relay with a reading of the decoded stream as
a whole.
-/

namespace DetachedTasks

open LiveLog (lineFeed)

namespace Utf8

/-! ### Decoding across an ASCII byte -/

/-- An ASCII byte does not continue a sequence. -/
theorem isContinuation_of_ascii
    {octet : UInt8}
    (ascii : octet < 0x80) :
    isContinuation octet = false := by
  simp only [isContinuation, Bool.and_eq_false_iff, decide_eq_false_iff_not, UInt8.not_le]
  exact .inl ascii

/-- An ASCII byte does not stand second in a sequence. -/
theorem mayFollow_of_ascii
    (lead : UInt8)
    {octet : UInt8}
    (ascii : octet < 0x80) :
    mayFollow lead octet = false := by
  have apart := isContinuation_of_ascii ascii
  simp only [UInt8.lt_iff_toNat_lt, UInt8.reduceToNat] at ascii
  simp only [mayFollow, apart, UInt8.le_iff_toNat_le, UInt8.reduceToNat]
  split_ifs
  · simp; omega
  · simp; omega
  · simp; omega
  · simp; omega
  · rfl

/-- An ASCII byte ends whatever sequence is open before it, so lossy decoding may begin afresh
with it. -/
theorem decodeLossy_append_of_ascii
    (first : Bytes)
    {octet : UInt8}
    (ascii : octet < 0x80)
    (rest : Bytes) :
    decodeLossy (first ++ octet :: rest) =
      decodeLossy first ++ decodeLossy (octet :: rest) := by
  have second := fun lead => mayFollow_of_ascii lead ascii
  have later := isContinuation_of_ascii ascii
  unfold decodeLossy
  -- One case for each way in which a sequence goes on or stops.  Only a sequence that the end
  -- of `first` cuts short looks at the byte behind it, and this byte stops it as well.
  fun_induction pieces first
  all_goals try simp only [List.cons_append, List.nil_append, List.map_cons, List.map_nil]
  all_goals try rw [pieces.eq_def]
  all_goals simp_all [Piece.shown]

/-! ### Where a decoded text has its line feeds -/

theorem replacement_ne_lineFeed : replacement ≠ '\n' := by decide

/-- Without the byte of a line feed no piece shows as one. -/
theorem shown_ne_lineFeed
    {bytes : Bytes}
    (absent : lineFeed ∉ bytes) :
    ∀ piece ∈ pieces bytes, piece.shown ≠ '\n' := by
  intro piece member isLineFeed
  cases piece with
  | malformed octets incomplete => exact replacement_ne_lineFeed isLineFeed
  | scalar character =>
      -- A line feed is written with its own byte, and no byte is lost in the pieces.
      have same : character = '\n' := isLineFeed
      have written : lineFeed ∈ (Piece.scalar character).octets := by
        rw [same]
        decide
      have inBytes := List.mem_flatMap.mpr ⟨_, member, written⟩
      rw [flatMap_octets_pieces] at inBytes
      exact absent inBytes

/-- Without the byte of a line feed there is none in the decoded text. -/
theorem lineFeed_not_mem_decodeLossy
    {bytes : Bytes}
    (absent : lineFeed ∉ bytes) :
    '\n' ∉ decodeLossy bytes := by
  intro member
  obtain ⟨piece, isPiece, same⟩ := List.mem_map.mp member
  exact shown_ne_lineFeed absent piece isPiece same

/-- Decoding goes in step with cutting behind a line feed. -/
theorem decodeLossy_lineFeed
    (first rest : Bytes) :
    decodeLossy (first ++ lineFeed :: rest) =
      decodeLossy first ++ '\n' :: decodeLossy rest := by
  have ascii : lineFeed < 0x80 := by decide
  have announced : announcedLength lineFeed = 1 := by decide
  rw [decodeLossy_append_of_ascii first ascii, decodeLossy, decodeLossy, decodeLossy,
    pieces_cons_one announced]
  rfl

end Utf8

namespace LiveLog

/-! ### The stream as a whole -/

/-- A stretch of bytes as complete lines and the line that is still open behind them. -/
structure Divides
    (bytes : Bytes)
    (complete : List Bytes)
    (unfinished : Bytes) : Prop where
  /-- Every byte belongs to exactly one of the lines. -/
  whole : complete.flatten ++ unfinished = bytes
  /-- A complete line ends with its only line feed. -/
  ended : ∀ line ∈ complete, ∃ body, lineFeed ∉ body ∧ line = body ++ [lineFeed]
  /-- The open line has no line feed yet. -/
  notEnded : lineFeed ∉ unfinished

/-- Cut a text behind every line feed; the last piece is what follows the last of them. -/
def cutBehind : Text → List Text
  | [] => [[]]
  | character :: rest =>
      if character = '\n' then
        ['\n'] :: cutBehind rest
      else
        match cutBehind rest with
        | [] => [[character]]
        | line :: lines => (character :: line) :: lines

/-- A line without the carriage returns and line feeds at its end. -/
def withoutLineEnd (line : Text) : Text :=
  line.rdropWhile fun character => character = '\r' ∨ character = '\n'

/-- The lines of a stream whose whole text is known: the last piece counts only if there is
something in it and the stream did not break off, and no line keeps its line end. -/
def linesOf
    (text : Text)
    (ending : Ending) : List Text :=
  let pieces := cutBehind text
  let kept :=
    if ending = .broken ∨ pieces.getLast? = some [] then pieces.dropLast else pieces
  kept.map withoutLineEnd

/-- What is relayed of complete lines and of the open one behind them. -/
def linesIn
    (complete : List Bytes)
    (unfinished : Bytes)
    (ending : Ending) : List Text :=
  match ending with
  | .broken => complete.map shown
  | .closed => (if unfinished = [] then complete else complete ++ [unfinished]).map shown

/-! ### Cutting texts -/

theorem cutBehind_of_not_mem
    {text : Text}
    (absent : '\n' ∉ text) :
    cutBehind text = [text] := by
  induction text with
  | nil => rfl
  | cons character rest inductionHypothesis =>
      simp only [List.mem_cons, not_or] at absent
      rw [cutBehind, if_neg (Ne.symm absent.1), inductionHypothesis absent.2]

/-- The first line feed ends the first piece. -/
theorem cutBehind_append
    {line : Text}
    (absent : '\n' ∉ line)
    (rest : Text) :
    cutBehind (line ++ '\n' :: rest) = (line ++ ['\n']) :: cutBehind rest := by
  induction line with
  | nil => rw [List.nil_append, cutBehind, if_pos rfl, List.nil_append]
  | cons character line inductionHypothesis =>
      simp only [List.mem_cons, not_or] at absent
      rw [List.cons_append, cutBehind, if_neg (Ne.symm absent.1),
        inductionHypothesis absent.2, List.cons_append]

/-- The pieces of a decoded stream are its decoded lines. -/
theorem cutBehind_decodeLossy
    {bytes : Bytes}
    {complete : List Bytes}
    {unfinished : Bytes}
    (divides : Divides bytes complete unfinished) :
    cutBehind (Utf8.decodeLossy bytes) =
      complete.map Utf8.decodeLossy ++ [Utf8.decodeLossy unfinished] := by
  induction complete generalizing bytes with
  | nil =>
      rw [← divides.whole]
      exact cutBehind_of_not_mem (Utf8.lineFeed_not_mem_decodeLossy divides.notEnded)
  | cons line complete inductionHypothesis =>
      obtain ⟨body, absent, isLine⟩ := divides.ended line List.mem_cons_self
      have rest : Divides (complete.flatten ++ unfinished) complete unfinished :=
        { whole := rfl
          ended := fun other member => divides.ended other (List.mem_cons_of_mem _ member)
          notEnded := divides.notEnded }
      have cutLine : bytes = body ++ lineFeed :: (complete.flatten ++ unfinished) := by
        rw [← divides.whole, isLine]
        simp
      have decoded : Utf8.decodeLossy line = Utf8.decodeLossy body ++ ['\n'] := by
        rw [isLine, Utf8.decodeLossy_lineFeed]
        rfl
      rw [cutLine, Utf8.decodeLossy_lineFeed,
        cutBehind_append (Utf8.lineFeed_not_mem_decodeLossy absent),
        inductionHypothesis rest, List.map_cons, decoded, List.cons_append]

/-! ### Cutting bytes -/

/-- Cutting divides what was pending and what came after it. -/
theorem divides_cut
    {pending : Bytes}
    (notEnded : lineFeed ∉ pending)
    (bytes : Bytes) :
    Divides (pending.reverse ++ bytes) (cut pending bytes).1
      (cut pending bytes).2.reverse := by
  induction bytes generalizing pending with
  | nil =>
      exact
        { whole := by simp [cut]
          ended := by simp [cut]
          notEnded := by simpa [cut] using notEnded }
  | cons octet rest inductionHypothesis =>
      rw [cut]
      by_cases isEnd : octet = lineFeed
      · have none : lineFeed ∉ ([] : Bytes) := List.not_mem_nil
        have behind := inductionHypothesis none
        rw [if_pos isEnd]
        refine ⟨?_, ?_, behind.notEnded⟩
        · have whole := behind.whole
          rw [List.reverse_nil, List.nil_append] at whole
          simp [whole]
        · intro line member
          rcases List.mem_cons.mp member with isFirst | isLater
          · refine ⟨pending.reverse, by simpa using notEnded, ?_⟩
            rw [isFirst, List.reverse_cons, isEnd]
          · exact behind.ended line isLater
      · have goesOn : lineFeed ∉ octet :: pending := by
          simp only [List.mem_cons, not_or]
          exact ⟨Ne.symm isEnd, notEnded⟩
        have behind := inductionHypothesis goesOn
        rw [if_neg isEnd]
        exact { behind with whole := by simpa using behind.whole }

theorem decodeLossy_eq_nil_iff
    {bytes : Bytes} :
    Utf8.decodeLossy bytes = [] ↔ bytes = [] := by
  rw [Utf8.decodeLossy, List.map_eq_nil_iff]
  fun_cases Utf8.pieces bytes <;> simp

/-- What the live log shows of a line is its text without the line end. -/
theorem withoutLineEnd_decodeLossy :
    withoutLineEnd ∘ Utf8.decodeLossy = shown := by
  funext line
  have same :
      (fun character : Char => decide (character = '\r' ∨ character = '\n')) =
        isLineEnd := by
    funext character
    rw [isLineEnd, Bool.decide_or, Bool.or_comm]
    rfl
  rw [Function.comp_apply, withoutLineEnd, same]
  rfl

/-- The lines of a decoded stream are its own lines, each decoded by itself. -/
theorem linesOf_decodeLossy
    {bytes : Bytes}
    {complete : List Bytes}
    {unfinished : Bytes}
    (divides : Divides bytes complete unfinished)
    (ending : Ending) :
    linesOf (Utf8.decodeLossy bytes) ending = linesIn complete unfinished ending := by
  simp only [linesOf, cutBehind_decodeLossy divides, List.getLast?_concat,
    List.dropLast_concat, Option.some.injEq, decodeLossy_eq_nil_iff, linesIn,
    ← withoutLineEnd_decodeLossy]
  cases ending with
  | broken => simp
  | closed =>
      by_cases nothing : unfinished = []
      · simp [nothing]
      · simp [nothing]

/-- What is relayed is found by dividing the whole stream. -/
theorem relayed_eq_linesIn
    (chunks : List Bytes)
    (ending : Ending) :
    relayed chunks ending =
      linesIn (cut [] chunks.flatten).1 (cut [] chunks.flatten).2.reverse ending := by
  rw [relayed, readChunks_eq_flatten]
  simp only [readChunks]
  generalize cut [] chunks.flatten = found
  cases ending with
  | broken => simp [linesIn]
  | closed =>
      by_cases nothing : found.2 = []
      · simp [linesIn, nothing]
      · simp [linesIn, nothing]

/-- What is relayed depends on the bytes of a stream and not on the chunks in which they
arrive: it is the lines of the whole text.  A stream that is closed is relayed to its last
byte, and of a stream that breaks off exactly the complete lines are. -/
theorem relayed_eq_linesOf
    (chunks : List Bytes)
    (ending : Ending) :
    relayed chunks ending = linesOf (Utf8.decodeLossy chunks.flatten) ending ∧
      ∃ complete unfinished,
        Divides chunks.flatten complete unfinished ∧
          relayed chunks ending = linesIn complete unfinished ending := by
  have none : lineFeed ∉ ([] : Bytes) := List.not_mem_nil
  have divides := divides_cut none chunks.flatten
  rw [List.reverse_nil, List.nil_append] at divides
  have relays := relayed_eq_linesIn chunks ending
  refine ⟨?_, _, _, divides, relays⟩
  rw [relays, linesOf_decodeLossy divides]

-- The chunks part a character and a line end, and the last byte is no character at all.
example :
    relayed [[0x61, 0xC3], [0xA4, 0x0D], [0x0A, 0x62, 0xFF]] .closed =
      ["a\u00e4".toList, "b\ufffd".toList] := by
  rfl

end LiveLog

end DetachedTasks
