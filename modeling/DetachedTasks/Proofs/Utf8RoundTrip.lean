import DetachedTasks.Text.Utf8
import Mathlib.Tactic.Common

/-!
# Reading encoded text

`Utf8.encode` writes every character as one well-formed sequence, and `Utf8.pieces` cuts a
byte string back into exactly these sequences, whatever follows them.  So lossy decoding gives
encoded text back unchanged.

The sequences are compared by the numbers of their bytes: each length of a sequence has one
equation of `pieces`, and the arithmetic on the payload bits is left to linear arithmetic.
-/

namespace DetachedTasks.Utf8

/-! ### Bytes by their numbers -/

/-- A number below 256 is kept by the byte made from it. -/
theorem toNat_octet
    {number : Nat}
    (small : number < 256) :
    (UInt8.ofNat number).toNat = number := by
  rw [UInt8.toNat_ofNat']
  exact Nat.mod_eq_of_lt small

/-- The announced length, by the number of the lead byte. -/
theorem announcedLength_ofNat
    {number : Nat}
    (small : number < 256) :
    announcedLength (UInt8.ofNat number) =
      if number < 0x80 then 1
      else if number < 0xC2 then 0
      else if number < 0xE0 then 2
      else if number < 0xF0 then 3
      else if number < 0xF5 then 4
      else 0 := by
  simp only [announcedLength, UInt8.lt_iff_toNat_lt, toNat_octet small]
  rfl

/-- Numbers from 128 to 191 make continuation bytes. -/
theorem isContinuation_ofNat
    {number : Nat}
    (low : 0x80 ≤ number)
    (high : number ≤ 0xBF) :
    isContinuation (UInt8.ofNat number) = true := by
  have small : number < 256 := by omega
  simp only [isContinuation, UInt8.le_iff_toNat_le, toNat_octet small, Bool.and_eq_true,
    decide_eq_true_eq]
  exact ⟨low, high⟩

/-- Which numbers may stand second behind a first one. -/
theorem mayFollow_ofNat
    {first second : Nat}
    (firstSmall : first < 256)
    (low : 0x80 ≤ second)
    (high : second ≤ 0xBF)
    (notOverlong : first = 0xE0 → 0xA0 ≤ second)
    (noSurrogate : first = 0xED → second ≤ 0x9F)
    (notShort : first = 0xF0 → 0x90 ≤ second)
    (inRange : first = 0xF4 → second ≤ 0x8F) :
    mayFollow (UInt8.ofNat first) (UInt8.ofNat second) = true := by
  have small : second < 256 := by omega
  simp only [mayFollow, ← UInt8.toNat_inj, UInt8.le_iff_toNat_le, toNat_octet firstSmall,
    toNat_octet small, isContinuation]
  simp only [UInt8.reduceToNat]
  split
  · simp; omega
  · split
    · simp; omega
    · split
      · simp; omega
      · split
        · simp; omega
        · simp; omega


/-! ### One well-formed sequence -/

/-- A lead byte below 128 is a scalar value of its own. -/
theorem pieces_cons_one
    {a : UInt8}
    (announced : announcedLength a = 1)
    (rest : Bytes) :
    pieces (a :: rest) = .scalar (Char.ofNat a.toNat) :: pieces rest := by
  rw [pieces.eq_def]
  simp only [announced]

/-- A lead byte of a pair and its second byte are one scalar value. -/
theorem pieces_cons_two
    {a b : UInt8}
    (announced : announcedLength a = 2)
    (follows : mayFollow a b = true)
    (rest : Bytes) :
    pieces (a :: b :: rest) = .scalar (scalarOfTwo a b) :: pieces rest := by
  rw [pieces.eq_def]
  simp only [announced, follows, if_true]

/-- Three bytes that belong together are one scalar value. -/
theorem pieces_cons_three
    {a b c : UInt8}
    (announced : announcedLength a = 3)
    (follows : mayFollow a b = true)
    (third : isContinuation c = true)
    (rest : Bytes) :
    pieces (a :: b :: c :: rest) = .scalar (scalarOfThree a b c) :: pieces rest := by
  rw [pieces.eq_def]
  simp only [announced, follows, third, if_true]

/-- Four bytes that belong together are one scalar value. -/
theorem pieces_cons_four
    {a b c d : UInt8}
    (announced : announcedLength a = 4)
    (follows : mayFollow a b = true)
    (third : isContinuation c = true)
    (fourth : isContinuation d = true)
    (rest : Bytes) :
    pieces (a :: b :: c :: d :: rest) =
      .scalar (scalarOfFour a b c d) :: pieces rest := by
  rw [pieces.eq_def]
  simp only [announced, follows, third, fourth, if_true]

/-- The number of a character is no surrogate and at most U+10FFFF. -/
theorem toNat_scalar (character : Char) :
    character.val.toNat < 0xD800 ∨
      (0xDFFF < character.val.toNat ∧ character.val.toNat < 0x110000) := by
  exact character.valid

/-- The character of a number is found again by its number. -/
theorem eq_ofNat_of_toNat_eq
    {character : Char}
    {number : Nat}
    (same : number = character.val.toNat) :
    Char.ofNat number = character := by
  rw [same]
  exact Char.ofNat_toNat character

/-- The bytes of one character are read as this character. -/
theorem pieces_encodeChar
    (character : Char)
    (rest : Bytes) :
    pieces (String.utf8EncodeChar character ++ rest) =
      .scalar character :: pieces rest := by
  have valid := toNat_scalar character
  simp only [String.utf8EncodeChar]
  generalize number : character.val.toNat = code at valid
  split
  · rw [List.singleton_append, pieces_cons_one]
    · rw [toNat_octet (by omega), eq_ofNat_of_toNat_eq number.symm]
    · rw [announcedLength_ofNat (by omega), if_pos (by omega)]
  · split
    · have value : scalarOfTwo (UInt8.ofNat (code / 64 % 32 + 192))
          (UInt8.ofNat (code % 64 + 128)) = character := by
        rw [scalarOfTwo, payload, toNat_octet (by omega), toNat_octet (by omega)]
        exact eq_ofNat_of_toNat_eq (by omega)
      simp only [List.cons_append, List.nil_append]
      rw [pieces_cons_two, value]
      · rw [announcedLength_ofNat (by omega)]
        split_ifs <;> omega
      · exact mayFollow_ofNat (by omega) (by omega) (by omega) (by omega) (by omega)
          (by omega) (by omega)
    · split
      · have value : scalarOfThree (UInt8.ofNat (code / 4096 % 16 + 224))
            (UInt8.ofNat (code / 64 % 64 + 128)) (UInt8.ofNat (code % 64 + 128)) =
              character := by
          rw [scalarOfThree, payload, payload, toNat_octet (by omega),
            toNat_octet (by omega), toNat_octet (by omega)]
          exact eq_ofNat_of_toNat_eq (by omega)
        simp only [List.cons_append, List.nil_append]
        rw [pieces_cons_three, value]
        · rw [announcedLength_ofNat (by omega)]
          split_ifs <;> omega
        · exact mayFollow_ofNat (by omega) (by omega) (by omega) (by omega) (by omega)
            (by omega) (by omega)
        · exact isContinuation_ofNat (by omega) (by omega)
      · have value : scalarOfFour (UInt8.ofNat (code / 262144 % 8 + 240))
            (UInt8.ofNat (code / 4096 % 64 + 128)) (UInt8.ofNat (code / 64 % 64 + 128))
            (UInt8.ofNat (code % 64 + 128)) = character := by
          rw [scalarOfFour, payload, payload, payload, toNat_octet (by omega),
            toNat_octet (by omega), toNat_octet (by omega), toNat_octet (by omega)]
          exact eq_ofNat_of_toNat_eq (by omega)
        simp only [List.cons_append, List.nil_append]
        rw [pieces_cons_four, value]
        · rw [announcedLength_ofNat (by omega)]
          split_ifs <;> omega
        · exact mayFollow_ofNat (by omega) (by omega) (by omega) (by omega) (by omega)
            (by omega) (by omega)
        · exact isContinuation_ofNat (by omega) (by omega)
        · exact isContinuation_ofNat (by omega) (by omega)

/-! ### Whole texts -/

theorem encode_cons
    (character : Char)
    (text : Text) :
    encode (character :: text) = String.utf8EncodeChar character ++ encode text := rfl

theorem encode_append (first second : Text) :
    encode (first ++ second) = encode first ++ encode second :=
  List.flatMap_append

/-- Encoded text is read as its own characters, whatever follows. -/
theorem pieces_encode_append
    (text : Text)
    (rest : Bytes) :
    pieces (encode text ++ rest) = text.map Piece.scalar ++ pieces rest := by
  induction text with
  | nil => rfl
  | cons character text inductionHypothesis =>
      rw [encode_cons, List.append_assoc, pieces_encodeChar, inductionHypothesis]
      rfl

/-- Encoded text is read as its own characters. -/
theorem pieces_encode (text : Text) :
    pieces (encode text) = text.map Piece.scalar := by
  have whole := pieces_encode_append text []
  rwa [List.append_nil, pieces, List.append_nil] at whole

/-- Lossy decoding gives encoded text back. -/
theorem decodeLossy_encode (text : Text) :
    decodeLossy (encode text) = text := by
  rw [decodeLossy, pieces_encode, List.map_map]
  exact List.map_id text

theorem firstFaultFrom?_scalars
    (position : Nat)
    (text : Text) :
    firstFaultFrom? position (text.map Piece.scalar) = none := by
  induction text generalizing position with
  | nil => rfl
  | cons character text inductionHypothesis => exact inductionHypothesis _

/-- There is no fault in encoded text. -/
theorem firstFault?_encode (text : Text) :
    firstFault? (encode text) = none := by
  rw [firstFault?, pieces_encode]
  exact firstFaultFrom?_scalars 0 text

theorem mapM_scalars (text : Text) :
    (text.map Piece.scalar).mapM Piece.scalar? = some text := by
  induction text with
  | nil => rfl
  | cons character text inductionHypothesis =>
      rw [List.map_cons, List.mapM_cons, inductionHypothesis]
      rfl

/-- Strict decoding gives encoded text back as well. -/
theorem decode?_encode (text : Text) :
    decode? (encode text) = some text := by
  rw [decode?, pieces_encode]
  exact mapM_scalars text

theorem encode_injective : Function.Injective encode :=
  Function.LeftInverse.injective decodeLossy_encode

/-! ### ASCII -/

/-- The byte of a character below 128. -/
def asciiByte (character : Char) : UInt8 :=
  UInt8.ofNat character.toNat

/-- A text of characters below 128 has one byte for each of them. -/
theorem encode_of_ascii
    {text : Text}
    (ascii : ∀ character ∈ text, character.toNat < 0x80) :
    encode text = text.map asciiByte := by
  induction text with
  | nil => rfl
  | cons character text inductionHypothesis =>
      have small : character.val.toNat ≤ 0x7F :=
        Nat.le_of_lt_succ (ascii character List.mem_cons_self)
      have one : String.utf8EncodeChar character = [asciiByte character] := by
        rw [String.utf8EncodeChar, if_pos small]
        rfl
      rw [encode_cons, one,
        inductionHypothesis fun other member => ascii other (List.mem_cons_of_mem _ member)]
      rfl

/-- The first bytes of such a text are the bytes of its first characters. -/
theorem take_encode_of_ascii
    {text : Text}
    (ascii : ∀ character ∈ text, character.toNat < 0x80)
    (count : Nat) :
    (encode text).take count = encode (text.take count) := by
  rw [encode_of_ascii ascii, ← List.map_take, encode_of_ascii]
  intro character member
  exact ascii character (List.mem_of_mem_take member)

end DetachedTasks.Utf8
