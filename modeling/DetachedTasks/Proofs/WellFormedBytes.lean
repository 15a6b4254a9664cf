import DetachedTasks.Proofs.Utf8RoundTrip

/-!
# Well-formed byte strings

Every piece that a byte string is cut into is written with the bytes it was read from, so
nothing of a byte string is lost in its pieces.  The bounds that a first and a second byte keep
to are just those of the shortest form of a scalar value.  Hence the byte strings that strict
decoding accepts are the encoded texts and no others.
-/

namespace DetachedTasks.Utf8

/-! ### Bounds of the bytes -/

/-- Which first bytes announce which lengths. -/
theorem announcedLength_cases (lead : UInt8) :
    (announcedLength lead = 1 ∧ lead.toNat < 0x80) ∨
      (announcedLength lead = 2 ∧ 0xC2 ≤ lead.toNat ∧ lead.toNat < 0xE0) ∨
      (announcedLength lead = 3 ∧ 0xE0 ≤ lead.toNat ∧ lead.toNat < 0xF0) ∨
      (announcedLength lead = 4 ∧ 0xF0 ≤ lead.toNat ∧ lead.toNat < 0xF5) ∨
      announcedLength lead = 0 := by
  simp only [announcedLength, UInt8.lt_iff_toNat_lt, UInt8.reduceToNat]
  split_ifs <;> omega

theorem bounds_of_isContinuation
    {octet : UInt8}
    (continues : isContinuation octet = true) :
    0x80 ≤ octet.toNat ∧ octet.toNat ≤ 0xBF := by
  simpa [isContinuation, UInt8.le_iff_toNat_le] using continues

/-- Overlong forms, surrogates and numbers that are too large are kept out by the second byte. -/
theorem bounds_of_mayFollow
    {lead second : UInt8}
    (follows : mayFollow lead second = true) :
    (0x80 ≤ second.toNat ∧ second.toNat ≤ 0xBF) ∧
      (lead.toNat = 0xE0 → 0xA0 ≤ second.toNat) ∧
      (lead.toNat = 0xED → second.toNat ≤ 0x9F) ∧
      (lead.toNat = 0xF0 → 0x90 ≤ second.toNat) ∧
      (lead.toNat = 0xF4 → second.toNat ≤ 0x8F) := by
  simp only [mayFollow, isContinuation, UInt8.le_iff_toNat_le, ← UInt8.toNat_inj,
    UInt8.reduceToNat] at follows
  split_ifs at follows <;>
    simp only [Bool.and_eq_true, decide_eq_true_eq] at follows <;> omega

/-! ### One sequence, written again -/

/-- A number that is no surrogate and at most U+10FFFF is found again by its character. -/
theorem toNat_ofNat_of_scalar
    {number : Nat}
    (scalar : number < 0xD800 ∨ (0xDFFF < number ∧ number < 0x110000)) :
    (Char.ofNat number).val.toNat = number := by
  have valid : number.isValidChar := scalar
  rw [Char.ofNat, dif_pos valid]
  rfl

/-- A byte is the one made from its number. -/
theorem ofNat_eq_of_toNat
    (octet : UInt8)
    {number : Nat}
    (same : number = octet.toNat) :
    UInt8.ofNat number = octet := by
  rw [same, UInt8.ofNat_toNat]

theorem encodeChar_scalarOfOne
    {a : UInt8}
    (announced : announcedLength a = 1) :
    String.utf8EncodeChar (Char.ofNat a.toNat) = [a] := by
  have lead := announcedLength_cases a
  rw [String.utf8EncodeChar, toNat_ofNat_of_scalar (by omega)]
  rw [if_pos (by omega), ofNat_eq_of_toNat a rfl]

theorem encodeChar_scalarOfTwo
    {a b : UInt8}
    (announced : announcedLength a = 2)
    (follows : mayFollow a b = true) :
    String.utf8EncodeChar (scalarOfTwo a b) = [a, b] := by
  have lead := announcedLength_cases a
  have second := bounds_of_mayFollow follows
  rw [String.utf8EncodeChar, scalarOfTwo, payload, toNat_ofNat_of_scalar (by omega)]
  rw [if_neg (by omega), if_pos (by omega), ofNat_eq_of_toNat a (by omega),
    ofNat_eq_of_toNat b (by omega)]

theorem encodeChar_scalarOfThree
    {a b c : UInt8}
    (announced : announcedLength a = 3)
    (follows : mayFollow a b = true)
    (third : isContinuation c = true) :
    String.utf8EncodeChar (scalarOfThree a b c) = [a, b, c] := by
  have lead := announcedLength_cases a
  have second := bounds_of_mayFollow follows
  have last := bounds_of_isContinuation third
  rw [String.utf8EncodeChar, scalarOfThree, payload, payload,
    toNat_ofNat_of_scalar (by omega)]
  rw [if_neg (by omega), if_neg (by omega), if_pos (by omega),
    ofNat_eq_of_toNat a (by omega), ofNat_eq_of_toNat b (by omega),
    ofNat_eq_of_toNat c (by omega)]

theorem encodeChar_scalarOfFour
    {a b c d : UInt8}
    (announced : announcedLength a = 4)
    (follows : mayFollow a b = true)
    (third : isContinuation c = true)
    (fourth : isContinuation d = true) :
    String.utf8EncodeChar (scalarOfFour a b c d) = [a, b, c, d] := by
  have lead := announcedLength_cases a
  have second := bounds_of_mayFollow follows
  have next := bounds_of_isContinuation third
  have last := bounds_of_isContinuation fourth
  rw [String.utf8EncodeChar, scalarOfFour, payload, payload, payload,
    toNat_ofNat_of_scalar (by omega)]
  rw [if_neg (by omega), if_neg (by omega), if_neg (by omega),
    ofNat_eq_of_toNat a (by omega), ofNat_eq_of_toNat b (by omega),
    ofNat_eq_of_toNat c (by omega), ofNat_eq_of_toNat d (by omega)]

/-! ### Nothing is lost in the pieces -/

/-- The bytes that a piece was read from. -/
def Piece.octets : Piece → Bytes
  | .scalar character => String.utf8EncodeChar character
  | .malformed octets _ => octets

/-- The pieces of a byte string, one after another, are the byte string. -/
theorem flatMap_octets_pieces (bytes : Bytes) :
    (pieces bytes).flatMap Piece.octets = bytes := by
  fun_induction pieces bytes with
  | case1 => rfl
  | case2 a rest announced inductionHypothesis =>
      rw [List.flatMap_cons, Piece.octets, encodeChar_scalarOfOne announced,
        inductionHypothesis]
      rfl
  | case4 a announced b rest follows inductionHypothesis =>
      rw [List.flatMap_cons, Piece.octets, encodeChar_scalarOfTwo announced follows,
        inductionHypothesis]
      rfl
  | case8 a announced b follows c rest third inductionHypothesis =>
      rw [List.flatMap_cons, Piece.octets, encodeChar_scalarOfThree announced follows third,
        inductionHypothesis]
      rfl
  | case14 a announced b follows c third d rest fourth inductionHypothesis =>
      rw [List.flatMap_cons, Piece.octets,
        encodeChar_scalarOfFour announced follows third fourth, inductionHypothesis]
      rfl
  | _ =>
      -- A malformed stretch holds its own bytes.
      simp_all [Piece.octets]

theorem mapM_scalar?_eq_some_iff
    {pieces : List Piece}
    {text : Text} :
    pieces.mapM Piece.scalar? = some text ↔ pieces = text.map Piece.scalar := by
  constructor
  · intro read
    induction pieces generalizing text with
    | nil =>
        cases read
        rfl
    | cons piece rest inductionHypothesis =>
        rw [List.mapM_cons] at read
        obtain ⟨character, isScalar, read⟩ := Option.bind_eq_some_iff.mp read
        obtain ⟨others, isRest, read⟩ := Option.bind_eq_some_iff.mp read
        cases read
        rw [inductionHypothesis isRest, List.map_cons]
        cases piece with
        | scalar own =>
            cases isScalar
            rfl
        | malformed octets cutShort => cases isScalar
  · rintro rfl
    exact mapM_scalars text

/-- The well-formed byte strings are the encoded texts. -/
theorem decode?_eq_some_iff
    {bytes : Bytes}
    {text : Text} :
    decode? bytes = some text ↔ bytes = encode text := by
  constructor
  · intro read
    have scalars := mapM_scalar?_eq_some_iff.mp read
    have whole := flatMap_octets_pieces bytes
    rw [scalars, List.flatMap_map] at whole
    exact whole.symm
  · rintro rfl
    exact decode?_encode text

end DetachedTasks.Utf8
