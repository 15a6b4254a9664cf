import DetachedTasks.Text.Basic

/-!
# UTF-8

`Utf8.encode` writes text as bytes.  Reading is total: `Utf8.pieces` cuts any byte string
into scalar values and malformed stretches, each malformed stretch being the longest start
of a sequence that can be extended to a well-formed one.  Lossy and strict decoding are two
readings of the same pieces.
-/

namespace DetachedTasks.Utf8

/-- The UTF-8 bytes of a text. -/
def encode (text : Text) : Bytes :=
  text.flatMap String.utf8EncodeChar

/-- One piece of a byte string that is read as UTF-8. -/
inductive Piece where
  /-- A well-formed sequence. -/
  | scalar (character : Char)
  /-- A malformed stretch; `cutShort` tells that only the end of the input stopped it. -/
  | malformed (octets : Bytes) (cutShort : Bool)
  deriving Repr, DecidableEq

/-- The number of bytes that a first byte announces; zero if no sequence starts so. -/
def announcedLength (lead : UInt8) : Nat :=
  if lead < 0x80 then 1
  else if lead < 0xC2 then 0
  else if lead < 0xE0 then 2
  else if lead < 0xF0 then 3
  else if lead < 0xF5 then 4
  else 0

/-- A byte of the form `10xxxxxx`. -/
def isContinuation (octet : UInt8) : Bool :=
  0x80 ≤ octet && octet ≤ 0xBF

/-- Whether a byte may stand second behind a first byte; this is where overlong forms,
surrogates and numbers beyond U+10FFFF are refused. -/
def mayFollow
    (lead second : UInt8) : Bool :=
  if lead = 0xE0 then 0xA0 ≤ second && second ≤ 0xBF
  else if lead = 0xED then 0x80 ≤ second && second ≤ 0x9F
  else if lead = 0xF0 then 0x90 ≤ second && second ≤ 0xBF
  else if lead = 0xF4 then 0x80 ≤ second && second ≤ 0x8F
  else isContinuation second

/-- The six payload bits of a continuation byte. -/
def payload (octet : UInt8) : Nat :=
  octet.toNat % 64

/-- The scalar value of a two byte sequence. -/
def scalarOfTwo (a b : UInt8) : Char :=
  Char.ofNat (a.toNat % 32 * 64 + payload b)

/-- The scalar value of a three byte sequence. -/
def scalarOfThree (a b c : UInt8) : Char :=
  Char.ofNat (a.toNat % 16 * 4096 + payload b * 64 + payload c)

/-- The scalar value of a four byte sequence. -/
def scalarOfFour (a b c d : UInt8) : Char :=
  Char.ofNat
    (a.toNat % 8 * 262144 + payload b * 4096 + payload c * 64 + payload d)

/-- A byte string as scalar values and malformed stretches, in order. -/
def pieces : Bytes → List Piece
  | [] => []
  | a :: rest =>
      match announcedLength a with
      | 1 => .scalar (Char.ofNat a.toNat) :: pieces rest
      | 2 =>
          match rest with
          | [] => [.malformed [a] true]
          | b :: afterTwo =>
              if mayFollow a b then
                .scalar (scalarOfTwo a b) :: pieces afterTwo
              else
                .malformed [a] false :: pieces (b :: afterTwo)
      | 3 =>
          match rest with
          | [] => [.malformed [a] true]
          | b :: afterTwo =>
              if mayFollow a b then
                match afterTwo with
                | [] => [.malformed [a, b] true]
                | c :: afterThree =>
                    if isContinuation c then
                      .scalar (scalarOfThree a b c) :: pieces afterThree
                    else
                      .malformed [a, b] false :: pieces (c :: afterThree)
              else
                .malformed [a] false :: pieces (b :: afterTwo)
      | 4 =>
          match rest with
          | [] => [.malformed [a] true]
          | b :: afterTwo =>
              if mayFollow a b then
                match afterTwo with
                | [] => [.malformed [a, b] true]
                | c :: afterThree =>
                    if isContinuation c then
                      match afterThree with
                      | [] => [.malformed [a, b, c] true]
                      | d :: afterFour =>
                          if isContinuation d then
                            .scalar (scalarOfFour a b c d) :: pieces afterFour
                          else
                            .malformed [a, b, c] false :: pieces (d :: afterFour)
                    else
                      .malformed [a, b] false :: pieces (c :: afterThree)
              else
                .malformed [a] false :: pieces (b :: afterTwo)
      | _ => .malformed [a] false :: pieces rest

/-- The character that stands for a malformed stretch. -/
def replacement : Char := '\uFFFD'

/-- The character that a piece shows as. -/
def Piece.shown : Piece → Char
  | .scalar character => character
  | .malformed _ _ => replacement

/-- The character of a well-formed piece. -/
def Piece.scalar? : Piece → Option Char
  | .scalar character => some character
  | .malformed _ _ => none

/-- The text of a byte string, with U+FFFD for every malformed stretch. -/
def decodeLossy (bytes : Bytes) : Text :=
  (pieces bytes).map Piece.shown

/-- The text of a byte string, if it is well-formed UTF-8. -/
def decode? (bytes : Bytes) : Option Text :=
  (pieces bytes).mapM Piece.scalar?

/-- The first malformed stretch of a byte string. -/
structure Fault where
  /-- How many bytes before it are well formed. -/
  position : Nat
  /-- Its length, or none if it is only cut short by the end of the input. -/
  length : Option Nat
  deriving Repr, DecidableEq

/-- The first malformed piece, behind a number of bytes already passed. -/
def firstFaultFrom?
    (position : Nat) : List Piece → Option Fault
  | [] => none
  | .scalar character :: rest =>
      firstFaultFrom? (position + (String.utf8EncodeChar character).length) rest
  | .malformed octets cutShort :: _ =>
      some ⟨position, if cutShort then none else some octets.length⟩

/-- The first malformed stretch, if there is one. -/
def firstFault? (bytes : Bytes) : Option Fault :=
  firstFaultFrom? 0 (pieces bytes)

/-- The wording of a fault. -/
def Fault.message (fault : Fault) : Text :=
  match fault.length with
  | none =>
      "incomplete utf-8 byte sequence from index ".toList
        ++ Text.natural fault.position
  | some length =>
      "invalid utf-8 sequence of ".toList ++ Text.natural length
        ++ " bytes from index ".toList ++ Text.natural fault.position

end DetachedTasks.Utf8
