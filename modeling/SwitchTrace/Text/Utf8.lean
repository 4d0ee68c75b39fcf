import SwitchTrace.Byte.LittleEndian

/-!
# UTF-8

Texts to bytes and back. A byte string falls apart into well-formed characters and maximal
ill-formed pieces: a piece is the longest start of a character that the following bytes break
off, or one byte that starts no character.

## Main definitions

* `Utf8.encode` — the bytes of a text.
* `Utf8.segments` — the pieces of a byte string, in order.
* `Utf8.decodeLossy` — every ill-formed piece read as the replacement character U+FFFD.
* `Utf8.decode` — the text, or the first ill-formed piece and what is wrong with it.
* `Utf8.truncate` — the longest start of a text whose bytes fit into a given room.
-/

namespace SwitchTrace.Utf8

/-! ### Writing -/

/-- The bytes of one character: one below U+0080, then two, three and four. -/
def encodeChar (c : Char) : Bytes :=
  let n := c.toNat
  if n < 0x80 then [UInt8.ofNat n]
  else if n < 0x800 then [UInt8.ofNat (0xC0 + n / 64), UInt8.ofNat (0x80 + n % 64)]
  else if n < 0x10000 then
    [UInt8.ofNat (0xE0 + n / 4096), UInt8.ofNat (0x80 + n / 64 % 64), UInt8.ofNat (0x80 + n % 64)]
  else
    [UInt8.ofNat (0xF0 + n / 262144), UInt8.ofNat (0x80 + n / 4096 % 64),
      UInt8.ofNat (0x80 + n / 64 % 64), UInt8.ofNat (0x80 + n % 64)]

/-- The bytes of a list of characters. -/
def encodeChars (cs : List Char) : Bytes := cs.flatMap encodeChar

/-- The bytes of a text. -/
def encode (s : String) : Bytes := encodeChars s.toList

/-- The number of bytes of one character. -/
def charSize (c : Char) : Nat := (encodeChar c).length

/-- The number of bytes of a text. -/
def size (s : String) : Nat := (encode s).length

/-! ### Cutting -/

/-- The longest start of a list of characters whose bytes fit into `room` bytes. -/
def truncateChars : Nat → List Char → List Char
  | _, [] => []
  | room, c :: cs => if charSize c ≤ room then c :: truncateChars (room - charSize c) cs else []

/-- The longest start of a text whose bytes fit into `room` bytes. -/
def truncate (room : Nat) (s : String) : String := String.ofList (truncateChars room s.toList)

/-! ### Reading -/

/-- What is wrong with an ill-formed piece. -/
inductive Defect
  /-- A byte that starts no character. -/
  | invalidStart
  /-- A character that another byte than a continuation byte breaks off. -/
  | invalidContinuation
  /-- A character that the end of the bytes breaks off. -/
  | unexpectedEnd
deriving DecidableEq, Repr

/-- A piece of a byte string. -/
inductive Segment
  | char (c : Char)
  | illFormed (piece : Bytes) (defect : Defect)
deriving DecidableEq, Repr

/-- The continuation bytes that may follow a first byte: how many, and the range of the first of
them (the others range over `0x80` to `0xBF`). The ranges leave out surrogates, characters
beyond U+10FFFF and forms that are longer than needed. -/
def continuation (lead : Nat) : Option (Nat × Nat × Nat) :=
  if lead < 0xC2 then none
  else if lead < 0xE0 then some (1, 0x80, 0xBF)
  else if lead = 0xE0 then some (2, 0xA0, 0xBF)
  else if lead = 0xED then some (2, 0x80, 0x9F)
  else if lead < 0xF0 then some (2, 0x80, 0xBF)
  else if lead = 0xF0 then some (3, 0x90, 0xBF)
  else if lead < 0xF4 then some (3, 0x80, 0xBF)
  else if lead = 0xF4 then some (3, 0x80, 0x8F)
  else none

/-- The bits that a first byte gives its character, `more` continuation bytes following. -/
def leadBits (lead more : Nat) : Nat :=
  if more = 1 then lead - 0xC0 else if more = 2 then lead - 0xE0 else lead - 0xF0

/-- Reads `more` continuation bytes after the bits read so far, the first of them within the
given range. The answer is the character's number, or a defect, with the number of bytes read. -/
def continueChar : Nat → Nat → Nat → Nat → Bytes → (Nat ⊕ Defect) × Nat
  | 0, _, _, bits, _ => (.inl bits, 0)
  | _ + 1, _, _, _, [] => (.inr .unexpectedEnd, 0)
  | more + 1, lo, hi, bits, b :: bs =>
    if lo ≤ b.toNat ∧ b.toNat ≤ hi then
      let (answer, read) := continueChar more 0x80 0xBF (bits * 64 + (b.toNat - 0x80)) bs
      (answer, read + 1)
    else (.inr .invalidContinuation, 0)

/-- The first segment of the bytes `b :: bs`, and how many of the bytes `bs` belong to it. -/
def firstSegment (b : UInt8) (bs : Bytes) : Segment × Nat :=
  if b.toNat < 0x80 then (.char (Char.ofNat b.toNat), 0)
  else
    match continuation b.toNat with
    | none => (.illFormed [b] .invalidStart, 0)
    | some (more, lo, hi) =>
      match continueChar more lo hi (leadBits b.toNat more) bs with
      | (.inl n, read) => (.char (Char.ofNat n), read)
      | (.inr defect, read) => (.illFormed (b :: bs.take read) defect, read)

/-- The segments of a byte string, in order. -/
def segments : Bytes → List Segment
  | [] => []
  | b :: bs =>
    let (segment, read) := firstSegment b bs
    segment :: segments (bs.drop read)
termination_by bs => bs.length
decreasing_by
  simp only [List.length_drop, List.length_cons]
  omega

/-- The character that stands for an ill-formed piece. -/
def replacement : Char := '\uFFFD'

/-- The character of a segment, an ill-formed piece being the replacement character. -/
def Segment.toChar : Segment → Char
  | .char c => c
  | .illFormed _ _ => replacement

/-- The text of a byte string, every ill-formed piece read as one replacement character. -/
def decodeLossy (bs : Bytes) : String := String.ofList ((segments bs).map Segment.toChar)

/-- An ill-formed piece at its place in a byte string. -/
structure Fault where
  offset : Nat
  piece : Bytes
  defect : Defect
deriving DecidableEq, Repr

/-- The characters of a list of segments that starts at the given offset, or the first
ill-formed piece. -/
def decodeSegments : Nat → List Segment → Except Fault (List Char)
  | _, [] => .ok []
  | offset, .char c :: rest => (c :: ·) <$> decodeSegments (offset + charSize c) rest
  | offset, .illFormed piece defect :: _ => .error ⟨offset, piece, defect⟩

/-- The characters of a list of segments that starts at the given offset up to the first
ill-formed piece, and that piece. -/
def decodeStart : Nat → List Segment → List Char × Option Fault
  | _, [] => ([], none)
  | offset, .char c :: rest =>
    let (cs, fault) := decodeStart (offset + charSize c) rest
    (c :: cs, fault)
  | offset, .illFormed piece defect :: _ => ([], some ⟨offset, piece, defect⟩)

/-- The text of a byte string that is well formed throughout. -/
def decode (bs : Bytes) : Except Fault String :=
  String.ofList <$> decodeSegments 0 (segments bs)

end SwitchTrace.Utf8
