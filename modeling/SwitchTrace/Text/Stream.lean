import SwitchTrace.Numeric.Binary64
import SwitchTrace.Text.Split
import SwitchTrace.Text.Utf8

/-!
# Texts read piece by piece

The bytes of a file are decoded a portion at a time, while characters are asked for. A character
whose bytes are not all in a portion waits for the next one, and so does a carriage return, which
may be the first half of a line end. A portion is larger where characters have had many bytes. An
ill-formed piece is found when its portion is decoded, and its place is counted in that portion.

## Main definitions

* `TextStream` — bytes to be decoded, with what was decoded and is not asked for yet.
* `TextStream.take` — so many characters.
* `TextStream.pieces` — all characters of a file in pieces of one size, up to an ill-formed one.
-/

namespace SwitchTrace

/-- Bytes to be decoded, and what was decoded and is not asked for yet. -/
structure TextStream where
  unread : Bytes
  /-- The bytes of a character that is not complete. -/
  held : Bytes
  /-- A carriage return waits for the character after it. -/
  returned : Bool
  decoded : List Char
  /-- The sizes of the portion before, in bytes and in characters. -/
  bytes : Nat
  chars : Nat

namespace TextStream

/-- The stream of the bytes of a file. -/
def start (bytes : Bytes) : TextStream := ⟨bytes, [], false, [], 0, 0⟩

/-- The smallest size of a portion. -/
def portionSize : Nat := 8192

/-- The size of a portion when so many characters are missing: the bytes that as many characters
had in the portion before, unless that is too few. -/
def nextSize (s : TextStream) (missing : Nat) : Nat :=
  let expected : Except ArithmeticFault Int := do
    ((← Binary64.ofIntRatio s.bytes s.chars).mul (← Binary64.ofInt missing)).truncate
  match expected with
  | .ok n => max portionSize n.toNat
  | .error _ => portionSize

/-- The characters with every line end written as a newline, `returned` telling that a carriage
return comes before them. One at the end waits unless the characters are the last ones. -/
def newlines (last returned : Bool) (cs : List Char) : List Char × Bool :=
  if cs.isEmpty && !last then ([], returned)
  else
    let cs := if returned then '\r' :: cs else cs
    if !last && cs.getLast? = some '\r' then (withNewlines cs.dropLast, true)
    else (withNewlines cs, false)

/-- The bytes at the end of a portion that wait for the next one, the portion being ill-formed
there: the start of a character, or the first two bytes of a surrogate, whose third byte decides. -/
def waiting? (bytes : Bytes) (fault : Utf8.Fault) : Option Bytes :=
  if fault.defect = .unexpectedEnd then some fault.piece
  else
    match bytes.drop fault.offset with
    | [lead, next] => if lead = 0xED ∧ 0xA0 ≤ next ∧ next ≤ 0xBF then some [lead, next] else none
    | _ => none

/-- Decodes the next portion when so many characters are missing; nothing if there is none. -/
def refill (s : TextStream) (missing : Nat) : Except Utf8.Fault (Option TextStream) :=
  let size := s.nextSize missing
  let portion := s.unread.take size
  let last := portion.isEmpty
  let bytes := s.held ++ portion
  let (cs, fault) := Utf8.decodeStart 0 (Utf8.segments bytes)
  let held? : Except Utf8.Fault Bytes :=
    match fault with
    | none => .ok []
    | some fault =>
      match if last then none else waiting? bytes fault with
      | some held => .ok held
      | none => .error fault
  match held? with
  | .error fault => .error fault
  | .ok held =>
    let (cs, returned) := newlines last s.returned cs
    if last && cs.isEmpty then .ok none
    else .ok (some ⟨s.unread.drop size, held, returned, cs, portion.length, cs.length⟩)

/-- So many characters, or those that are left; `fuel` portions at most. -/
def takeWithin : Nat → Nat → TextStream → Except Utf8.Fault (List Char × TextStream)
  | 0, _, s => .ok ([], s)
  | fuel + 1, count, s => do
    let given := s.decoded.take count
    let s := { s with decoded := s.decoded.drop count }
    if given.length = count then return (given, s)
    else
      match ← s.refill (count - given.length) with
      | none => return (given, s)
      | some s =>
        let (more, s) ← takeWithin fuel (count - given.length) s
        return (given ++ more, s)

/-- So many characters, or those that are left. Every portion but the last has a byte at least. -/
def take (count : Nat) (s : TextStream) : Except Utf8.Fault (List Char × TextStream) :=
  takeWithin (s.unread.length + 3) count s

/-- The size of a piece. -/
def pieceSize : Nat := 4096

/-- The pieces up to the end or to an ill-formed one; `fuel` pieces at most. -/
def piecesWithin : Nat → TextStream → List (List Char) × Option Utf8.Fault
  | 0, _ => ([], none)
  | fuel + 1, s =>
    match s.take pieceSize with
    | .error fault => ([], some fault)
    | .ok (piece, s) =>
      if piece.isEmpty then ([], none)
      else
        let (pieces, fault) := piecesWithin fuel s
        (piece :: pieces, fault)

/-- The characters of a file in pieces of one size, the last of which may be smaller, up to the
end or to a piece with ill-formed bytes. -/
def pieces (bytes : Bytes) : List (List Char) × Option Utf8.Fault :=
  piecesWithin (bytes.length + 2) (start bytes)

end TextStream

end SwitchTrace
