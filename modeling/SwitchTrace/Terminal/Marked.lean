import SwitchTrace.Terminal.Columns
import SwitchTrace.Text.Split

/-!
# Texts with styles

Styles belong to spans of a text. When a text is divided, its spans are divided with it. A terminal
without styles shows the text without them, but measures it piece by piece, a piece ending wherever
a span begins or ends.

## Main definitions

* `StyledSpan`, `Marked` — a span of a text with a style, and a text with spans.
* `Marked.slice`, `Marked.divide` — parts of a text with their spans.
* `Marked.segments` — the pieces that are measured for themselves.
* `Columns.crop` — pieces cut to a number of columns as a whole.
-/

namespace SwitchTrace

/-- Characters of a text, from one place up to another, with the name of their style. -/
structure StyledSpan where
  start : Nat
  stop : Nat
  style : String
deriving DecidableEq, Repr

/-- A text with styles. -/
structure Marked where
  chars : List Char
  spans : List StyledSpan
deriving DecidableEq, Repr

/-! ### Spans -/

namespace StyledSpan

/-- The part of a span between two places, counted from the first of them. A part without
characters is lost. -/
def within? (s : StyledSpan) (start stop : Nat) : Option StyledSpan :=
  let first := s.start - start
  let last := min s.stop stop - start
  if first < last then some ⟨first, last, s.style⟩ else none

/-- The part of a span before a place. A span that begins there is lost. -/
def before? (s : StyledSpan) (place : Nat) : Option StyledSpan :=
  if s.start < place then some { s with stop := min s.stop place } else none

/-- The span with so many characters put before the text. -/
def shift (s : StyledSpan) (n : Nat) : StyledSpan := { s with start := s.start + n, stop := s.stop + n }

end StyledSpan

namespace Marked

/-! ### Parts -/

/-- The characters between two places with their spans. -/
def slice (m : Marked) (start stop : Nat) : Marked :=
  ⟨(m.chars.take stop).drop start, m.spans.filterMap (·.within? start stop)⟩

/-- Consecutive parts of the given lengths, from a place on. -/
def divideFrom (m : Marked) (start : Nat) : List Nat → List Marked
  | [] => []
  | n :: rest => m.slice start (start + n) :: m.divideFrom (start + n) rest

/-- The parts of the given lengths. A text with one part is not divided, so that it keeps all its
spans. -/
def divide (m : Marked) (lengths : List Nat) : List Marked :=
  match lengths with
  | [] | [_] => [m]
  | _ => m.divideFrom 0 lengths

/-- The parts between line ends, from a place on; these are the parts without their spans. -/
def linesFrom (m : Marked) (start : Nat) : List (List Char) → List Marked
  | [] => []
  | part :: rest =>
    m.slice start (start + part.length) :: m.linesFrom (start + part.length + 1) rest

/-- The lines of a text. -/
def lines (m : Marked) : List Marked :=
  match SwitchTrace.lines m.chars with
  | [_] => [m]
  | ls => m.linesFrom 0 ls

/-! ### Changes -/

/-- The first characters of a text with their spans. -/
def take (m : Marked) (n : Nat) : Marked := ⟨m.chars.take n, m.spans.filterMap (·.before? n)⟩

/-- The text with other characters. Spans end with them if there are fewer. -/
def withChars (m : Marked) (cs : List Char) : Marked :=
  if cs.length < m.chars.length then ⟨cs, m.spans.filterMap (·.before? cs.length)⟩
  else { m with chars := cs }

/-- The text with blanks before it. -/
def indent (m : Marked) (n : Nat) : Marked :=
  ⟨List.replicate n ' ' ++ m.chars, m.spans.map (·.shift n)⟩

/-- The text with blanks after it, which have no style. -/
def pad (m : Marked) (n : Nat) : Marked := { m with chars := m.chars ++ List.replicate n ' ' }

/-- The text with blanks after it, which have the styles of its last character. -/
def stretch (m : Marked) (n : Nat) : Marked where
  chars := m.chars ++ List.replicate n ' '
  spans := m.spans.map fun s => if m.chars.length ≤ s.stop then { s with stop := s.stop + n } else s

/-- A text after another one. -/
def append (m n : Marked) : Marked :=
  ⟨m.chars ++ n.chars, m.spans ++ n.spans.map (·.shift m.chars.length)⟩

/-- Texts one after the other. -/
def join (ms : List Marked) : Marked := ms.foldl append ⟨[], []⟩

/-! ### Pieces -/

/-- Characters in pieces, the first of them being `piece` so far, and a new one beginning at each
of the places that are given. `index` is the place of the first character. -/
def segmentsFrom (places : List Nat) (piece : List Char) (index : Nat) :
    List Char → List (List Char)
  | [] => [piece.reverse]
  | c :: cs =>
    if places.contains index then piece.reverse :: segmentsFrom places [c] (index + 1) cs
    else segmentsFrom places (c :: piece) (index + 1) cs

/-- The pieces between the places where spans begin and end. -/
def segments (m : Marked) : List (List Char) :=
  segmentsFrom (m.spans.flatMap fun s => [s.start, s.stop]) [] 0 m.chars

end Marked

/-! ### Cutting -/

namespace Columns

/-- The pieces that fit into so many columns, the last of them being cut. -/
def cropFrom : Nat → List (List Char) → List Char
  | _, [] => []
  | room, piece :: rest =>
    if ofChars piece < room then piece ++ cropFrom (room - ofChars piece) rest else cut room piece

/-- The number of columns of pieces that are measured for themselves. -/
def ofPieces (pieces : List (List Char)) : Nat :=
  pieces.foldr (fun piece columns => ofChars piece + columns) 0

/-- Pieces cut to so many columns. -/
def crop (room : Nat) (pieces : List (List Char)) : List Char :=
  if ofPieces pieces ≤ room then pieces.flatten else cropFrom room pieces

end Columns

end SwitchTrace
