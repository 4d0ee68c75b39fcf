import SwitchTrace.Terminal.Marked
import SwitchTrace.Text.Blank

/-!
# Lines that fit

A line that is too long is broken between words. A word that fits on no line is broken inside, or
cut off, as the place where it stands demands.

## Main definitions

* `Wrap.words` — the words of a line, each with the white space after it.
* `Wrap.breakLine` — a line broken into lines of a width.
* `Wrap.paragraph` — the lines of a text, broken, cut and aligned to a width.
-/

namespace SwitchTrace.Wrap

/-! ### Words -/

/-- The first word with the white space around it, and the rest. -/
def firstWord (cs : List Char) : List Char × List Char :=
  let before := cs.takeWhile Blank.isSpace
  let cs := cs.dropWhile Blank.isSpace
  let word := cs.takeWhile (!Blank.isSpace ·)
  let cs := cs.dropWhile (!Blank.isSpace ·)
  (before ++ word ++ cs.takeWhile Blank.isSpace, cs.dropWhile Blank.isSpace)

/-- The words of a line, each with the white space after it and the first also with the white
space before it; `fuel` words at most. -/
def wordsUpTo : Nat → List Char → List (List Char)
  | 0, _ => []
  | fuel + 1, cs =>
    if cs.all Blank.isSpace then []
    else
      let (word, rest) := firstWord cs
      word :: wordsUpTo fuel rest

/-- The words of a line, each with the white space after it and the first also with the white
space before it. White space alone is no word. -/
def words (cs : List Char) : List (List Char) := wordsUpTo cs.length cs

/-! ### Breaking -/

/-- What becomes of words and lines that are too long. -/
inductive Overflow
  /-- Words are broken, and lines are cut. -/
  | fold
  /-- Words and lines are cut, and end in dots. -/
  | ellipsis
deriving DecidableEq, Repr

/-- The characters of clusters in pieces that take so many columns at most. The first piece begins
with the characters `piece`, which take `used` columns. -/
def chopAfter (width : Nat) (piece : List Char) (used : Nat) :
    List Columns.Cluster → List (List Char)
  | [] => [piece]
  | k :: ks =>
    if width < used + k.width then piece :: chopAfter width k.chars k.width ks
    else chopAfter width (piece ++ k.chars) (used + k.width) ks

/-- The characters in pieces that take so many columns at most. -/
def chop (width : Nat) (cs : List Char) : List (List Char) :=
  chopAfter width [] 0 (Columns.clusters cs)

/-- The lines that are complete, the last of them first, and the line that is being filled. -/
structure Filling where
  complete : List (List Char)
  line : List Char
  /-- The columns that are taken of the line. -/
  used : Nat

namespace Filling

/-- The filling before the first word. -/
def start : Filling := ⟨[], [], 0⟩

/-- No character is filled in yet. -/
def isEmpty (f : Filling) : Bool := f.complete.isEmpty && f.line.isEmpty

/-- A new line that begins with the given characters. -/
def newLine (f : Filling) (cs : List Char) : Filling :=
  if f.isEmpty then ⟨[], cs, Columns.ofChars cs⟩
  else ⟨f.line :: f.complete, cs, Columns.ofChars cs⟩

/-- A word put on the line, or on a new one if it does not fit. -/
def add (width : Nat) (overflow : Overflow) (f : Filling) (word : List Char) : Filling :=
  let size := Columns.ofChars (Blank.trimEnd Blank.isSpace word)
  if f.used + size ≤ width then
    { f with line := f.line ++ word, used := f.used + Columns.ofChars word }
  else if width < size then
    match overflow with
    | .fold => (chop width word).foldl newLine f
    | .ellipsis => f.newLine word
  else if f.used = 0 then { f with line := f.line ++ word }
  else f.newLine word

/-- All lines. -/
def toLines (f : Filling) : List (List Char) := (f.line :: f.complete).reverse

end Filling

/-- The lines into which the characters of a line are broken. -/
def brokenChars (width : Nat) (overflow : Overflow) (cs : List Char) : List (List Char) :=
  match words cs with
  | [] => [cs]
  | ws => (ws.foldl (Filling.add width overflow) .start).toLines

/-- The line without the white space at its end that goes beyond the width. -/
def dropExcess (width : Nat) (m : Marked) : Marked :=
  let blanks := (m.chars.reverse.takeWhile Blank.isSpace).length
  let excess := min blanks (m.chars.length - width)
  if excess = 0 then m else m.take (m.chars.length - excess)

/-- A line broken into lines of a width. -/
def breakLine (width : Nat) (overflow : Overflow) (m : Marked) : List Marked :=
  (m.divide ((brokenChars width overflow m.chars).map List.length)).map (dropExcess width)

/-- The parts of a line between tabs with a blank for every tab, and more blanks up to the next
multiple of eight columns; `start` is the place of the first part, and `column` columns come
before it. -/
def expandParts (m : Marked) (start column : Nat) : List (List Char) → List Marked
  | [] => []
  | [part] => if part.isEmpty then [] else [m.slice start (start + part.length)]
  | part :: rest =>
    let stop := start + part.length + 1
    let piece := (m.slice start stop).withChars (part ++ [' '])
    let column := column + Columns.ofChars piece.chars
    let blanks := (8 - column % 8) % 8
    piece.stretch blanks :: expandParts m stop (column + blanks) rest

/-- The line with blanks for its tabs. -/
def expandTabs (m : Marked) : Marked :=
  match parts '\t' m.chars with
  | [_] => m
  | ps => .join (expandParts m 0 0 ps)

/-! ### Alignment -/

/-- Characters of a line that is too long cut to the width. -/
def shortened (width : Nat) (overflow : Overflow) (cs : List Char) : List Char :=
  if Columns.ofChars cs ≤ width then cs
  else
    match overflow with
    | .fold => Columns.cut width cs
    | .ellipsis => Columns.cut (width - 1) cs ++ ['…']

/-- A line that is too long cut to the width. -/
def shorten (width : Nat) (overflow : Overflow) (m : Marked) : Marked :=
  m.withChars (shortened width overflow m.chars)

/-- So many blanks. -/
def blanks (n : Nat) : List Char := List.replicate n ' '

/-- Where the blanks go that fill a line up to the width. -/
inductive Alignment
  /-- Nowhere. -/
  | ragged
  | left
  | right
  /-- Around the line, the odd one after it. -/
  | centre
deriving DecidableEq, Repr

/-- The line without white space at its end. -/
def trimmed (m : Marked) : Marked := m.withChars (Blank.trimEnd Blank.isSpace m.chars)

/-- A line aligned to a width. -/
def align (width : Nat) (overflow : Overflow) (alignment : Alignment) (m : Marked) : Marked :=
  match alignment with
  | .ragged => shorten width overflow m
  | .left =>
    let m := shorten width overflow m
    m.pad (width - Columns.ofChars m.chars)
  | .right =>
    let m := shorten width overflow (trimmed m)
    m.indent (width - Columns.ofChars m.chars)
  | .centre =>
    let m := shorten width overflow (trimmed m)
    let room := width - Columns.ofChars m.chars
    (m.indent (room / 2)).pad (room - room / 2)

/-- The lines of a text, broken, cut and aligned to a width. -/
def paragraph (width : Nat) (overflow : Overflow) (alignment : Alignment) (m : Marked) :
    List Marked :=
  (m.lines.flatMap fun line => breakLine width overflow (expandTabs line)).map
    (align width overflow alignment)

end SwitchTrace.Wrap
