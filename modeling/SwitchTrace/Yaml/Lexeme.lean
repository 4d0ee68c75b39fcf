import SwitchTrace.Text.HexDigit
import SwitchTrace.Yaml.Character

/-!
# Scalars of YAML texts

A scalar is plain or stands in quotes. It may go on over several lines: a single break is read as
a blank, and of several breaks the first is dropped.

## Main definitions

* `Yaml.skipGap` — blanks, breaks and comments between tokens.
* `Yaml.scanPlain` — a plain scalar.
* `Yaml.scanQuoted` — a scalar in quotes.
-/

namespace SwitchTrace.Yaml

/-! ### Between tokens -/

mutual

/-- Skips blanks, breaks and comments. The answer is the rest, and whether there was a break. -/
def skipGap : List Char → List Char × Bool
  | [] => ([], false)
  | c :: rest =>
    if c = ' ' then skipGap rest
    else if isBreak c then ((skipGap rest).1, true)
    else if c = '#' then skipComment rest
    else (c :: rest, false)

/-- Skips the rest of a comment, and what follows it. -/
def skipComment : List Char → List Char × Bool
  | [] => ([], false)
  | c :: rest => if isBreak c then ((skipGap rest).1, true) else skipComment rest

end

/-! ### Breaks inside scalars -/

/-- What stands for a break and the empty lines after it. -/
def foldBreaks (first : Char) (more : List Char) : List Char :=
  (if first ≠ '\n' then [first] else if more.isEmpty then [' '] else []) ++ more

/-! ### Plain scalars -/

/-- The plain scalar ends before the character `c`. -/
def endsPlain (flow : Bool) (c : Char) (rest : List Char) : Bool :=
  isBlank c || isBreak c ||
    (c = ':' && (atWordEnd rest ||
      (flow && rest.head?.any fun d => ",[]\x7b\x7d".toList.contains d))) ||
    (flow && ",?[]\x7b\x7d".toList.contains c)

/-- The characters of a plain scalar up to a blank or its end. -/
def plainRun (flow : Bool) : List Char → List Char
  | [] => []
  | c :: rest => if endsPlain flow c rest then [] else c :: plainRun flow rest

/-- Blanks and breaks inside a plain scalar, or after it. -/
structure PlainGap where
  /-- What stands for them if the scalar goes on. -/
  filler : List Char
  rest : List Char
  /-- There was a break. -/
  crossed : Bool
  /-- The column after the gap, if there was a break. -/
  column : Nat
  /-- A marker between documents stands after the gap. -/
  marker : Bool

/-- The empty lines after a break, and the blanks of the line after them. -/
def plainBreaks (column : Nat) : List Char → PlainGap
  | [] => ⟨[], [], true, column, false⟩
  | '\r' :: '\n' :: rest =>
    if atMarker rest then ⟨['\n'], rest, true, 0, true⟩
    else
      let gap := plainBreaks 0 rest
      { gap with filler := '\n' :: gap.filler }
  | c :: rest =>
    if c = ' ' then plainBreaks (column + 1) rest
    else if isBreak c then
      let b := if c = '\u2028' ∨ c = '\u2029' then c else '\n'
      if atMarker rest then ⟨[b], rest, true, 0, true⟩
      else
        let gap := plainBreaks 0 rest
        { gap with filler := b :: gap.filler }
    else ⟨[], c :: rest, true, column, false⟩

/-- The gap at a place inside a plain scalar. Tabs do not belong to it. -/
def plainGap (cs : List Char) : PlainGap :=
  let blanks := cs.takeWhile (· = ' ')
  let rest := cs.dropWhile (· = ' ')
  match takeBreak? rest with
  | none => ⟨blanks, rest, false, 0, false⟩
  | some (first, rest) =>
    if atMarker rest then ⟨[], rest, true, 0, true⟩
    else
      let gap := plainBreaks 0 rest
      { gap with filler := foldBreaks first gap.filler }

/-- A plain scalar: its text, the rest, and whether a break came after it. -/
structure PlainScan where
  text : List Char
  rest : List Char
  crossed : Bool

/-- Reads on in a plain scalar after the text `read`, from the place `cs` after the given gap. The
scalar ends at a comment, at a marker, and in blocks at a line that is not indented enough. -/
def plainLoop (flow : Bool) (indent : Int) :
    Nat → List Char → List Char → Bool → List Char → PlainScan
  | 0, read, _, crossed, cs => ⟨read, cs, crossed⟩
  | fuel + 1, read, filler, crossed, cs =>
    let run := if cs.head? = some '#' then [] else plainRun flow cs
    if run.isEmpty then ⟨read, cs, crossed⟩
    else
      let read := read ++ filler ++ run
      let gap := plainGap (cs.drop run.length)
      if gap.marker || gap.filler.isEmpty || (!flow && gap.crossed && gap.column < indent) then
        ⟨read, gap.rest, gap.crossed⟩
      else plainLoop flow indent fuel read gap.filler gap.crossed gap.rest

/-- Reads a plain scalar. Every turn reads a character at least. -/
def scanPlain (flow : Bool) (indent : Int) (cs : List Char) : PlainScan :=
  plainLoop flow indent (cs.length + 1) [] [] false cs

/-! ### Scalars in quotes -/

/-- The empty lines after a break inside quotes, and the blanks of the line after them. A marker
between documents may not stand inside quotes. -/
def quotedBreaks (lineStart : Bool) : List Char → Except FaultAt (List Char × List Char)
  | [] => .ok ([], [])
  | '\r' :: '\n' :: rest => do
    let (breaks, rest) ← quotedBreaks true rest
    return ('\n' :: breaks, rest)
  | c :: rest =>
    if lineStart && atMarker (c :: rest) then refuseAt (c :: rest)
    else if isBlank c then quotedBreaks false rest
    else if isBreak c then do
      let b := if c = '\u2028' ∨ c = '\u2029' then c else '\n'
      let (breaks, rest) ← quotedBreaks true rest
      return (b :: breaks, rest)
    else .ok ([], c :: rest)

/-- Blanks and breaks inside quotes. Blanks around a break are dropped. -/
def quotedGap (cs : List Char) : Except FaultAt (List Char × List Char) :=
  let blanks := cs.takeWhile isBlank
  let rest := cs.dropWhile isBlank
  match takeBreak? rest with
  | none => .ok (blanks, rest)
  | some (first, rest) => do
    let (breaks, rest) ← quotedBreaks true rest
    return (foldBreaks first breaks, rest)

/-- The character of an escape of one letter. -/
def escape? (c : Char) : Option Char :=
  match c with
  | '0' => some '\x00'
  | 'a' => some '\x07'
  | 'b' => some '\x08'
  | 't' => some '\t'
  | '\t' => some '\t'
  | 'n' => some '\n'
  | 'v' => some '\x0B'
  | 'f' => some '\x0C'
  | 'r' => some '\r'
  | 'e' => some '\x1B'
  | ' ' => some ' '
  | '"' => some '"'
  | '\\' => some '\\'
  | '/' => some '/'
  | 'N' => some '\x85'
  | '_' => some '\xA0'
  | 'L' => some '\u2028'
  | 'P' => some '\u2029'
  | _ => none

/-- The number of hexadecimal digits of an escape by number. -/
def escapeDigits? (c : Char) : Option Nat :=
  match c with
  | 'x' => some 2
  | 'u' => some 4
  | 'U' => some 8
  | _ => none

/-- The number from which on an escape is not even looked up. -/
def escapeLimit : Nat := 0x80000000

/-- The character with the number of so many hexadecimal digits, and the rest. Surrogates are not
read. -/
def numberedChar (count : Nat) (cs : List Char) : Except FaultAt (Char × List Char) :=
  let digits := (cs.take count).takeWhile isHexDigit
  if digits.length < count then refuseAt (cs.drop digits.length)
  else
    let n := hexNumber digits
    if escapeLimit ≤ n then .error ⟨.tooLarge, cs⟩
    else if 0x110000 ≤ n then .error ⟨.noCharacter, cs⟩
    else if 0xD800 ≤ n && n < 0xE000 then refuseAt cs
    else .ok (Char.ofNat n, cs.drop count)

/-- What an escape after its backslash stands for, and the rest. An escaped break is dropped
together with the blanks and empty lines after it. -/
def scanEscape : List Char → Except FaultAt (List Char × List Char)
  | [] => refuseAt []
  | c :: rest =>
    match escape? c, escapeDigits? c, takeBreak? (c :: rest) with
    | some d, _, _ => .ok ([d], rest)
    | none, some count, _ => do
      let (d, rest) ← numberedChar count rest
      return ([d], rest)
    | none, none, some (_, rest) => quotedBreaks true rest
    | none, none, none => refuseAt (c :: rest)

/-- Reads a scalar after its opening quote up to its closing one. -/
def quotedLoop (double : Bool) : Nat → List Char → Except FaultAt (List Char × List Char)
  | 0, cs => refuseAt cs
  | _ + 1, [] => refuseAt []
  | fuel + 1, c :: rest => do
    if isBlank c || isBreak c then
      let (filler, rest) ← quotedGap (c :: rest)
      let (text, rest) ← quotedLoop double fuel rest
      return (filler ++ text, rest)
    else if double && c = '\\' then
      let (escaped, rest) ← scanEscape rest
      let (text, rest) ← quotedLoop double fuel rest
      return (escaped ++ text, rest)
    else if double && c = '"' then return ([], rest)
    else if !double && c = '\'' then
      match rest with
      | '\'' :: rest =>
        let (text, rest) ← quotedLoop double fuel rest
        return ('\'' :: text, rest)
      | rest => return ([], rest)
    else
      let (text, rest) ← quotedLoop double fuel rest
      return (c :: text, rest)

/-- Reads a scalar after its opening quote: its text, and the rest. -/
def scanQuoted (double : Bool) (cs : List Char) : Except FaultAt (List Char × List Char) :=
  quotedLoop double (cs.length + 1) cs

end SwitchTrace.Yaml
