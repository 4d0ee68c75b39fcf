import SwitchTrace.Value.Show
import SwitchTrace.Text.Pad
import SwitchTrace.Yaml.Plain

/-!
# Writing YAML texts

Mappings and sequences are written in blocks with an indentation of two, and empty ones in
brackets. A sequence that is the value of a key is not indented. A text is written plain if it
reads back as itself, in single quotes if it can be, and otherwise in double quotes, where every
character outside ASCII is escaped. Lines are folded at blanks after column 80.

## Main definitions

* `Yaml.Analysis` — what a text holds that restricts its form.
* `Yaml.Writer` — the text written so far, with what has to be known about its end.
* `Yaml.write`, `Yaml.write?` — the text of a mapping.
-/

namespace SwitchTrace.Yaml

/-! ### Forms of scalars -/

/-- What a text holds that restricts its form. -/
structure Analysis where
  /-- There is a line break. -/
  multiline : Bool
  /-- The text can be plain. -/
  plain : Bool
  /-- The text can stand in single quotes. -/
  single : Bool

/-- The character breaks a line of a text that is to be written. -/
def isTextBreak (c : Char) : Bool := c = '\n' || c = '\x85' || c = '\u2028' || c = '\u2029'

/-- The character can only be written by its number or by an escape. -/
def isSpecial (c : Char) : Bool := !(c = '\n' || (' ' ≤ c && c ≤ '~'))

/-- A character of the first class stands next before one of the second. -/
def hasPair (p q : Char → Bool) : List Char → Bool
  | a :: b :: rest => (p a && q b) || hasPair p q (b :: rest)
  | _ => false

/-- The text begins with an indicator of a block. -/
def beginsWithIndicator (cs : List Char) : Bool :=
  match cs with
  | [] => false
  | c :: rest =>
    "#,[]\x7b\x7d&*!|>'\"%@\x60".toList.contains c ||
      ("?:-".toList.contains c && atWordEnd rest) ||
      "---".toList.isPrefixOf cs || "...".toList.isPrefixOf cs

/-- An indicator of a block stands inside the text: a colon at the end of a word, or a number
sign at the beginning of one. -/
def holdsIndicator : List Char → Bool
  | [] => false
  | c :: rest =>
    (match rest with
      | d :: after =>
        (d = ':' && atWordEnd after) || (d = '#' && (isBlank c || isBreak c || c = '\x00'))
      | [] => false) || holdsIndicator rest

/-- What a text holds that restricts its form. -/
def analyze (text : String) : Analysis :=
  let cs := text.toList
  let blankOrBreak (c : Option Char) : Bool := c.any fun c => c = ' ' || isTextBreak c
  let edge := blankOrBreak cs.head? || blankOrBreak cs.getLast?
  let breaks := cs.any isTextBreak
  let blankAfterBreak := hasPair isTextBreak (· = ' ') cs
  let special := hasPair (· = ' ') isTextBreak cs || cs.any isSpecial
  { multiline := breaks
    plain := !(edge || blankAfterBreak || special || breaks || beginsWithIndicator cs ||
      holdsIndicator cs)
    single := !(blankAfterBreak || special) }

/-! ### Writing -/

/-- The text written so far. -/
structure Writer where
  /-- The characters written, the last of them first. -/
  written : List Char
  column : Nat
  /-- The text ends with a blank, or with an indicator that needs none after it. -/
  spaced : Bool
  /-- The line holds nothing but blanks and indicators. -/
  indenting : Bool

namespace Writer

/-- Nothing is written. -/
def start : Writer := ⟨[], 0, true, true⟩

/-- The text written. -/
def text (w : Writer) : String := String.ofList w.written.reverse

/-- Writes some characters, which change nothing but the column. -/
def put (w : Writer) (cs : List Char) : Writer :=
  { w with written := cs.reverse ++ w.written, column := w.column + cs.length }

/-- Breaks the line. -/
def breakLineWith (w : Writer) (c : Char) : Writer := ⟨c :: w.written, 0, true, true⟩

/-- Breaks the line. -/
def breakLine (w : Writer) : Writer := w.breakLineWith '\n'

/-- Goes to the given column, on a new line unless the present one ends before it. -/
def indentTo (w : Writer) (indent : Nat) : Writer :=
  let w :=
    if !w.indenting || indent < w.column || (w.column = indent && !w.spaced) then w.breakLine
    else w
  if w.column < indent then
    { w.put (List.replicate (indent - w.column) ' ') with spaced := true }
  else w

/-- Writes an indicator. The flags say whether a blank must stand before it, and whether the line
may still be called empty after it. -/
def indicator (w : Writer) (s : String) (needsBlank indents : Bool) : Writer :=
  let w := w.put (if w.spaced || !needsBlank then s.toList else ' ' :: s.toList)
  { w with spaced := false, indenting := w.indenting && indents }

/-- The line is not empty any more. -/
def inText (w : Writer) : Writer := { w with spaced := false, indenting := false }

/-! ### Scalars -/

/-- The widest column at which a line is not folded. -/
def width : Nat := 80

/-- A maximal run of blanks, of breaks or of other characters. -/
inductive Run
  | blanks (count : Nat)
  | breaks (cs : List Char)
  | word (cs : List Char)

/-- The runs of a text. -/
def runs : List Char → List Run
  | [] => []
  | c :: rest =>
    if c = ' ' then
      match runs rest with
      | .blanks n :: more => .blanks (n + 1) :: more
      | more => .blanks 1 :: more
    else if isTextBreak c then
      match runs rest with
      | .breaks cs :: more => .breaks (c :: cs) :: more
      | more => .breaks [c] :: more
    else
      match runs rest with
      | .word cs :: more => .word (c :: cs) :: more
      | more => .word [c] :: more

/-- Writes a run of blanks. A single blank inside a text is folded after the last column. -/
def putBlanks (w : Writer) (indent count : Nat) (folds : Bool) : Writer :=
  if count = 1 && folds && width < w.column then w.indentTo indent
  else w.put (List.replicate count ' ')

/-- Writes the runs of a plain text. -/
def putPlainRuns (w : Writer) (indent : Nat) (split : Bool) : List Run → Writer
  | [] => w
  | .blanks n :: rest =>
    let folded := n = 1 && split && width < w.column
    let w := w.putBlanks indent n split
    putPlainRuns (if folded then w.inText else w) indent split rest
  | .breaks cs :: rest => putPlainRuns (w.put cs) indent split rest
  | .word cs :: rest => putPlainRuns (w.put cs) indent split rest

/-- Writes a text plain. -/
def plain (w : Writer) (indent : Nat) (split : Bool) (text : String) : Writer :=
  let w := if w.spaced then w else w.put [' ']
  w.inText.putPlainRuns indent split (runs text.toList)

/-- Writes line breaks inside quotes. A newline takes another one, for a single one would be read
as a blank. -/
def putBreaks (w : Writer) (indent : Nat) (cs : List Char) : Writer :=
  let w := if cs.head? = some '\n' then w.breakLine else w
  (cs.foldl (fun w c => w.breakLineWith c) w).indentTo indent

/-- Writes the runs of a text in single quotes. The first run and the last are not folded. -/
def putSingleRuns (w : Writer) (indent : Nat) (split first : Bool) : List Run → Writer
  | [] => w
  | .blanks n :: rest =>
    putSingleRuns (w.putBlanks indent n (split && !first && !rest.isEmpty)) indent split false rest
  | .breaks cs :: rest => putSingleRuns (w.putBreaks indent cs) indent split false rest
  | .word cs :: rest =>
    let doubled := cs.flatMap fun c => if c = '\'' then ['\'', '\''] else [c]
    putSingleRuns (w.put doubled) indent split false rest

/-- Writes a text in single quotes. -/
def single (w : Writer) (indent : Nat) (split : Bool) (text : String) : Writer :=
  let w := w.indicator "'" true false
  (w.putSingleRuns indent split true (runs text.toList)).indicator "'" false false

/-- A character inside double quotes, if it is escaped. -/
def escaped? (c : Char) : Option (List Char) :=
  let letter? : Option Char :=
    match c with
    | '\x00' => some '0'
    | '\x07' => some 'a'
    | '\x08' => some 'b'
    | '\t' => some 't'
    | '\n' => some 'n'
    | '\x0B' => some 'v'
    | '\x0C' => some 'f'
    | '\r' => some 'r'
    | '\x1B' => some 'e'
    | '"' => some '"'
    | '\\' => some '\\'
    | '\x85' => some 'N'
    | '\xA0' => some '_'
    | '\u2028' => some 'L'
    | '\u2029' => some 'P'
    | _ => none
  let numbered (letter : Char) (count : Nat) : List Char :=
    '\\' :: letter :: (Pad.hexNat count c.toNat).toList.map Char.toUpper
  match letter? with
  | some d => some ['\\', d]
  | none =>
    if ' ' ≤ c ∧ c ≤ '~' then none
    else if c.toNat < 0x100 then some (numbered 'x' 2)
    else if c.toNat < 0x10000 then some (numbered 'u' 4)
    else some (numbered 'U' 8)

/-- Folds the line inside double quotes: a backslash before the break, and one after it if a blank
comes next. -/
def foldDouble (w : Writer) (indent : Nat) (next : Option Char) : Writer :=
  let w := ((w.put ['\\']).indentTo indent).inText
  if next = some ' ' then w.put ['\\'] else w

/-- Writes the rest of a text in double quotes. Characters that are not escaped are held back in
`pending`, the last of them first, until a blank or an escape. The line is folded after the last
column at a blank or after an escape, but not after the first character nor before the last. -/
def putDouble (w : Writer) (indent : Nat) (split first : Bool) (pending : List Char) :
    List Char → Writer
  | [] => w.put pending.reverse
  | c :: rest =>
    let mayFold := split && !first && !rest.isEmpty
    match escaped? c with
    | some cs =>
      let w := (w.put pending.reverse).put cs
      let w := if mayFold && width + 1 < w.column then w.foldDouble indent rest.head? else w
      putDouble w indent split false [] rest
    | none =>
      let wide := width < w.column + pending.length
      if mayFold && wide && (c = ' ' || pending.isEmpty) then
        let w := (w.put pending.reverse).foldDouble indent (some c)
        putDouble w indent split false [c] rest
      else putDouble w indent split false (c :: pending) rest

/-- Writes a text in double quotes. -/
def double (w : Writer) (indent : Nat) (split : Bool) (text : String) : Writer :=
  let w := w.indicator "\"" true false
  (w.putDouble indent split true [] text.toList).indicator "\"" false false

/-- The text of a scalar that is no text. -/
def wordOf : Scalar → String
  | .null => "null"
  | .bool true => "true"
  | .bool false => "false"
  | .int n => toString n
  | .float x => FloatStyle.yaml.render x
  | .text s => s
  | .day d => d.text
  | .moment m => m.text

/-- Writes a scalar. A key stays on its line, and a key is not plain if it is empty. -/
def scalar (w : Writer) (indent : Nat) (isKey : Bool) (s : Scalar) : Writer :=
  let word := wordOf s
  let a := analyze word
  match s with
  | .text _ =>
    if PlainKind.of word == .text && a.plain then w.plain indent (!isKey) word
    else if a.single && !(isKey && a.multiline) then w.single indent (!isKey) word
    else w.double indent (!isKey) word
  | _ => w.plain indent (!isKey) word

/-! ### Collections -/

/-- The number of characters of the tag that a scalar of this kind would have. -/
def tagLength : Scalar → Nat
  | .null => 6
  | .bool _ => 6
  | .int _ => 5
  | .float _ => 7
  | .text _ => 5
  | .day _ | .moment _ => 11

/-- The key can stand on one line before its colon. -/
def isSimpleKey (k : Scalar) : Bool :=
  let word := wordOf k
  tagLength k + word.length < 128 && word != "" && !(analyze word).multiline

mutual

/-- Writes a value inside a collection with the given indentation. The flag says that it is part
of an entry of a mapping. -/
def value (w : Writer) (indent : Nat) (inMapping : Bool) : Value → Writer
  | .scalar s => w.scalar (indent + 2) false s
  | .list [] => (w.indicator "[" true false).indicator "]" false false
  | .map [] => (w.indicator "\x7b" true false).indicator "\x7d" false false
  | .list (v :: vs) =>
    w.items (if inMapping && !w.indenting then indent else indent + 2) (v :: vs)
  | .map (e :: es) => w.entries (indent + 2) (e :: es)

/-- Writes the items of a sequence. -/
def items (w : Writer) (indent : Nat) : List Value → Writer
  | [] => w
  | v :: vs =>
    let w := (w.indentTo indent).indicator "-" true true
    (w.value indent false v).items indent vs

/-- Writes the entries of a mapping. -/
def entries (w : Writer) (indent : Nat) : List (Scalar × Value) → Writer
  | [] => w
  | (k, v) :: es =>
    let w := w.indentTo indent
    let w :=
      if isSimpleKey k then (w.scalar (indent + 2) true k).indicator ":" false false
      else
        let w := (w.indicator "?" true true).scalar (indent + 2) false k
        (w.indentTo indent).indicator ":" true true
    (w.value indent true v).entries indent es

end

end Writer

/-- The text of a mapping, ending with a newline. -/
def write (entries : Mapping) : String :=
  match entries with
  | [] => "\x7b\x7d\n"
  | entries => ((Writer.start.entries 0 entries).indentTo 0).text

/-- The text of a mapping whose numbers can all be written. -/
def write? (entries : Mapping) : Except WordingFault String :=
  if (Value.map entries).holdsLong then .error .longNumber else .ok (write entries)

end SwitchTrace.Yaml
