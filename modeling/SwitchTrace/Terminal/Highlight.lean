import SwitchTrace.Numeric.NumberText
import SwitchTrace.Terminal.Marked
import SwitchTrace.Text.Alphanumeric
import SwitchTrace.Text.HexDigit
import SwitchTrace.Text.Pattern

/-!
# Highlights

A terminal highlights what looks like a value of a program: numbers, addresses, paths, words in
quotes, and so on. Without colours nothing of this is seen, but highlights divide a text into the
pieces that are measured.

## Main definitions

* `Highlight.patterns` — what is highlighted.
* `Highlight.spans` — the highlights of a text.
-/

namespace SwitchTrace.Highlight

open Pattern

/-! ### Characters -/

/-- A character of a name. -/
def wordChar : Pattern := .one Alphanumeric.inName

/-- A digit of ASCII. -/
def digit : Pattern := .one Char.isDigit

/-- A digit of any script. -/
def anyDigit : Pattern := .one fun c => (NumberText.digit? c).isSome

/-- A hexadecimal digit. -/
def hex : Pattern := .one isHexDigit

/-- Any character. -/
def anyChar : Pattern := .one fun _ => true

/-- A character that ends no line. -/
def lineChar : Pattern := .one (· != '\n')

/-- A character of a name, or one of some others. -/
def wordCharOr (others : String) : Pattern :=
  let choice := others.toList
  .one fun c => Alphanumeric.inName c || choice.contains c

/-- The character before the place is of no class. -/
def notAfter (holds : Char → Bool) : Pattern := .beside fun before _ => !before.any holds

/-- A word begins or ends at the place. -/
def atEdge (before after : Option Char) : Bool :=
  before.any Alphanumeric.inName != after.any Alphanumeric.inName

/-- The edge of a word. -/
def edge : Pattern := .beside atEdge

/-- No edge of a word. -/
def noEdge : Pattern := .beside fun before after => !atEdge before after

/-! ### Values -/

/-- An element with a name in angle brackets. -/
def element : Pattern :=
  all [.marked (char '<'), .marked (many (wordCharOr "-.:|")), .marked (many anyChar),
    .marked (char '>')]

/-- A name before an equals sign, and the word after it, with quotes or without. -/
def assignment : Pattern :=
  all [.marked (.often 1 50 wordChar), char '=',
    optional (.marked (all [optional (char '"'), several wordChar, optional (char '"')]))]

/-- A bracket. -/
def bracket : Pattern := .marked (oneOf "[]\x7b\x7d()")

/-- An address of four numbers. -/
def fourNumbers : Pattern :=
  let number := Pattern.often 1 3 digit
  .marked (all [number, char '.', number, char '.', number, char '.', number])

/-- An address of up to eight hexadecimal numbers. -/
def eightNumbers : Pattern :=
  let number := Pattern.often 1 4 hex
  .marked (all [.often 1 7 (all [number, char ':', optional (char ':')]), number])

/-- An address of a device: so many pairs of hexadecimal digits after the first, or groups of four
digits after the first. -/
def deviceAddress (pairs groups : Nat) : Pattern :=
  let pair := Pattern.often 1 2 hex
  let group := times 4 hex
  .marked (any [all [times pairs (all [pair, char '-']), pair],
    all [times pairs (all [pair, char ':']), pair],
    all [times groups (all [group, char '.']), group]])

/-- An identifier of five groups of hexadecimal digits. -/
def identifier : Pattern :=
  .marked (all [times 8 hex, char '-', times 4 hex, char '-', times 4 hex, char '-', times 4 hex,
    char '-', times 12 hex])

/-- A name before an opening parenthesis. -/
def call : Pattern := all [.marked (.seldom 0 unbounded (wordCharOr ".")), char '(']

/-- A word that stands alone. -/
def word (s : String) : Pattern := all [edge, .marked (text s), edge]

/-- An exponent, with no more digits than are needed or with all of them. -/
def exponent (short : Bool) : Pattern :=
  all [char 'e', optional (oneOf "-+"),
    if short then .seldom 1 unbounded anyDigit else several anyDigit]

/-- Digits with a point and digits after it if wanted. -/
def decimal : Pattern := all [several digit, optional (char '.'), many digit]

/-- No word goes on at the place. -/
def notInWord : Pattern := notAfter Alphanumeric.inName

/-- An imaginary number, and perhaps a number before it to which it is added. -/
def complexNumber : Pattern :=
  .marked (all [notInWord, optional (char '-'), decimal, optional (exponent true),
    optional (all [oneOf "-+", decimal, optional (exponent false)]), char 'j'])

/-- A number. -/
def number : Pattern :=
  .marked (any [all [notInWord, optional (char '-'), decimal, optional (exponent true), edge],
    all [text "0x", many hex]])

/-- A path up to its last slash, and the name after it. -/
def path : Pattern :=
  let inPath := wordCharOr "-._+"
  all [.marked (all [noEdge, many (all [char '/', several inPath]), char '/']),
    optional (.marked (many inPath))]

/-- Words in quotes. A quote after a backslash does not end them. -/
def quoted (quotes : String) : Pattern :=
  all [optional (char 'b'), text quotes, .seldom 0 unbounded lineChar, notAfter (· == '\\'),
    text quotes]

/-- Words in quotes of one of four kinds. -/
def quotation : Pattern :=
  all [notAfter fun c => c == '\\' || Alphanumeric.inName c,
    .marked (any [quoted "'''", quoted "'", quoted "\"\"\"", quoted "\""])]

/-- The address of a page. -/
def pageAddress : Pattern :=
  let marks := "-$_+!\x60(),.?/;:&=%#~@".toList
  let follows (c : Char) : Bool := c.isAlphanum || marks.contains c
  .marked (all [any [text "file", text "https", text "http", text "ws", text "wss"], text "://",
    many (.one follows)])

/-! ### Texts -/

/-- What is highlighted. Each pattern is searched for in the whole text. -/
def patterns : List Pattern :=
  [element, assignment, bracket,
    any [fourNumbers, eightNumbers, deviceAddress 7 3, deviceAddress 5 2, identifier, call,
      any [word "True", word "False", word "None"], .marked (text "..."), complexNumber, number,
      path, quotation, pageAddress]]

/-- The highlights of a text, which have no styles of their own here. Where no mark joins
characters or makes them wider, pieces take as many columns as the whole, so that none are looked
for. -/
def spans (cs : List Char) : List StyledSpan :=
  if cs.contains Columns.joiner || cs.contains Columns.selector then
    patterns.flatMap fun p =>
      ((p.search cs).filter fun m => m.1 < m.2).map fun m => ⟨m.1, m.2, ""⟩
  else []

end SwitchTrace.Highlight
