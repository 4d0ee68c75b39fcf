import SwitchTrace.Numeric.DecimalText
import SwitchTrace.Numeric.DigitLimit
import SwitchTrace.Text.Blank

/-!
# Numbers that a user types

A number may have white space around it, a sign, and single underscores inside, and its digits are
those of ASCII. Whole numbers may have zeros before them, and a point and zeros after them. Other
numbers are decimal numbers with a point and an exponent if wanted, or words for the infinite and
for what is not a number; with underscores they may not have white space around them.

## Main definitions

* `NumberText.readInt?` — the whole number that a text stands for.
* `NumberText.readFloat?` — the binary64 number that a text stands for.
* `NumberText.digit?` — the value of a digit of any script.
-/

namespace SwitchTrace.NumberText

/-! ### Characters -/

/-- The numbers of the digits zero of all scripts. The other nine follow each of them. -/
def zeros : List Nat :=
  [0x30, 0x660, 0x6F0, 0x7C0, 0x966, 0x9E6, 0xA66, 0xAE6, 0xB66, 0xBE6, 0xC66, 0xCE6, 0xD66, 0xDE6,
  0xE50, 0xED0, 0xF20, 0x1040, 0x1090, 0x17E0, 0x1810, 0x1946, 0x19D0, 0x1A80, 0x1A90, 0x1B50,
  0x1BB0, 0x1C40, 0x1C50, 0xA620, 0xA8D0, 0xA900, 0xA9D0, 0xA9F0, 0xAA50, 0xABF0, 0xFF10, 0x104A0,
  0x10D30, 0x11066, 0x110F0, 0x11136, 0x111D0, 0x112F0, 0x11450, 0x114D0, 0x11650, 0x116C0, 0x11730,
  0x118E0, 0x11950, 0x11C50, 0x11D50, 0x11DA0, 0x16A60, 0x16AC0, 0x16B50, 0x1D7CE, 0x1D7D8, 0x1D7E2,
  0x1D7EC, 0x1D7F6, 0x1E140, 0x1E2F0, 0x1E950, 0x1FBF0]

/-- The value of a digit of any script. -/
def digit? (c : Char) : Option Nat :=
  (zeros.find? fun z => z ≤ c.toNat && c.toNat < z + 10).map (c.toNat - ·)

/-- The character may stand around a number. -/
def isMargin (c : Char) : Bool := Blank.isSpace c && !('\x1C' ≤ c && c ≤ '\x1F')

/-- The characters after a sign, if there is one, and whether the sign is negative. -/
def splitSign : List Char → Bool × List Char
  | '-' :: cs => (true, cs)
  | '+' :: cs => (false, cs)
  | cs => (false, cs)

/-! ### Whole numbers -/

/-- The whole number of digits without zeros before them, with a minus sign or none. -/
def strictInt? (cs : List Char) : Option Int :=
  let (negative, digits) := splitSign cs
  let padded := digits.head? = some '0' && 1 < digits.length
  if digits.isEmpty || !digits.all Char.isDigit || padded || digitLimit < cs.length then none
  else
    let n := Decimal.ofDigits digits
    some (if negative then -n else n)

/-- What follows zeros, the last of which is given, and underscores. Before a point, and where
nothing follows, the last character stays. -/
def afterZeros? (last : Char) : List Char → Option (List Char)
  | [] => some [last]
  | c :: cs =>
    if c = '0' ∨ c = '_' then afterZeros? c cs
    else if c.isDigit then some (c :: cs)
    else if c = '.' then some (last :: c :: cs)
    else none

/-- The characters without zeros before a whole number. They begin with a digit. -/
def dropZeros? : List Char → Option (List Char)
  | [] => none
  | c :: cs =>
    if c = '0' then afterZeros? c cs
    else if c.isDigit then some (c :: cs)
    else none

/-- The characters without a point and the zeros after it. -/
def dropFraction (cs : List Char) : List Char :=
  match cs.dropWhile (· != '.') with
  | _ :: zero :: zeros =>
    if (zero :: zeros).all (· = '0') then cs.takeWhile (· != '.') else cs
  | _ => cs

/-- Two underscores stand next to each other. -/
def hasDoubled : List Char → Bool
  | c :: d :: cs => (c = '_' && d = '_') || hasDoubled (d :: cs)
  | _ => false

/-- The characters without underscores, if each of them stands alone between others. -/
def dropUnderscores (cs : List Char) : List Char :=
  if cs.head? = some '_' ∨ cs.getLast? = some '_' ∨ hasDoubled cs then cs
  else cs.filter (· != '_')

/-- The characters of a whole number without what it can do without. -/
def tidyInt? (cs : List Char) : Option (List Char) :=
  let (negative, digits) := splitSign (Blank.trim isMargin cs)
  (dropZeros? digits).map fun ds =>
    let ds := dropUnderscores (dropFraction ds)
    if negative then '-' :: ds else ds

/-- The whole number that a text stands for. -/
def readInt? (s : String) : Option Int := (tidyInt? s.toList).bind strictInt?

/-! ### Other numbers -/

/-- The binary64 number of characters without underscores and white space. -/
def plainFloat? (cs : List Char) : Option Binary64 :=
  let (negative, body) := splitSign cs
  let word := String.ofList (body.map Char.toLower)
  if word = "inf" ∨ word = "infinity" then some (.infinity negative)
  else if word = "nan" then some .nan
  else (Decimal.read? body).map (Decimal.toBinary64 negative)

/-- The binary64 number that a text stands for. -/
def readFloat? (s : String) : Option Binary64 :=
  match plainFloat? (Blank.trim isMargin s.toList) with
  | some x => some x
  | none => plainFloat? (dropUnderscores s.toList)

end SwitchTrace.NumberText
