import SwitchTrace.Byte.LittleEndian
import SwitchTrace.Text.Pad
import SwitchTrace.Text.Printable

/-!
# Quoted texts

A text in quotes shows every character: the printable ones as they are, and the others, the quote
and the backslash escaped. The quote is `'`, or `"` for a text that has the former and not the
latter. Byte strings are shown in the same way, with every byte outside printable ASCII escaped.

## Main definitions

* `Quoted.text` — a text in quotes.
* `Quoted.bytes` — a byte string in quotes.
-/

namespace SwitchTrace.Quoted

/-- The quote for a text of the given characters. -/
def quoteFor (cs : List Char) : Char :=
  if cs.contains '\'' && !cs.contains '"' then '"' else '\''

/-- An escape of a letter and a hexadecimal number. -/
def numbered (letter : Char) (width n : Nat) : List Char :=
  '\\' :: letter :: (Pad.hexNat width n).toList

/-- The escape of a character by its number, in the shortest form that holds it. -/
def byNumber (n : Nat) : List Char :=
  if n < 0x100 then numbered 'x' 2 n
  else if n < 0x10000 then numbered 'u' 4 n
  else numbered 'U' 8 n

/-- A character between the given quotes. -/
def char (quote c : Char) : List Char :=
  if c = quote ∨ c = '\\' then ['\\', c]
  else if c = '\t' then ['\\', 't']
  else if c = '\n' then ['\\', 'n']
  else if c = '\r' then ['\\', 'r']
  else if isPrintable c then [c]
  else byNumber c.toNat

/-- The characters in quotes. -/
def enclose (quote : Char) (f : Char → List Char) (cs : List Char) : List Char :=
  quote :: cs.flatMap f ++ [quote]

/-- The text in quotes. -/
def text (s : String) : String :=
  let quote := quoteFor s.toList
  String.ofList (enclose quote (char quote) s.toList)

/-- A byte between the given quotes, as the character of its number. -/
def byte (quote c : Char) : List Char :=
  if c.toNat < 0x7F then char quote c else byNumber c.toNat

/-- The byte string in quotes, with the letter of byte strings before them. -/
def bytes (bs : Bytes) : String :=
  let cs := bs.map fun b => Char.ofNat b.toNat
  let quote := quoteFor cs
  String.ofList ('b' :: enclose quote (byte quote) cs)

end SwitchTrace.Quoted
