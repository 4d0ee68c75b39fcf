import SwitchTrace.Calendar.Text
import SwitchTrace.Numeric.DigitLimit

/-!
# Characters of YAML texts

## Main definitions

* `Yaml.Fault`, `Yaml.FaultAt` — why a text cannot be read, and where.
* `Yaml.Source` — a text as far as it can be read.
* `Yaml.isAllowed` — the characters that a text may hold.
* `Yaml.isBreak`, `Yaml.takeBreak?` — line breaks.
* `Yaml.atWordEnd`, `Yaml.atMarker` — what may follow an indicator, and the markers between
  documents.
-/

namespace SwitchTrace.Yaml

/-- Why a text cannot be read. -/
inductive Fault
  /-- The text breaks a rule of the format, or uses a part of it that settings have no use for:
  directives, tags, anchors, aliases, block scalars and surrogates. -/
  | malformed
  /-- A number of the given base has no digits. -/
  | noDigits (base : Nat)
  /-- An escape gives the number of no character. -/
  | noCharacter
  /-- A number is too large to be worked with. -/
  | tooLarge
  /-- A number has so many digits, which are too many. -/
  | tooManyDigits (count : Nat)
  /-- There is no room for so many collections inside one another. -/
  | tooDeep
  /-- The numbers of a date are no day or no time. -/
  | notOnCalendar (fault : CalendarFault)
  /-- More of the text is needed than can be read. -/
  | brokenOff
deriving DecidableEq, Repr

/-- The message for a fault of a number, of an escape or of a date. -/
def Fault.message : Fault → String
  | .malformed => "malformed text"
  | .noDigits base => "invalid literal for int() with base " ++ toString base ++ ": ''"
  | .noCharacter => "chr() arg not in range(0x110000)"
  | .tooLarge => "number too large"
  | .tooManyDigits count => longTextMessage count
  | .tooDeep => "collections nested too deep"
  | .notOnCalendar fault => fault.message
  | .brokenOff => "text breaks off"

/-- A fault and the place where it is found, given by the characters from there on. -/
structure FaultAt where
  fault : Fault
  rest : List Char

/-- The text breaks a rule at a place. -/
def refuseAt {α : Type} (rest : List Char) : Except FaultAt α := .error ⟨.malformed, rest⟩

/-- The character may stand in a text: it is printable, or a break or a tab. -/
def isAllowed (c : Char) : Bool :=
  let n := c.toNat
  c = '\t' || c = '\n' || c = '\r' || (0x20 ≤ n && n ≤ 0x7E) || n = 0x85 ||
    (0xA0 ≤ n && n ≤ 0xD7FF) || (0xE000 ≤ n && n ≤ 0xFFFD) || 0x10000 ≤ n

/-- A text as far as it can be read. -/
structure Source where
  chars : List Char
  /-- The text goes on, but nothing more of it can be read. -/
  broken : Bool
deriving DecidableEq, Repr

/-- A text that can be read to its end. -/
def Source.ofText (text : String) : Except Fault Source :=
  if text.toList.all isAllowed then .ok ⟨text.toList, false⟩ else .error .malformed

/-- The character breaks a line. -/
def isBreak (c : Char) : Bool :=
  c = '\n' || c = '\r' || c = '\x85' || c = '\u2028' || c = '\u2029'

/-- The character is a blank or a tab. -/
def isBlank (c : Char) : Bool := c = ' ' || c = '\t'

/-- A line break at the start, read as a newline unless it is one of the two separators of
Unicode, and the rest. -/
def takeBreak? : List Char → Option (Char × List Char)
  | '\r' :: '\n' :: rest => some ('\n', rest)
  | c :: rest =>
    if c = '\n' ∨ c = '\r' ∨ c = '\x85' then some ('\n', rest)
    else if c = '\u2028' ∨ c = '\u2029' then some (c, rest)
    else none
  | [] => none

/-- A word ends here: at a blank, a tab, a break or the end. -/
def atWordEnd : List Char → Bool
  | [] => true
  | c :: _ => isBlank c || isBreak c

/-- The three given characters stand here as a word. -/
def atWord (c : Char) : List Char → Bool
  | a :: b :: d :: rest => a = c && b = c && d = c && atWordEnd rest
  | _ => false

/-- A marker between documents stands here. It counts at the start of a line only. -/
def atMarker (cs : List Char) : Bool := atWord '-' cs || atWord '.' cs

end SwitchTrace.Yaml
