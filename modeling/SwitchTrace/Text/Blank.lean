/-!
# White space

## Main definitions

* `Blank.isAscii` — the white space of ASCII that separates numbers.
* `Blank.isSpace` — the white space of Unicode.
* `Blank.trim` — characters without white space around them.
-/

namespace SwitchTrace.Blank

/-- A space, a tab, or one of the characters that end lines and pages. -/
def isAscii (c : Char) : Bool := c = ' ' || ('\t' ≤ c && c ≤ '\r')

/-- White space of Unicode, the four separators of ASCII among it. -/
def isSpace (c : Char) : Bool :=
  isAscii c || ('\x1C' ≤ c && c ≤ '\x1F') || c = '\u0085' || c = '\u00A0' || c = '\u1680' ||
    ('\u2000' ≤ c && c ≤ '\u200A') || c = '\u2028' || c = '\u2029' || c = '\u202F' ||
    c = '\u205F' || c = '\u3000'

/-- The characters without those of a class at the end. -/
def trimEnd (p : Char → Bool) (cs : List Char) : List Char := (cs.reverse.dropWhile p).reverse

/-- The characters without those of a class at the start and at the end. -/
def trim (p : Char → Bool) (cs : List Char) : List Char := trimEnd p (cs.dropWhile p)

end SwitchTrace.Blank
