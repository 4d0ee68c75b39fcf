/-!
# Capital letters

## Main definitions

* `Letters.capitals` — the capital letters of a character, as far as they are ASCII.
* `Letters.capitalized` — a text in capital letters.
-/

namespace SwitchTrace.Letters

/-- The capital letters of a character. Of the characters beyond ASCII only those are changed
whose capital letters are ASCII, which is enough to compare with words of ASCII. -/
def capitals (c : Char) : List Char :=
  match c with
  | '\u00DF' => ['S', 'S']
  | '\u0131' => ['I']
  | '\u017F' => ['S']
  | '\uFB00' => ['F', 'F']
  | '\uFB01' => ['F', 'I']
  | '\uFB02' => ['F', 'L']
  | '\uFB03' => ['F', 'F', 'I']
  | '\uFB04' => ['F', 'F', 'L']
  | '\uFB05' => ['S', 'T']
  | '\uFB06' => ['S', 'T']
  | c => [c.toUpper]

/-- A text in capital letters. -/
def capitalized (s : String) : String := String.ofList (s.toList.flatMap capitals)

end SwitchTrace.Letters
