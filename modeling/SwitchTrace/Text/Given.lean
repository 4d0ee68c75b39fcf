import SwitchTrace.Text.Pad

/-!
# Texts as they are given

A text that a caller gives is a list of code points. Most code points are characters; the
surrogates, U+D800 to U+DFFF, are none, and a text with one of them has no UTF-8.

## Main definitions

* `CodePoint`, `CodePoint.char?` — the numbers of Unicode, and the characters with them.
* `GivenText`, `GivenText.text?` — texts that may have surrogates, and those that have none.
* `GivenText.refusal` — what is said of a text that has no UTF-8.
-/

namespace SwitchTrace

/-! ### Code points -/

/-- A number of Unicode: that of a character, or a surrogate. -/
abbrev CodePoint := Fin 0x110000

namespace CodePoint

/-- The number is a surrogate, and so of no character. -/
def IsSurrogate (p : CodePoint) : Prop := 0xD800 ≤ p.val ∧ p.val < 0xE000

instance (p : CodePoint) : Decidable p.IsSurrogate := by unfold IsSurrogate; infer_instance

/-- The first of the surrogates. -/
def firstSurrogate : CodePoint := ⟨0xD800, by decide⟩

/-- The surrogate stands for a byte of a name that is no text: U+DC80 to U+DCFF for 0x80 to 0xFF. -/
def StandsForByte (p : CodePoint) : Prop := 0xDC80 ≤ p.val ∧ p.val < 0xDD00

instance (p : CodePoint) : Decidable p.StandsForByte := by unfold StandsForByte; infer_instance

/-- The character with the number. -/
def char? (p : CodePoint) : Option Char :=
  if p.IsSurrogate then none else some (Char.ofNat p.val)

/-- The number of a character. -/
def ofChar (c : Char) : CodePoint :=
  ⟨c.toNat, by
    rcases c.valid with h | ⟨-, h⟩
    · exact Nat.lt_trans h (by decide)
    · exact h⟩

end CodePoint

/-! ### Texts -/

/-- A text that may have surrogates. -/
structure GivenText where
  points : List CodePoint
deriving DecidableEq, Repr, Inhabited

namespace GivenText

/-- A text of characters. -/
def ofText (s : String) : GivenText := ⟨s.toList.map .ofChar⟩

/-- The text of characters, if there are no surrogates. -/
def text? (g : GivenText) : Option String := (g.points.mapM CodePoint.char?).map String.ofList

/-- A code point of the text is a surrogate. -/
def HasSurrogate (g : GivenText) : Prop := ∃ p ∈ g.points, p.IsSurrogate

instance (g : GivenText) : Decidable g.HasSurrogate := List.decidableBEx _ g.points

/-- A code point of the text stands for a byte. -/
def HasByte (g : GivenText) : Prop := ∃ p ∈ g.points, p.StandsForByte

instance (g : GivenText) : Decidable g.HasByte := List.decidableBEx _ g.points

/-- What is said of a text that has no UTF-8. It tells where the first surrogates are. -/
def refusal (g : GivenText) : String :=
  let start := (g.points.takeWhile fun p => !decide p.IsSurrogate).length
  let found := (g.points.drop start).takeWhile fun p => decide p.IsSurrogate
  let place :=
    match found with
    | [p] => "character '\\u" ++ Pad.hexNat 4 p.val ++ "' in position " ++ toString start
    | _ => "characters in position " ++ toString start ++ "-" ++
        toString (start + found.length - 1)
  "'utf-8' codec can't encode " ++ place ++ ": surrogates not allowed"

end GivenText

end SwitchTrace
