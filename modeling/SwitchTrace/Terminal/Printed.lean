import SwitchTrace.Terminal.Highlight
import SwitchTrace.Terminal.Table

/-!
# Texts for the terminal

## Main definitions

* `Terminal.print` — what the terminal shows of a text with markup.
* `Terminal.printTable` — what it shows of a table.
* `Terminal.withoutColours` — a plain text without the sequences that set colours.
-/

namespace SwitchTrace.Terminal

/-- The number of columns of the terminal. -/
def width : Nat := 400

/-- Lines as a text, each with its end. -/
def ofLines (lines : List (List Char)) : String :=
  String.ofList (lines.flatMap fun line => line ++ ['\n'])

/-- What the terminal shows of a text with styles. -/
def printMarked (m : Marked) : Except MarkupFault String := do
  let lines ← Markup.checkStyles (Wrap.paragraph width .fold .ragged m)
  return ofLines (lines.map fun line => Columns.crop width line.segments)

/-- What the terminal shows of a text with markup. -/
def print (markup : String) : Except MarkupFault String := do printMarked (← Markup.render markup)

/-- What the terminal shows of a text with markup, with highlights. -/
def printHighlighted (markup : String) : Except MarkupFault String := do
  let m ← Markup.render markup
  printMarked { m with spans := Highlight.spans m.chars ++ m.spans }

/-- What the terminal shows of a table. -/
def printTable (t : Table) : Except MarkupFault String := ofLines <$> t.render width

/-- The character may stand among the parameters of a control sequence. -/
def isParameter (c : Char) : Bool := c.isDigit || c = ';' || c = '?'

/-- The characters after a control sequence whose first two characters are not part of the
characters that are given. -/
def afterSequence? (cs : List Char) : Option (List Char) :=
  match cs.dropWhile isParameter with
  | c :: rest => if c.isAlpha then some rest else none
  | [] => none

theorem length_of_afterSequence? {cs rest : List Char} (h : afterSequence? cs = some rest) :
    rest.length < cs.length := by
  unfold afterSequence? at h
  split at h
  · next heq =>
    have hle := (List.dropWhile_sublist (l := cs) isParameter).length_le
    rw [heq, List.length_cons] at hle
    split at h
    · cases h
      omega
    · cases h
  · cases h

/-- The characters without control sequences. -/
def dropSequences : List Char → List Char
  | [] => []
  | '\x1B' :: '[' :: cs =>
    match _h : afterSequence? cs with
    | some rest => dropSequences rest
    | none => '\x1B' :: dropSequences ('[' :: cs)
  | c :: cs => c :: dropSequences cs
termination_by cs => cs.length
decreasing_by
  · have := length_of_afterSequence? _h
    simp only [List.length_cons]
    omega
  · simp
  · simp

/-- A plain text without the sequences that set colours. -/
def withoutColours (s : String) : String := String.ofList (dropSequences s.toList)

end SwitchTrace.Terminal
