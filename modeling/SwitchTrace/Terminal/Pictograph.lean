import SwitchTrace.Terminal.Pictograph.Beings
import SwitchTrace.Terminal.Pictograph.Flags
import SwitchTrace.Terminal.Pictograph.Objects
import SwitchTrace.Terminal.Pictograph.Sequences
import SwitchTrace.Terminal.Pictograph.Signs
import SwitchTrace.Terminal.Pictograph.Toned
import SwitchTrace.Text.Blank
import SwitchTrace.Text.HexDigit
import SwitchTrace.Text.SmallLetters
import SwitchTrace.Text.Split

/-!
# Pictures by their names

A text may name a picture between two colons, and ask for its form as text or as picture.

## Main definitions

* `Pictograph.find?` — the picture with a name.
* `Pictograph.replace` — a text with pictures for their names.
-/

namespace SwitchTrace.Pictograph

/-! ### Tables -/

/-- The pictures that have no tone. -/
def plain : List String := signs ++ objects ++ beings ++ flags ++ sequences

/-- The tones of skin by their names, each with the number of its character in hexadecimal. -/
def tones : List (List Char × List Char) :=
  [("dark".toList, "1F3FF".toList), ("medium-dark".toList, "1F3FE".toList),
    ("medium".toList, "1F3FD".toList), ("medium-light".toList, "1F3FC".toList),
    ("light".toList, "1F3FB".toList)]

/-- The characters of a line of a table, if it has the given name. -/
def charsOf? (name : List Char) (line : List Char) : Option (List Char) :=
  match parts ' ' line with
  | numbers :: names =>
    if names.contains name then
      some ((parts '-' numbers).map fun digits => Char.ofNat (hexNumber digits))
    else none
  | [] => none

/-- A line of a table in a tone: the star among its numbers stands for the character of the tone,
and those in its names for the name of the tone. -/
def inTone (tone : List Char × List Char) (line : List Char) : List Char :=
  let numbers := line.takeWhile (· != ' ')
  let names := line.dropWhile (· != ' ')
  (numbers.flatMap fun c => if c = '*' then tone.2 else [c]) ++
    names.flatMap fun c => if c = '*' then tone.1 else [c]

/-- The characters of the picture with the given name. -/
def find? (name : List Char) : Option (List Char) :=
  match plain.findSome? fun line => charsOf? name line.toList with
  | some cs => some cs
  | none =>
    tones.findSome? fun tone => toned.findSome? fun line => charsOf? name (inTone tone line.toList)

/-! ### Names in texts -/

/-- The name up to the next colon, and the characters after the colon. White space is no part of a
name. -/
def name? (cs : List Char) : Option (List Char × List Char) :=
  match cs.dropWhile fun c => c != ':' && !Blank.isSpace c with
  | ':' :: rest => some (cs.takeWhile fun c => c != ':' && !Blank.isSpace c, rest)
  | _ => none

theorem length_of_name? {cs name rest : List Char} (h : name? cs = some (name, rest)) :
    rest.length < cs.length := by
  unfold name? at h
  split at h
  · next heq =>
    have hle := (List.dropWhile_sublist (l := cs) fun c => c != ':' && !Blank.isSpace c).length_le
    rw [heq, List.length_cons] at hle
    cases h
    omega
  · cases h

/-- The endings of a name that ask for a form, each with the character that selects the form. -/
def forms : List (List Char × Char) :=
  [("-text".toList, '\uFE0E'), ("-emoji".toList, '\uFE0F')]

/-- What a name between colons stands for: a picture in the form that is asked for, or itself. Small
and capital letters are the same in names. -/
def named (name : List Char) : List Char :=
  let form? := forms.find? fun form => form.1.isSuffixOf name
  let bare := name.take (name.length - (form?.map fun form => form.1.length).getD 0)
  match find? (SmallLetters.ofChars bare) with
  | some cs => cs ++ (form?.map Prod.snd).toList
  | none => ':' :: name ++ [':']

/-- The characters with pictures for their names, from left to right. -/
def replace : List Char → List Char
  | [] => []
  | c :: cs =>
    if c = ':' then
      match _h : name? cs with
      | some (name, rest) => named name ++ replace rest
      | none => c :: replace cs
    else c :: replace cs
termination_by cs => cs.length
decreasing_by
  · have := length_of_name? _h
    simp only [List.length_cons]
    omega
  · simp
  · simp

end SwitchTrace.Pictograph
