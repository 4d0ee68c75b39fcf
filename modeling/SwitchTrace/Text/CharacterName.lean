import SwitchTrace.Text.CharacterName.VolumeA
import SwitchTrace.Text.CharacterName.VolumeB
import SwitchTrace.Text.CharacterName.VolumeC
import SwitchTrace.Text.CharacterName.VolumeDToF
import SwitchTrace.Text.CharacterName.VolumeGToK
import SwitchTrace.Text.CharacterName.VolumeL
import SwitchTrace.Text.CharacterName.VolumeM
import SwitchTrace.Text.CharacterName.VolumeNToR
import SwitchTrace.Text.CharacterName.VolumeS
import SwitchTrace.Text.CharacterName.VolumeTToZ
import SwitchTrace.Text.HexDigit

/-!
# Names of characters

Every character of Unicode has a name. Most names are listed in an outline, where names that begin
with the same words share them: `A(,B,C(D,E))` lists the names `A`, `A B`, `A C D` and `A C E`. The
names of syllables, ideographs and the like follow rules instead.

## Main definitions

* `CharacterName.isListed` — an outline lists a name.
* `CharacterName.isKnown` — some character has a name.
-/

namespace SwitchTrace.CharacterName

/-! ### Outlines -/

/-- How far a name agrees with an outline up to some place in it: what is left of the name there, if
it agrees, and what was left where each of the groups around the place begins. -/
structure Place where
  left? : Option (List Char)
  groups : List (Option (List Char))
deriving DecidableEq, Repr

/-- All of the name has been found in the outline. -/
def Place.isEnd (p : Place) : Bool := p.left? = some []

/-- What is left of a name at the start of a group: its next words, if there are any. -/
def groupStart? : List Char → Option (List Char)
  | [] => some []
  | ' ' :: c :: cs => some (c :: cs)
  | _ => none

/-- The place after the next character of the outline. -/
def Place.step (p : Place) (c : Char) : Place :=
  if c = '(' then
    let start? := p.left?.bind groupStart?
    ⟨start?, start? :: p.groups⟩
  else if c = ',' then ⟨p.groups.head?.join, p.groups⟩
  else if c = ')' then ⟨none, p.groups.tail⟩
  else ⟨p.left?.bind fun left => if left.head? = some c then some left.tail else none, p.groups⟩

/-- The rest of the outline lists the name from the given place on. An entry ends before a comma,
before the end of its group and at the end of the outline. -/
def isListedFrom (p : Place) : List Char → Bool
  | [] => p.isEnd
  | c :: cs => ((c = ',' || c = ')') && p.isEnd) || isListedFrom (p.step c) cs

/-- The outline lists the name. -/
def isListed (outline name : List Char) : Bool :=
  isListedFrom ⟨some name, [some name]⟩ outline

/-- The outlines of all listed names, each with the first and the last letter that its names begin
with. -/
def volumes : List (Char × Char × List String) :=
  [('A', 'A', volumeA), ('B', 'B', volumeB), ('C', 'C', volumeC), ('D', 'F', volumeDToF),
    ('G', 'K', volumeGToK), ('L', 'L', volumeL), ('M', 'M', volumeM), ('N', 'R', volumeNToR),
    ('S', 'S', volumeS), ('T', 'Z', volumeTToZ)]

/-! ### Rules -/

/-- The characters after a beginning, if they begin so. -/
def after? (beginning : String) (name : List Char) : Option (List Char) :=
  beginning.toList.isPrefixOf? name

/-- The consonants that a syllable may begin with. -/
def leadingSounds : List String :=
  ["G", "GG", "N", "D", "DD", "R", "M", "B", "BB", "S", "SS", "", "J", "JJ", "C", "K", "T", "P", "H"]

/-- The vowels of syllables. -/
def vowels : List String :=
  ["A", "AE", "YA", "YAE", "EO", "E", "YEO", "YE", "O", "WA", "WAE", "OE", "YO", "U", "WEO", "WE",
    "WI", "YU", "EU", "YI", "I"]

/-- The consonants that a syllable may end with. -/
def trailingSounds : List String :=
  ["", "G", "GG", "GS", "N", "NJ", "NH", "D", "L", "LG", "LM", "LB", "LS", "LT", "LP", "LH", "M",
    "B", "BS", "S", "SS", "NG", "J", "C", "K", "T", "P", "H"]

/-- The characters are the sounds of a syllable. -/
def isSyllable (name : List Char) : Bool :=
  leadingSounds.any fun l => (after? l name).any fun rest =>
    vowels.any fun v => (after? v rest).any fun rest => trailingSounds.any fun t => t.toList = rest

/-- The ideographs that are named by their numbers alone. -/
def ideographs : List (Nat × Nat) :=
  [(0x3400, 0x4DBF), (0x4E00, 0x9FFF), (0x20000, 0x2A6DF), (0x2A700, 0x2B738), (0x2B740, 0x2B81D),
    (0x2B820, 0x2CEA1), (0x2CEB0, 0x2EBE0), (0x30000, 0x3134A)]

/-- The character is a digit of a hexadecimal number in capital letters. -/
def isCapitalHexDigit (c : Char) : Bool := c.isDigit || ('A' ≤ c && c ≤ 'F')

/-- Four or five hexadecimal digits are a number in one of the runs. -/
def isNumberIn (runs : List (Nat × Nat)) (digits : List Char) : Bool :=
  (digits.length = 4 || digits.length = 5) && digits.all isCapitalHexDigit &&
    runs.any fun r => r.1 ≤ hexNumber digits && hexNumber digits ≤ r.2

/-- The beginnings of names that end in the number of their character, which has no needless zeros,
with the runs of these numbers. -/
def numbered : List (String × List (Nat × Nat)) :=
  [("CJK COMPATIBILITY IDEOGRAPH-", [(0xF900, 0xFA6D), (0xFA70, 0xFAD9), (0x2F800, 0x2FA1D)]),
    ("KHITAN SMALL SCRIPT CHARACTER-", [(0x18B00, 0x18CD5)]),
    ("NUSHU CHARACTER-", [(0x1B170, 0x1B2FB)])]

/-- The characters are the digits of a number up to a limit, counted from one and filled up with
zeros to a width. -/
def isCount (limit width : Nat) (digits : List Char) : Bool :=
  (List.range limit).any fun n =>
    let shown := (toString (n + 1)).toList
    digits = List.replicate (width - shown.length) '0' ++ shown

/-- The characters are the numbers of raised dots, in rising order. -/
def areDots (digits : List Char) : Bool :=
  !digits.isEmpty && digits.isSublist "12345678".toList

/-- The name, in capital letters, follows one of the rules for names that end in numbers. -/
def isCounted (name : List Char) : Bool :=
  (numbered.any fun n => (after? n.1 name).any fun digits =>
      isNumberIn n.2 digits && (digits.length = 4 || digits.head? != some '0')) ||
    (after? "VARIATION SELECTOR-" name).any (isCount 256 1) ||
    (after? "VS" name).any (isCount 256 1) ||
    (after? "TANGUT COMPONENT-" name).any (isCount 768 3) ||
    (after? "BRAILLE PATTERN DOTS-" name).any areDots ||
    name = "BRAILLE PATTERN BLANK".toList

/-! ### All names -/

/-- Some character has the name, which is in capital letters. -/
def isListedAnywhere (name : List Char) : Bool :=
  volumes.any fun (first, last, outline) =>
    name.head?.any (fun c => first ≤ c && c ≤ last) &&
      isListed (outline.flatMap String.toList) name

/-- Some character has the name. Small letters are as good as capital ones, but for the names of
syllables and of ideographs. -/
def isKnown (name : List Char) : Bool :=
  match after? "HANGUL SYLLABLE " name, after? "CJK UNIFIED IDEOGRAPH-" name with
  | some sounds, _ => isSyllable sounds
  | none, some digits => isNumberIn ideographs digits
  | none, none =>
    let capitals := name.map Char.toUpper
    isCounted capitals || isListedAnywhere capitals

end SwitchTrace.CharacterName
