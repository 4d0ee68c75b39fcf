import SwitchTrace.Terminal.Colour
import SwitchTrace.Text.Blank
import SwitchTrace.Text.SmallLetters

/-!
# Styles of texts

A style is written in words: attributes, each of which may be denied by a word before it, a colour,
a colour of the ground, and a link. Every style has one text that stands for all ways to write it.

## Main definitions

* `TextStyle`, `TextStyle.read` — a style, and the style that characters describe.
* `TextStyle.text` — the text of a style.
* `TextStyle.normalName` — the text that stands for a name.
* `StyleFault` — why characters describe no style.
-/

namespace SwitchTrace

/-- What a text may be apart from its colours. -/
inductive TextAttribute
  | bold
  | dim
  | italic
  | underline
  | blink
  | fastBlink
  | reverse
  | conceal
  | strike
  | doubleUnderline
  | frame
  | encircle
  | overline
deriving DecidableEq, Repr

namespace TextAttribute

/-- All attributes in the order of their texts. -/
def all : List TextAttribute :=
  [.bold, .dim, .italic, .underline, .blink, .fastBlink, .reverse, .conceal, .strike,
    .doubleUnderline, .frame, .encircle, .overline]

/-- The word for an attribute. -/
def word : TextAttribute → String
  | .bold => "bold"
  | .dim => "dim"
  | .italic => "italic"
  | .underline => "underline"
  | .blink => "blink"
  | .fastBlink => "blink2"
  | .reverse => "reverse"
  | .conceal => "conceal"
  | .strike => "strike"
  | .doubleUnderline => "underline2"
  | .frame => "frame"
  | .encircle => "encircle"
  | .overline => "overline"

/-- The short word for an attribute, if there is one. -/
def short? : TextAttribute → Option String
  | .bold => some "b"
  | .dim => some "d"
  | .italic => some "i"
  | .underline => some "u"
  | .reverse => some "r"
  | .conceal => some "c"
  | .strike => some "s"
  | .doubleUnderline => some "uu"
  | .overline => some "o"
  | _ => none

/-- The attribute of a word. -/
def find? (word : String) : Option TextAttribute :=
  all.find? fun a => a.word == word || a.short? == some word

end TextAttribute

/-- A style of a text. -/
structure TextStyle where
  /-- The attributes that are given, each with whether the text has it or not. -/
  attributes : List (TextAttribute × Bool)
  colour : Option String
  ground : Option String
  link : Option String
deriving DecidableEq, Repr

/-- Why characters describe no style. -/
inductive StyleFault
  /-- A word has no meaning where it stands. -/
  | unknown
  /-- A component of a colour is no number. -/
  | notANumber
deriving DecidableEq, Repr

namespace TextStyle

/-- The style that changes nothing. -/
def plain : TextStyle := ⟨[], none, none, none⟩

/-- The style with an attribute, or with its denial. What comes last counts. -/
def set (s : TextStyle) (a : TextAttribute) (on : Bool) : TextStyle :=
  { s with attributes := (a, on) :: s.attributes }

/-- The name of a colour in small letters. -/
def colourName (word : List Char) : Except StyleFault String :=
  let small := SmallLetters.ofChars word
  match Colour.check small with
  | .ok () => .ok (String.ofList small)
  | .error .unknown => .error .unknown
  | .error .notANumber => .error .notANumber

/-- The style with what words add to it. Words are taken in small letters, but not those after
another word to which they belong. -/
def addWords (s : TextStyle) : List (List Char) → Except StyleFault TextStyle
  | [] => .ok s
  | word :: rest =>
    let small := String.ofList (SmallLetters.ofChars word)
    if small = "on" then
      match rest with
      | [] => .error .unknown
      | word :: rest => do addWords { s with ground := some (← colourName word) } rest
    else if small = "not" then
      match rest with
      | [] => .error .unknown
      | word :: rest =>
        match TextAttribute.find? (String.ofList word) with
        | some a => addWords (s.set a false) rest
        | none => .error .unknown
    else if small = "link" then
      match rest with
      | [] => .error .unknown
      | word :: rest => addWords { s with link := some (String.ofList word) } rest
    else
      match TextAttribute.find? small with
      | some a => addWords (s.set a true) rest
      | none => do addWords { s with colour := some (← colourName word) } rest

/-- The words between white space. -/
def wordsOf (cs : List Char) : List (List Char) :=
  (parts ' ' (cs.map fun c => if Blank.isSpace c then ' ' else c)).filter (!·.isEmpty)

/-- The word for the style that changes nothing. -/
def plainWord : String := "none"

/-- The style that characters describe. -/
def read (cs : List Char) : Except StyleFault TextStyle :=
  let trimmed := Blank.trim Blank.isSpace cs
  if trimmed.isEmpty || trimmed = plainWord.toList then .ok plain
  else plain.addWords (wordsOf cs)

/-- The word for an attribute of the style, if it is given. -/
def attributeWord? (s : TextStyle) (a : TextAttribute) : Option String :=
  (s.attributes.lookup a).map fun on => if on then a.word else "not " ++ a.word

/-- The text of a style. -/
def text (s : TextStyle) : String :=
  let words := TextAttribute.all.filterMap s.attributeWord? ++ s.colour.toList ++
    (s.ground.map fun name => "on " ++ name).toList ++
    (s.link.map fun link => "link " ++ link).toList
  if words.isEmpty then plainWord else " ".intercalate words

/-- The text that stands for a name: that of the style which it describes, and otherwise the name
in small letters without white space around it. -/
def normalName (cs : List Char) : Except StyleFault String :=
  match read cs with
  | .ok s => .ok s.text
  | .error .unknown =>
    .ok (String.ofList (SmallLetters.ofChars (Blank.trim Blank.isSpace cs)))
  | .error .notANumber => .error .notANumber

end TextStyle

end SwitchTrace
