import SwitchTrace.Terminal.Literal
import SwitchTrace.Terminal.Marked
import SwitchTrace.Terminal.Pictograph
import SwitchTrace.Terminal.Style

/-!
# Markup

Texts for the terminal may hold tags in square brackets, which turn styles on and off, and names of
pictures between colons. A terminal without styles shows the text without its tags. Backslashes
before a tag make it plain text.

## Main definitions

* `Markup.escape` — markup that shows a text as it is.
* `Markup.render` — what a terminal without styles shows of markup, with the styles that it would
  show.
* `MarkupFault` — why markup cannot be shown.
-/

namespace SwitchTrace

/-- Why markup cannot be shown. -/
inductive MarkupFault
  /-- A tag closes a style that is not open. -/
  | nothingToClose (tag : String)
  /-- The arguments that a tag hands over are no literal values. -/
  | arguments (text : String)
  /-- A component of a colour is no number. -/
  | colour (name : String)
deriving DecidableEq, Repr

namespace Markup

/-- The character may come first in a tag. -/
def startsTag (c : Char) : Bool := ('a' ≤ c && c ≤ 'z') || c = '#' || c = '/' || c = '@'

/-- The text of a bracket that begins like a tag, and the rest after its end. The opening bracket
is not part of the characters that are given. In a tag no other bracket opens. -/
def enclosed? (cs : List Char) : Option (List Char × List Char) :=
  if cs.head?.any startsTag then
    match cs.dropWhile fun c => c != ']' && c != '[' with
    | ']' :: rest => some (cs.takeWhile fun c => c != ']' && c != '[', rest)
    | _ => none
  else none

theorem length_of_enclosed? {cs inside rest : List Char} (h : enclosed? cs = some (inside, rest)) :
    rest.length < cs.length := by
  unfold enclosed? at h
  split at h
  · split at h
    · next heq =>
      have hle := (List.dropWhile_sublist (l := cs) fun c => c != ']' && c != '[').length_le
      rw [heq, List.length_cons] at hle
      cases h
      omega
    · cases h
  · cases h

/-! ### Escaping -/

/-- So many backslashes. -/
def backslashes (n : Nat) : List Char := List.replicate n '\\'

/-- The characters with every bracket that looks like a tag escaped, `held` backslashes coming
before them: those before such a bracket are doubled, and one is added. -/
def escapeFrom (held : Nat) : List Char → List Char
  | [] => backslashes held
  | c :: cs =>
    if c = '\\' then escapeFrom (held + 1) cs
    else if c = '[' then
      match _h : enclosed? cs with
      | some (inside, rest) =>
        backslashes (2 * held + 1) ++ '[' :: inside ++ ']' :: escapeFrom 0 rest
      | none => backslashes held ++ '[' :: escapeFrom 0 cs
    else backslashes held ++ c :: escapeFrom 0 cs
termination_by cs => cs.length
decreasing_by
  · simp
  · have := length_of_enclosed? _h
    simp only [List.length_cons]
    omega
  · simp
  · simp

/-- A backslash alone at the end is doubled, so that it escapes nothing after it. -/
def doubleLast (cs : List Char) : List Char :=
  match cs.reverse with
  | ['\\'] => cs ++ ['\\']
  | '\\' :: c :: _ => if c = '\\' then cs else cs ++ ['\\']
  | _ => cs

/-- Markup that shows a text as it is, apart from names of pictures. -/
def escape (s : String) : String := String.ofList (doubleLast (escapeFrom 0 s.toList))

/-! ### Pieces -/

/-- A piece of markup. -/
inductive Piece
  | plain (cs : List Char)
  | tag (cs : List Char)
deriving DecidableEq, Repr

/-- The pieces of markup, the characters `text` and after them `held` backslashes coming before it,
the first characters in reverse order. Before a tag two backslashes stand for one, and one that is
left over makes the tag plain text. -/
def piecesFrom (text : List Char) (held : Nat) : List Char → List Piece
  | [] => [.plain (text.reverse ++ backslashes held)]
  | c :: cs =>
    if c = '\\' then piecesFrom text (held + 1) cs
    else if c = '[' then
      match _h : enclosed? cs with
      | some (inside, rest) =>
        .plain text.reverse :: .plain (backslashes (held / 2)) ::
          (if held % 2 = 1 then .plain ('[' :: inside ++ [']']) else .tag inside) ::
          piecesFrom [] 0 rest
      | none => piecesFrom ('[' :: (backslashes held ++ text)) 0 cs
    else piecesFrom (c :: (backslashes held ++ text)) 0 cs
termination_by cs => cs.length
decreasing_by
  · simp
  · have := length_of_enclosed? _h
    simp only [List.length_cons]
    omega
  · simp
  · simp

/-- The characters without the backslash before a bracket. -/
def dropEscapes : List Char → List Char
  | '\\' :: '[' :: cs => '[' :: dropEscapes cs
  | c :: cs => c :: dropEscapes cs
  | [] => []

/-- The characters that a terminal leaves out: bell, backspace, vertical tab, form feed and
carriage return. -/
def isDropped (c : Char) : Bool :=
  c = '\x07' || c = '\x08' || c = '\x0B' || c = '\x0C' || c = '\r'

/-- What is shown of a plain piece. -/
def shown (cs : List Char) : List Char :=
  (Pictograph.replace (dropEscapes cs)).filter (!isDropped ·)

/-! ### Tags -/

/-- A style that is open. -/
structure OpenTag where
  /-- The place where it was opened. -/
  start : Nat
  /-- The name of the style, which is the same for all ways to write it. -/
  name : String
  /-- What is written after the name. -/
  parameter : Option (List Char)
deriving DecidableEq, Repr

/-- The name of the style as a whole. -/
def OpenTag.style (t : OpenTag) : String :=
  match t.parameter with
  | none => t.name
  | some cs => t.name ++ " " ++ String.ofList cs

/-- The span of a style that is closed at a place. -/
def OpenTag.span (t : OpenTag) (stop : Nat) : StyledSpan := ⟨t.start, stop, t.style⟩

/-- The arguments of a parameter: those in parentheses after the name of a handler, or all of it if
it has another form. -/
def argumentsOf (cs : List Char) : List Char :=
  let arguments := cs.dropWhile fun c => Alphanumeric.inName c || c = '.'
  if arguments.isEmpty then "()".toList
  else if arguments.head? = some '(' && arguments.getLast? = some ')' &&
      !arguments.contains '\n' then arguments
  else cs

/-- A handler is named with an at sign. -/
def OpenTag.isHandler (t : OpenTag) : Bool := t.name.toList.head? = some '@'

/-- The spans of a tag that is closed at a place. A handler has no style, but its arguments have to
be literal values. -/
def close (t : OpenTag) (stop : Nat) : Except MarkupFault (List StyledSpan) :=
  if t.isHandler then
    match t.parameter with
    | none | some [] => .ok []
    | some parameter =>
      if Literal.isValid (argumentsOf (Blank.trim Blank.isSpace parameter)) then .ok []
      else .error (.arguments (String.ofList parameter))
  else .ok [t.span stop]

/-- The name of a style that characters stand for. -/
def nameOf (cs : List Char) : Except MarkupFault String :=
  (TextStyle.normalName cs).mapError fun _ => .colour (String.ofList cs)

/-- The open tag that a closing tag of the given name closes: the last one with the name, or
without a name the last one of all. -/
def closedBy? (opened : List OpenTag) (name : List Char) : Except MarkupFault (Option OpenTag) :=
  let name := Blank.trim Blank.isSpace name
  if name.isEmpty then .ok opened.head?
  else do
    let name ← nameOf name
    return opened.find? fun t => t.name == name

/-- The text of a tag before its first equals sign, and what is after it if there is one. -/
def splitTag (tag : List Char) : List Char × Option (List Char) :=
  match tag.dropWhile (· != '=') with
  | [] => (tag, none)
  | _ :: parameter => (tag.takeWhile (· != '='), some parameter)

/-- A text with styles, and the tags that are open, the last of them first. -/
structure Rendering where
  chars : List Char
  spans : List StyledSpan
  opened : List OpenTag

/-- The rendering after a tag. -/
def Rendering.applyTag (r : Rendering) (tag : List Char) : Except MarkupFault Rendering :=
  let (text, parameter) := splitTag tag
  match text with
  | '/' :: name => do
    match ← closedBy? r.opened name with
    | none => throw (.nothingToClose (String.ofList ('[' :: tag ++ [']'])))
    | some t =>
      let spans ← close t r.chars.length
      return { r with spans := spans ++ r.spans, opened := r.opened.erase t }
  | text => do
    let name ← nameOf text
    return { r with opened := ⟨r.chars.length, name, parameter⟩ :: r.opened }

/-- The rendering after a piece. -/
def Rendering.add (r : Rendering) : Piece → Except MarkupFault Rendering
  | .plain cs => .ok { r with chars := r.chars ++ shown cs }
  | .tag cs => r.applyTag cs

/-- What a terminal shows of markup. Tags that stay open are closed at the end. -/
def render (s : String) : Except MarkupFault Marked := do
  let r ← (piecesFrom [] 0 s.toList).foldlM Rendering.add ⟨[], [], []⟩
  let length := r.chars.length
  return ⟨r.chars, r.opened.map (·.span length) ++ r.spans⟩

end Markup

/-! ### Faults -/

/-- The style of the span cannot be worked out, since a component of a colour is no number. Names
without a meaning stand for no style. -/
def StyledSpan.isFaulty (s : StyledSpan) : Bool :=
  match TextStyle.read s.style.toList with
  | .error .notANumber => true
  | _ => false

/-- Lines, if the styles of all their spans can be worked out. -/
def Markup.checkStyles (lines : List Marked) : Except MarkupFault (List Marked) :=
  match (lines.flatMap Marked.spans).find? StyledSpan.isFaulty with
  | some s => .error (.colour s.style)
  | none => .ok lines

end SwitchTrace
