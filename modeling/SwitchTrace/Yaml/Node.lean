import SwitchTrace.Yaml.Token

/-!
# Trees of YAML texts

## Main definitions

* `Yaml.Node` — scalars, sequences and mappings, with scalars as they are written.
* `Yaml.Node.ofTokens?` — the tree of tokens.
* `Yaml.Node.read` — the tree of a text, or nothing for a text without content.
-/

namespace SwitchTrace.Yaml

/-- A tree. -/
inductive Node
  | scalar (plain : Bool) (text : String)
  | sequence (items : List Node)
  | mapping (entries : List (Node × Node))
deriving Inhabited

namespace Node

/-- The scalar where nothing is written. -/
def absent : Node := .scalar true ""

/-- Reading tokens. -/
abbrev TokenReader := StateT TokenStream (Except Fault)

/-- The text breaks a rule. -/
def refuse {α : Type} : TokenReader α := throw .malformed

/-- The token that stands first. Where there is none, the fault after the tokens is met. -/
def next : TokenReader Token := do
  let s ← get
  match s.tokens with
  | t :: _ => return t
  | [] => throw (s.fault.getD .malformed)

/-- Goes on to the next token. -/
def advance : TokenReader Unit := modify fun s => { s with tokens := s.tokens.tail }

/-- The token stands first. -/
def isNext (t : Token) : TokenReader Bool := return (← next) == t

/-- One of the tokens stands first. -/
def isAnyNext (choices : List Token) : TokenReader Bool := return choices.contains (← next)

/-- Takes the given token if it stands first. -/
def accept (t : Token) : TokenReader Bool := do
  let found ← isNext t
  if found then advance
  return found

/-- Takes the given token. -/
def expect (t : Token) : TokenReader Unit := do
  if !(← accept t) then refuse

/-! Every function of this group takes a token before it calls another one with the tokens after
it, or calls one that does, so that four calls for each token are enough. -/

mutual

/-- A node. In blocks it may be a block collection, and after a colon a sequence that is not
indented. -/
def node (block indentless : Bool) : Nat → TokenReader Node
  | 0 => refuse
  | fuel + 1 => do
    if indentless && (← isNext .blockEntry) then return .sequence (← indentlessItems fuel)
    match ← next with
    | .scalar plain text =>
      advance
      return .scalar plain text
    | _ =>
      if ← accept .flowSequenceStart then return .sequence (← flowItems true fuel)
      else if ← accept .flowMappingStart then return .mapping (← flowEntries true fuel)
      else if !block then refuse
      else if ← accept .blockSequenceStart then return .sequence (← blockItems fuel)
      else if ← accept .blockMappingStart then return .mapping (← blockEntries fuel)
      else refuse

/-- A node, or nothing before one of the given tokens. -/
def nodeUnless (block indentless : Bool) (ends : List Token) : Nat → TokenReader Node
  | 0 => refuse
  | fuel + 1 => do if ← isAnyNext ends then return absent else node block indentless fuel

/-- The items of a block sequence, and its end. -/
def blockItems : Nat → TokenReader (List Node)
  | 0 => refuse
  | fuel + 1 => do
    if ← accept .blockEntry then
      let item ← nodeUnless true false [.blockEntry, .blockEnd] fuel
      return item :: (← blockItems fuel)
    else
      expect .blockEnd
      return []

/-- The items of a sequence that is not indented. It has no end of its own. -/
def indentlessItems : Nat → TokenReader (List Node)
  | 0 => refuse
  | fuel + 1 => do
    if ← accept .blockEntry then
      let item ← nodeUnless true false [.blockEntry, .key, .value, .blockEnd] fuel
      return item :: (← indentlessItems fuel)
    else return []

/-- The value after a colon, or nothing if there is no colon. -/
def valueUnless (block indentless : Bool) (ends : List Token) : Nat → TokenReader Node
  | 0 => refuse
  | fuel + 1 => do
    if ← accept .value then nodeUnless block indentless ends fuel else return absent

/-- The entries of a block mapping, and its end. -/
def blockEntries : Nat → TokenReader (List (Node × Node))
  | 0 => refuse
  | fuel + 1 => do
    if ← accept .key then
      let key ← nodeUnless true true [.key, .value, .blockEnd] fuel
      let value ← valueUnless true true [.key, .value, .blockEnd] fuel
      return (key, value) :: (← blockEntries fuel)
    else
      expect .blockEnd
      return []

/-- The items of a flow sequence, and its end. A key makes an item that is a mapping of its
own. -/
def flowItems (first : Bool) : Nat → TokenReader (List Node)
  | 0 => refuse
  | fuel + 1 => do
    if ← accept .flowSequenceEnd then return []
    if !first then expect .flowEntry
    if ← accept .key then
      let key ← nodeUnless false false [.value, .flowEntry, .flowSequenceEnd] fuel
      let value ← valueUnless false false [.flowEntry, .flowSequenceEnd] fuel
      return .mapping [(key, value)] :: (← flowItems false fuel)
    else if ← accept .flowSequenceEnd then return []
    else
      let item ← node false false fuel
      return item :: (← flowItems false fuel)

/-- The entries of a flow mapping, and its end. A node alone is a key without a value. -/
def flowEntries (first : Bool) : Nat → TokenReader (List (Node × Node))
  | 0 => refuse
  | fuel + 1 => do
    if ← accept .flowMappingEnd then return []
    if !first then expect .flowEntry
    if ← accept .key then
      let key ← nodeUnless false false [.value, .flowEntry, .flowMappingEnd] fuel
      let value ← valueUnless false false [.flowEntry, .flowMappingEnd] fuel
      return (key, value) :: (← flowEntries false fuel)
    else if ← accept .flowMappingEnd then return []
    else
      let key ← node false false fuel
      return (key, absent) :: (← flowEntries false fuel)

end

/-- One document at most, with a marker before it or without, and any number of end markers after
it. -/
def document (fuel : Nat) : TokenReader (Option Node) := do
  if ← accept .streamEnd then return none
  let content ←
    if ← accept .documentStart then
      nodeUnless true false [.documentStart, .documentEnd, .streamEnd] fuel
    else node true false fuel
  modify fun s => { s with tokens := s.tokens.dropWhile (· == .documentEnd) }
  expect .streamEnd
  return some content

/-- The tree of tokens, or nothing for a text without content. -/
def ofTokens? (ts : TokenStream) : Except Fault (Option Node) :=
  Prod.fst <$> (document (4 * ts.tokens.length + 4)).run ts

/-- The tree of a text, or nothing for a text without content. -/
def read (nesting : Nat) (source : Source) : Except Fault (Option Node) :=
  ofTokens? (tokens nesting source)

end Node

end SwitchTrace.Yaml
