import SwitchTrace.Yaml.Lexeme

/-!
# Tokens of YAML texts

Indentation and simple keys become tokens of their own, so that what follows can be read without
looking at places. A simple key is a scalar or a collection that stands on one line before a
colon; that it is a key is known when the colon is met, and its tokens are put in then. Until it is
known whether a key begins at a token, that token is not ready for what comes after scanning.

## Main definitions

* `Yaml.Token` — the tokens.
* `Yaml.Scanner` — the place that was reached, the indentation, and the possible simple keys.
* `Yaml.TokenStream`, `Yaml.tokens` — the tokens of a text, as far as there are any.
-/

namespace SwitchTrace.Yaml

/-- A token. -/
inductive Token
  | documentStart
  | documentEnd
  | streamEnd
  | blockSequenceStart
  | blockMappingStart
  | blockEnd
  | flowSequenceStart
  | flowSequenceEnd
  | flowMappingStart
  | flowMappingEnd
  | blockEntry
  | flowEntry
  | key
  | value
  | scalar (plain : Bool) (text : String)
deriving DecidableEq, Repr

/-- A place at which a simple key may have begun. -/
structure SimpleKey where
  /-- The number of tokens before it. -/
  token : Nat
  /-- Without a colon the text is malformed. -/
  required : Bool
  index : Nat
  line : Nat
  column : Nat
deriving Repr

/-- The state of scanning. -/
structure Scanner where
  rest : List Char
  index : Nat
  line : Nat
  column : Nat
  tokens : List Token
  /-- The number of flow collections around the place. -/
  flowLevel : Nat
  /-- The column of the block collection around the place, `-1` outside all. -/
  indent : Int
  /-- The columns of the block collections around that one. -/
  outer : List Int
  /-- A simple key may begin here. -/
  keyAllowed : Bool
  /-- The possible simple keys by flow level. -/
  keys : List (Nat × SimpleKey)

/-- The tokens of a text up to its end or to a fault. -/
structure TokenStream where
  tokens : List Token
  /-- What is wrong after the tokens; nothing if they are all. -/
  fault : Option Fault

/-- The number of collections for which there is usually room inside one another. -/
def standardNesting : Nat := 487

namespace Token

/-- The number of collections that are open after a token, `depth` being open before it. -/
def depthAfter (depth : Nat) : Token → Nat
  | .blockSequenceStart | .blockMappingStart | .flowSequenceStart | .flowMappingStart => depth + 1
  | .blockEnd | .flowSequenceEnd | .flowMappingEnd => depth - 1
  | _ => depth

/-- The tokens up to one that opens a collection for which there is no room inside the others,
`depth` being open before them, and whether there is one. -/
def untilTooDeep (nesting depth : Nat) : List Token → List Token × Bool
  | [] => ([], false)
  | t :: rest =>
    let depth := t.depthAfter depth
    if nesting < depth then ([], true)
    else
      let (rest, found) := untilTooDeep nesting depth rest
      (t :: rest, found)

end Token

/-- The tokens of a stream up to one that opens a collection too many. -/
def TokenStream.limited (s : TokenStream) (nesting : Nat) : TokenStream :=
  let (tokens, found) := Token.untilTooDeep nesting 0 s.tokens
  ⟨tokens, if found then some .tooDeep else s.fault⟩

namespace Scanner

/-- The state at the start of a text. -/
def start (text : List Char) : Scanner :=
  ⟨text, 0, 0, 0, [], 0, -1, [], true, []⟩

/-- The place stands inside a flow collection. -/
def inFlow (s : Scanner) : Bool := 0 < s.flowLevel

/-! ### Places -/

/-- The line and the column after some characters. A byte order mark takes no column. -/
def place : Nat → Nat → List Char → Nat × Nat
  | line, column, [] => (line, column)
  | line, _, '\r' :: '\n' :: rest => place (line + 1) 0 rest
  | line, column, c :: rest =>
    if isBreak c then place (line + 1) 0 rest
    else place line (if c = '\uFEFF' then column else column + 1) rest

/-- Goes on to the given rest of the text. -/
def goTo (s : Scanner) (rest : List Char) : Scanner :=
  let read := s.rest.take (s.rest.length - rest.length)
  let (line, column) := place s.line s.column read
  { s with rest, index := s.index + read.length, line, column }

/-- Goes on by so many characters. -/
def skip (s : Scanner) (count : Nat) : Scanner := s.goTo (s.rest.drop count)

/-- Adds a token. -/
def push (s : Scanner) (t : Token) : Scanner := { s with tokens := s.tokens ++ [t] }

/-! ### Indentation -/

/-- Closes the block collections that are indented more than the given column. -/
def closeBlocks (column : Int) : List Int → Int → List Token → Int × List Int × List Token
  | [], indent, tokens => (indent, [], tokens)
  | next :: outer, indent, tokens =>
    if column < indent then closeBlocks column outer next (tokens ++ [.blockEnd])
    else (indent, next :: outer, tokens)

/-- Closes the block collections that are indented more than the given column. In flow
collections indentation does not count. -/
def unwind (s : Scanner) (column : Int) : Scanner :=
  if s.inFlow then s
  else
    let (indent, outer, tokens) := closeBlocks column s.outer s.indent s.tokens
    { s with indent, outer, tokens }

/-- Opens a block collection at a column, its token being put at the given position, unless one is
open there. -/
def openBlock (s : Scanner) (column : Nat) (t : Token) (position : Nat) : Scanner :=
  if s.indent < column then
    { s with
      outer := s.indent :: s.outer
      indent := column
      tokens := s.tokens.insertIdx position t }
  else s

/-! ### Simple keys -/

/-- Gives up the possible simple keys that ended with their line or are too long by now. -/
def dropStaleKeys (s : Scanner) : Except FaultAt Scanner :=
  let stale (k : SimpleKey) : Bool := k.line != s.line || 1024 < s.index - k.index
  if s.keys.any fun e => e.2.required && stale e.2 then refuseAt s.rest
  else .ok { s with keys := s.keys.filter fun e => !stale e.2 }

/-- The possible simple key at the present flow level. -/
def key? (s : Scanner) : Option SimpleKey := (s.keys.find? fun e => e.1 == s.flowLevel).map (·.2)

/-- Forgets the possible simple key at the present flow level. -/
def forgetKey (s : Scanner) : Scanner :=
  { s with keys := s.keys.filter fun e => e.1 != s.flowLevel }

/-- Gives up the possible simple key at the present flow level. -/
def dropKey (s : Scanner) : Except FaultAt Scanner :=
  if s.key?.any (·.required) then refuseAt s.rest else .ok s.forgetKey

/-- Notes that a simple key may begin here. It must be one at the column of the block. -/
def noteKey (s : Scanner) : Except FaultAt Scanner := do
  if s.keyAllowed then
    let required := !s.inFlow && s.indent == s.column
    let s ← s.dropKey
    let k : SimpleKey := ⟨s.tokens.length, required, s.index, s.line, s.column⟩
    return { s with keys := (s.flowLevel, k) :: s.keys }
  else return s

/-! ### Tokens -/

/-- The end of the text. -/
def fetchEnd (s : Scanner) : Except FaultAt Scanner := do
  let s ← (s.unwind (-1)).dropKey
  return s.push .streamEnd

/-- A marker between documents. -/
def fetchMarker (s : Scanner) (t : Token) : Except FaultAt Scanner := do
  let s ← (s.unwind (-1)).dropKey
  return { s.skip 3 with keyAllowed := false }.push t

/-- The opening bracket of a flow collection. -/
def fetchOpen (s : Scanner) (t : Token) : Except FaultAt Scanner := do
  let s ← s.noteKey
  return { s.skip 1 with flowLevel := s.flowLevel + 1, keyAllowed := true }.push t

/-- The closing bracket of a flow collection. -/
def fetchClose (s : Scanner) (t : Token) : Except FaultAt Scanner := do
  if s.inFlow then
    let s ← s.dropKey
    return { s.skip 1 with flowLevel := s.flowLevel - 1, keyAllowed := false }.push t
  else refuseAt s.rest

/-- The comma of a flow collection. -/
def fetchComma (s : Scanner) : Except FaultAt Scanner := do
  let s ← s.dropKey
  return { s.skip 1 with keyAllowed := true }.push .flowEntry

/-- The dash of an item. -/
def fetchDash (s : Scanner) : Except FaultAt Scanner := do
  if !s.inFlow && !s.keyAllowed then refuseAt s.rest
  let s := if s.inFlow then s else s.openBlock s.column .blockSequenceStart s.tokens.length
  let s ← s.dropKey
  return { s.skip 1 with keyAllowed := true }.push .blockEntry

/-- The question mark of a key that is not simple. -/
def fetchQuestion (s : Scanner) : Except FaultAt Scanner := do
  if !s.inFlow && !s.keyAllowed then refuseAt s.rest
  let s := if s.inFlow then s else s.openBlock s.column .blockMappingStart s.tokens.length
  let s ← s.dropKey
  return { s.skip 1 with keyAllowed := !s.inFlow }.push .key

/-- The colon of a value, after a simple key or alone. -/
def fetchColon (s : Scanner) : Except FaultAt Scanner := do
  match s.key? with
  | some k =>
    let s := { s.forgetKey with tokens := s.tokens.insertIdx k.token .key }
    let s := if s.inFlow then s else s.openBlock k.column .blockMappingStart k.token
    return { s.skip 1 with keyAllowed := false }.push .value
  | none =>
    if !s.inFlow && !s.keyAllowed then refuseAt s.rest
    let s := if s.inFlow then s else s.openBlock s.column .blockMappingStart s.tokens.length
    let s ← s.dropKey
    return { s.skip 1 with keyAllowed := !s.inFlow }.push .value

/-- A scalar in quotes. -/
def fetchQuoted (s : Scanner) (double : Bool) : Except FaultAt Scanner := do
  let s ← s.noteKey
  let (text, rest) ← scanQuoted double (s.rest.drop 1)
  return { s.goTo rest with keyAllowed := false }.push (.scalar false (String.ofList text))

/-- A plain scalar. After a break a simple key may begin. -/
def fetchPlain (s : Scanner) : Except FaultAt Scanner := do
  let s ← s.noteKey
  let scan := scanPlain s.inFlow (s.indent + 1) s.rest
  return { s.goTo scan.rest with keyAllowed := scan.crossed }.push
    (.scalar true (String.ofList scan.text))

/-- Skips to the next token. -/
def skipToToken (s : Scanner) : Scanner :=
  let s := if s.index = 0 ∧ s.rest.head? = some '\uFEFF' then s.skip 1 else s
  let (rest, crossed) := skipGap s.rest
  let s := s.goTo rest
  if crossed && !s.inFlow then { s with keyAllowed := true } else s

/-- A plain scalar may begin with the character `c`. -/
def beginsPlain (s : Scanner) (c : Char) (rest : List Char) : Bool :=
  !("-?:,[]\x7b\x7d#&*!|>'\"%@\x60".toList.contains c || isBlank c || isBreak c) ||
    (!atWordEnd rest && (c = '-' || (!s.inFlow && (c = '?' || c = ':'))))

/-- Reads the next token. The flag says that it was the last. -/
def fetch (s : Scanner) : Except FaultAt (Scanner × Bool) := do
  let s ← s.skipToToken.dropStaleKeys
  let s := s.unwind s.column
  let more (s : Except FaultAt Scanner) : Except FaultAt (Scanner × Bool) := (·, false) <$> s
  match s.rest with
  | [] => (·, true) <$> s.fetchEnd
  | c :: rest =>
    if c = '%' ∧ s.column = 0 then refuseAt s.rest
    else if s.column = 0 ∧ atWord '-' s.rest then more (s.fetchMarker .documentStart)
    else if s.column = 0 ∧ atWord '.' s.rest then more (s.fetchMarker .documentEnd)
    else if c = '[' then more (s.fetchOpen .flowSequenceStart)
    else if c = '\x7b' then more (s.fetchOpen .flowMappingStart)
    else if c = ']' then more (s.fetchClose .flowSequenceEnd)
    else if c = '\x7d' then more (s.fetchClose .flowMappingEnd)
    else if c = ',' then more s.fetchComma
    else if c = '-' ∧ atWordEnd rest then more s.fetchDash
    else if c = '?' ∧ (s.inFlow ∨ atWordEnd rest) then more s.fetchQuestion
    else if c = ':' ∧ (s.inFlow ∨ atWordEnd rest) then more s.fetchColon
    else if c = '\'' then more (s.fetchQuoted false)
    else if c = '"' then more (s.fetchQuoted true)
    else if s.beginsPlain c rest then more s.fetchPlain
    else refuseAt s.rest

/-- The tokens that no possible simple key keeps from being ready. -/
def ready (s : Scanner) : List Token :=
  s.tokens.take ((s.keys.map fun e => e.2.token).foldl min s.tokens.length)

/-- The tokens that are ready when scanning stops at a fault. A fault at the end of a text that is
broken off is that of what cannot be read. -/
def stopped (s : Scanner) (broken : Bool) (stop : FaultAt) : TokenStream :=
  ⟨s.ready, some (if broken && stop.rest.isEmpty then .brokenOff else stop.fault)⟩

/-- Reads all tokens. Every turn but the last reads a character at least. Where a text is broken
off, a turn that comes to the end would need more of it. -/
def run (broken : Bool) : Nat → Scanner → TokenStream
  | 0, s => s.stopped broken ⟨.malformed, s.rest⟩
  | fuel + 1, s =>
    match s.dropStaleKeys with
    | .error stop => s.stopped false stop
    | .ok s =>
      match s.fetch with
      | .error stop => s.stopped broken stop
      | .ok (next, last) =>
        if broken && next.rest.isEmpty then s.stopped broken ⟨.malformed, []⟩
        else if last then ⟨next.tokens, none⟩
        else run broken fuel next

end Scanner

/-- The tokens of a text, as far as there is room for its collections inside one another. -/
def tokens (nesting : Nat) (source : Source) : TokenStream :=
  (Scanner.run source.broken (source.chars.length + 1) (.start source.chars)).limited nesting

end SwitchTrace.Yaml
