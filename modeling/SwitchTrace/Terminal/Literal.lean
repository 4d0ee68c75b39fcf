import SwitchTrace.Numeric.DigitLimit
import SwitchTrace.Text.Alphanumeric
import SwitchTrace.Text.CharacterName
import SwitchTrace.Text.HexDigit

/-!
# Literal values

A tag may hand over arguments, which have to be literal: numbers, texts, words for truth and for
nothing, and tuples, sets and dictionaries of such values. Only their form matters here. Square
brackets do not occur, since they cannot stand inside a tag.

## Main definitions

* `Literal.Lexeme`, `Literal.lexemes?` — the pieces of a literal value.
* `Literal.Kind` — what a value is good for.
* `Literal.isValid` — characters are a literal value.
-/

namespace SwitchTrace.Literal

/-! ### Pieces -/

/-- A piece of a literal value. -/
inductive Lexeme
  | number (imaginary : Bool)
  | text (bytes : Bool)
  | word (name : String)
  | dots
  | mark (c : Char)
  | lineEnd
deriving DecidableEq, Repr

/-- Digits with single underscores between them, and the rest. An underscore may also come first
where `after` says so. -/
def takeDigits (isDigit : Char → Bool) (after : Bool) : List Char → List Char × List Char
  | [] => ([], [])
  | c :: cs =>
    if isDigit c then
      let (digits, rest) := takeDigits isDigit true cs
      (c :: digits, rest)
    else if c = '_' && after && cs.head?.any isDigit then takeDigits isDigit false cs
    else ([], c :: cs)

/-- An exponent with its sign, or nothing, and the rest. The flag tells whether there is one. -/
def takeExponent (cs : List Char) : Bool × List Char :=
  let digits? : Option (List Char) :=
    match cs with
    | e :: rest =>
      if e = 'e' ∨ e = 'E' then
        match rest with
        | '+' :: rest => some rest
        | '-' :: rest => some rest
        | rest => some rest
      else none
    | [] => none
  match digits? with
  | some ds => if ds.head?.any Char.isDigit then (true, (takeDigits Char.isDigit false ds).2)
      else (false, cs)
  | none => (false, cs)

/-- The letter of an imaginary number, or nothing, and the rest. -/
def takeUnit : List Char → Bool × List Char
  | c :: cs => if c = 'j' ∨ c = 'J' then (true, cs) else (false, c :: cs)
  | [] => (false, [])

/-- Digits in a base after the letter of the base. -/
def basedNumber? (isDigit : Char → Bool) (cs : List Char) : Option (Lexeme × List Char) :=
  match takeDigits isDigit true cs with
  | ([], _) => none
  | (_, rest) => if rest.head?.any Alphanumeric.inName then none else some (.number false, rest)

/-- A number in base ten. A whole number other than zero does not begin with a zero. -/
def decimalNumber? (cs : List Char) : Option (Lexeme × List Char) :=
  let (whole, rest) := takeDigits Char.isDigit false cs
  let (pointed, rest) :=
    match rest with
    | '.' :: rest => (true, (takeDigits Char.isDigit false rest).2)
    | rest => (false, rest)
  let (raised, rest) := takeExponent rest
  let (imaginary, rest) := takeUnit rest
  let whole? := !pointed && !raised && !imaginary
  let padded := whole.head? = some '0' && whole.any (· != '0')
  if rest.head?.any Alphanumeric.inName || (whole? && (padded || digitLimit < whole.length)) then none
  else some (.number imaginary, rest)

/-- A number at the start of the characters. -/
def number? (cs : List Char) : Option (Lexeme × List Char) :=
  match cs with
  | '0' :: c :: rest =>
    if c = 'x' ∨ c = 'X' then basedNumber? isHexDigit rest
    else if c = 'o' ∨ c = 'O' then basedNumber? (fun d => '0' ≤ d && d ≤ '7') rest
    else if c = 'b' ∨ c = 'B' then basedNumber? (fun d => d = '0' || d = '1') rest
    else decimalNumber? cs
  | _ => decimalNumber? cs

/-- The prefix of a text: whether its backslashes are plain, and whether it is made of bytes. -/
def textPrefix? (letters : List Char) : Option (Bool × Bool) :=
  match String.ofList (letters.map Char.toLower) with
  | "" | "u" => some (false, false)
  | "r" => some (true, false)
  | "b" => some (false, true)
  | "br" | "rb" => some (true, true)
  | _ => none

/-- So many hexadecimal digits stand here. -/
def startsWithHex (count : Nat) (cs : List Char) : Bool :=
  (cs.take count).length = count && (cs.take count).all isHexDigit

/-- A name of a character stands here in braces. -/
def startsWithName (cs : List Char) : Bool :=
  match cs with
  | '\x7b' :: rest =>
    rest.contains '\x7d' && CharacterName.isKnown (rest.takeWhile (· != '\x7d'))
  | _ => false

/-- An escape after its backslash is well formed. -/
def isEscape (bytes : Bool) (cs : List Char) : Bool :=
  match cs with
  | 'x' :: rest => startsWithHex 2 rest
  | 'u' :: rest => bytes || startsWithHex 4 rest
  | 'U' :: rest => bytes || (startsWithHex 8 rest && hexNumber (rest.take 8) < 0x110000)
  | 'N' :: rest => bytes || startsWithName rest
  | _ => true

/-- What follows a text after its closing quotes, `quotes` of them. A text with one quote on either
side stands on one line. -/
def afterText? (raw bytes : Bool) (quote : Char) (quotes : Nat) : List Char → Option (List Char)
  | [] => none
  | c :: cs =>
    if c = quote ∧ (c :: cs).take quotes = List.replicate quotes quote then
      some (cs.drop (quotes - 1))
    else if c = '\\' then
      match cs with
      | [] => none
      | d :: rest =>
        if (raw || isEscape bytes cs) && !(bytes && 0x80 ≤ d.toNat) then
          afterText? raw bytes quote quotes rest
        else none
    else if c = '\n' ∧ quotes = 1 then none
    else if bytes && 0x80 ≤ c.toNat then none
    else afterText? raw bytes quote quotes cs

/-- A text with the given prefix, from its first quote on. -/
def text? (letters cs : List Char) : Option (Lexeme × List Char) :=
  match textPrefix? letters, cs with
  | some (raw, bytes), quote :: rest =>
    let quotes := if rest.take 2 = [quote, quote] then 3 else 1
    (afterText? raw bytes quote quotes (rest.drop (quotes - 1))).map fun rest =>
      (.text bytes, rest)
  | _, _ => none

/-- The character is a quote. -/
def isQuote (c : Char) : Bool := c = '\'' || c = '"'

/-- A word, or a text with its prefix. -/
def wordOrText? (cs : List Char) : Option (Lexeme × List Char) :=
  let name := cs.takeWhile Alphanumeric.inName
  let rest := cs.dropWhile Alphanumeric.inName
  if rest.head?.any isQuote then text? name rest else some (.word (String.ofList name), rest)

/-- The piece that begins with a character that is no white space. -/
def lexeme? (c : Char) (cs : List Char) : Option (Lexeme × List Char) :=
  if c.isDigit || (c = '.' && cs.head?.any Char.isDigit) then number? (c :: cs)
  else if c = '.' then if cs.take 2 = ['.', '.'] then some (.dots, cs.drop 2) else none
  else if isQuote c || Alphanumeric.inName c then wordOrText? (c :: cs)
  else if "()\x7b\x7d,:+-".contains c then some (.mark c, cs)
  else none

/-- The character is white space between pieces. -/
def isGap (c : Char) : Bool := c = ' ' || c = '\t' || c = '\x0C'

/-- The line begins with blanks and has a piece after them, `blank` telling whether there are blanks
so far. A form feed sets the blanks before it at naught, unless a backslash that ends a line comes
between them, which settles the matter. -/
def isIndentedAfter (blank settled : Bool) : List Char → Bool
  | '\\' :: '\n' :: cs => isIndentedAfter blank (settled || blank) cs
  | c :: cs =>
    if c = '\x0C' then isIndentedAfter false settled cs
    else if isGap c then isIndentedAfter true settled cs
    else (blank || settled) && c != '#' && c != '\n'
  | [] => blank || settled

/-- The line begins with blanks and has a piece after them. -/
def isIndented (cs : List Char) : Bool := isIndentedAfter false false cs

/-- What follows a backslash that ends a line, the next line going on with this one. It must not be
the last line. -/
def joined? : List Char → Option (List Char)
  | '\n' :: c :: cs => some (c :: cs)
  | _ => none

/-- The number of brackets that may be open at once. -/
def bracketLimit : Nat := 200

/-- The pieces of characters, `fuel` of them at most. Inside brackets, of which `depth` are open,
lines do not end; outside they are not indented. A comment goes on to the end of its line. -/
def lexemesWithin : Nat → Nat → List Char → Option (List Lexeme)
  | _, _, [] => some []
  | 0, _, _ :: _ => none
  | fuel + 1, depth, c :: cs =>
    if isGap c then lexemesWithin fuel depth cs
    else if c = '\n' then
      if depth ≠ 0 then lexemesWithin fuel depth cs
      else if isIndented cs then none
      else (Lexeme.lineEnd :: ·) <$> lexemesWithin fuel depth cs
    else if c = '\\' then (joined? cs).bind (lexemesWithin fuel depth)
    else if c = '#' then lexemesWithin fuel depth (cs.dropWhile (· != '\n'))
    else
      match lexeme? c cs with
      | none => none
      | some (l, rest) =>
        let depth :=
          if c = '(' ∨ c = '\x7b' then depth + 1
          else if c = ')' ∨ c = '\x7d' then depth - 1
          else depth
        if bracketLimit < depth then none else (l :: ·) <$> lexemesWithin fuel depth rest

/-- The characters with one character for the end of a line, whichever way it is written. -/
def withLineEnds : List Char → List Char
  | '\r' :: '\n' :: cs => '\n' :: withLineEnds cs
  | c :: cs => (if c = '\r' then '\n' else c) :: withLineEnds cs
  | [] => []

/-- The pieces of characters. Every piece has a character at least. -/
def lexemes? (cs : List Char) : Option (List Lexeme) :=
  let cs := withLineEnds cs
  if isIndented cs then none else lexemesWithin cs.length 0 cs

/-! ### Values -/

/-- What a value is good for. -/
inductive Kind
  /-- A number, which may have a sign already, and may be imaginary. -/
  | number (signed imaginary : Bool)
  /-- Any other value, which may be a key or an item of a set if it does not change. -/
  | other (constant : Bool)
deriving DecidableEq, Repr

/-- The value may be a key or an item of a set. -/
def Kind.isConstant : Kind → Bool
  | .number _ _ => true
  | .other constant => constant

/-- A value with a sign before it, which must be a number that has none. -/
def Kind.signed? : Kind → Option Kind
  | .number false imaginary => some (.number true imaginary)
  | _ => none

/-- The sum of a number and an imaginary one. -/
def Kind.plus? : Kind → Kind → Option Kind
  | .number _ false, .number false true => some (.other true)
  | _, _ => none

/-- The pieces after texts of one kind, if no text of the other kind follows. -/
def afterTexts? (bytes : Bool) : List Lexeme → Option (List Lexeme)
  | .text b :: rest => if b = bytes then afterTexts? bytes rest else none
  | rest => some rest

/-- The letters of the word for a set, each in all the shapes it may be written in. -/
def setLetters : List (List Char) :=
  ["sſˢₛｓ𝐬𝑠𝒔𝓈𝓼𝔰𝕤𝖘𝗌𝘀𝘴𝙨𝚜".toList, "eᵉₑℯⅇｅ𝐞𝑒𝒆𝓮𝔢𝕖𝖊𝖾𝗲𝘦𝙚𝚎".toList, "tᵗₜｔ𝐭𝑡𝒕𝓉𝓽𝔱𝕥𝖙𝗍𝘁𝘵𝙩𝚝".toList]

/-- The word stands for a set. -/
def isSetWord (name : String) : Bool :=
  name.toList.length = setLetters.length &&
    (setLetters.zip name.toList).all fun (letters, c) => letters.contains c

/-! ### Nesting

A value within others may not be nested too deeply. What counts are the forms that are tried on the
way to a value, and the same forms are tried in every pair of brackets. -/

/-- How many forms may be tried within one another. -/
def nestingLimit : Nat := 6000

/-- How many forms are tried to find a number or a word. -/
def plainNesting : Nat := 22

/-- How many forms more are tried to find a text. -/
def textNesting : Nat := 2

/-- How many forms more are tried to find that nothing stands between the brackets of an empty
set. -/
def emptySetNesting : Nat := 24

/-- There is room for a number or a word in so many forms. -/
def hasRoom (depth : Nat) : Bool := depth + plainNesting ≤ nestingLimit

/-- How many forms are tried to find the values that stand in no brackets: the first one, and any
later one. -/
def outerNesting : Nat × Nat := (3, 5)

/-- How many forms are tried from a value in round brackets to the values in it: to the first one,
to the second one, and to any later one. -/
def roundNesting : Nat × Nat × Nat := (28, 30, 31)

/-- How many forms are tried from a value in braces to the values in it: to those of the first
entry, and to those of any later one. -/
def bracedNesting : Nat × Nat := (29, 30)

/-- What follows the word for a set, which may stand in round brackets. -/
def afterSetWord? (depth : Nat) : List Lexeme → Option (List Lexeme)
  | .word name :: rest => if isSetWord name && hasRoom depth then some rest else none
  | .mark '(' :: rest =>
    match afterSetWord? (depth + roundNesting.1) rest with
    | some (.mark ')' :: rest) => some rest
    | _ => none
  | _ => none

/-- What follows an empty set, which is written like a call of its word. -/
def afterEmptySet? (depth : Nat) (ls : List Lexeme) : Option (List Lexeme) :=
  match afterSetWord? depth ls with
  | some (.mark '(' :: .mark ')' :: rest) => if hasRoom (depth + emptySetNesting) then some rest else none
  | _ => none

mutual

/-- A value, or the sum of a number and an imaginary one. -/
def value? : Nat → Nat → List Lexeme → Option (Kind × List Lexeme)
  | 0, _, _ => none
  | fuel + 1, depth, ls => do
    let (first, rest) ← signed? fuel depth ls
    match rest with
    | .mark c :: more =>
      if c = '+' ∨ c = '-' then
        let (second, rest) ← single? fuel depth more
        return (← first.plus? second, rest)
      else return (first, rest)
    | rest => return (first, rest)

/-- A value with a sign or without one. -/
def signed? : Nat → Nat → List Lexeme → Option (Kind × List Lexeme)
  | 0, _, _ => none
  | fuel + 1, depth, ls =>
    match ls with
    | .mark c :: more =>
      if c = '+' ∨ c = '-' then do
        let (kind, rest) ← single? fuel (depth + 1) more
        return (← kind.signed?, rest)
      else single? fuel depth ls
    | ls => single? fuel depth ls

/-- A value without a sign. -/
def single? : Nat → Nat → List Lexeme → Option (Kind × List Lexeme)
  | 0, _, _ => none
  | fuel + 1, depth, ls =>
    match afterEmptySet? depth ls, ls with
    | some rest, _ => some (.other false, rest)
    | none, .number imaginary :: rest =>
      if hasRoom depth then some (.number false imaginary, rest) else none
    | none, .text bytes :: rest =>
      if hasRoom (depth + textNesting) then
        (afterTexts? bytes rest).map fun rest => (.other true, rest)
      else none
    | none, .dots :: rest => if hasRoom depth then some (.other true, rest) else none
    | none, .word name :: rest =>
      if ["True", "False", "None"].contains name && hasRoom depth then some (.other true, rest)
      else none
    | none, .mark '(' :: .mark ')' :: rest =>
      if hasRoom (depth + roundNesting.1) then some (.other true, rest) else none
    | none, .mark '(' :: rest => do
      let (kind, rest) ← value? fuel (depth + roundNesting.1) rest
      match rest with
      | .mark ')' :: rest => return (kind, rest)
      | .mark ',' :: rest => do
        let (constant, rest) ←
          items? (.mark ')') fuel (depth + roundNesting.2.1) (depth + roundNesting.2.2) rest
        return (.other (kind.isConstant && constant), rest)
      | _ => none
    | none, .mark '\x7b' :: .mark '\x7d' :: rest =>
      if hasRoom (depth + bracedNesting.1) then some (.other false, rest) else none
    | none, .mark '\x7b' :: rest => do
      let (kind, rest) ← value? fuel (depth + bracedNesting.1) rest
      let later := depth + bracedNesting.2
      let (constant, rest) ←
        match rest with
        | .mark '\x7d' :: rest => some (true, rest)
        | .mark ',' :: rest => items? (.mark '\x7d') fuel later later rest
        | .mark ':' :: rest => do
          let (_, rest) ← value? fuel (depth + bracedNesting.1) rest
          match rest with
          | .mark '\x7d' :: rest => some (true, rest)
          | .mark ',' :: rest => entries? fuel later rest
          | _ => none
        | _ => none
      if kind.isConstant && constant then return (.other false, rest) else none
    | none, _ => none

/-- Values with commas between them up to a closing piece, the first one at the given depth and the
others at a later one. The flag tells whether all of them may be keys. -/
def items? (close : Lexeme) : Nat → Nat → Nat → List Lexeme → Option (Bool × List Lexeme)
  | 0, _, _, _ => none
  | fuel + 1, depth, later, ls =>
    if ls.head? = some close then if hasRoom depth then some (true, ls.tail) else none
    else do
      let (kind, rest) ← value? fuel depth ls
      match rest with
      | .mark ',' :: rest => do
        let (constant, rest) ← items? close fuel later later rest
        return (kind.isConstant && constant, rest)
      | l :: rest => if l = close then some (kind.isConstant, rest) else none
      | [] => none

/-- Keys and values with commas between them up to a closing brace. The flag tells whether all keys
may be keys. -/
def entries? : Nat → Nat → List Lexeme → Option (Bool × List Lexeme)
  | 0, _, _ => none
  | fuel + 1, depth, ls =>
    match ls with
    | .mark '\x7d' :: rest => if hasRoom depth then some (true, rest) else none
    | ls => do
      let (kind, rest) ← value? fuel depth ls
      match rest with
      | .mark ':' :: rest => do
        let (_, rest) ← value? fuel depth rest
        match rest with
        | .mark '\x7d' :: rest => some (kind.isConstant, rest)
        | .mark ',' :: rest => do
          let (constant, rest) ← entries? fuel depth rest
          return (kind.isConstant && constant, rest)
        | _ => none
      | _ => none

end

/-- The pieces are a value, or values with commas between them, on one line. -/
def isLine (ls : List Lexeme) : Bool :=
  let fuel := 4 * ls.length + 4
  let later := outerNesting.2
  match value? fuel outerNesting.1 ls with
  | some (_, .mark ',' :: rest) =>
    (items? .lineEnd fuel later later (rest ++ [.lineEnd])).any fun r => r.2.all (· == .lineEnd)
  | some (_, rest) => rest.all (· == .lineEnd)
  | none => false

/-- The characters are a literal value. -/
def isValid (cs : List Char) : Bool :=
  !cs.contains '\x00' && (lexemes? cs).any fun ls => isLine (ls.dropWhile (· == .lineEnd))

end SwitchTrace.Literal
