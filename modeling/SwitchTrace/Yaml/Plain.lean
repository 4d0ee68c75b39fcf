import SwitchTrace.Numeric.DecimalText
import SwitchTrace.Text.Split
import SwitchTrace.Yaml.DateForm

/-!
# Plain scalars

A plain scalar is nothing, a truth value, a number, a date or a text, by its form. Whole numbers are
written in base two, eight, ten or sixteen, or as groups in base sixty; numbers with a point have
a sign in their exponent; underscores do not count.

## Main definitions

* `Yaml.PlainKind`, `Yaml.PlainKind.of` — the kinds of plain scalars, and the kind of a text.
* `Yaml.plainValue` — what a plain scalar stands for.
-/

namespace SwitchTrace.Yaml

/-- The kinds of plain scalars. -/
inductive PlainKind
  | null
  | bool
  | int
  | float
  /-- The mark of entries that are merged into a mapping. -/
  | merge
  /-- The mark of a value without a key. -/
  | lone
  | date
  | text
deriving DecidableEq, Repr

/-! ### Forms -/

/-- The list is not empty and all its characters are in the class. -/
def allOf (p : Char → Bool) (cs : List Char) : Bool := !cs.isEmpty && cs.all p

/-- A digit or an underscore. -/
def isDigitOrUnderscore (c : Char) : Bool := c.isDigit || c = '_'

/-- The characters after a sign, if there is one. -/
def afterSign : List Char → List Char
  | '-' :: rest => rest
  | '+' :: rest => rest
  | cs => cs

/-- A group of a number in base sixty after the first: one digit, or two of which the first is
below six. -/
def isGroup : List Char → Bool
  | [d] => d.isDigit
  | [c, d] => '0' ≤ c && c ≤ '5' && d.isDigit
  | _ => false

/-- A digit and after it digits and underscores. -/
def isDigits : List Char → Bool
  | d :: rest => d.isDigit && rest.all isDigitOrUnderscore
  | [] => false

/-- A digit other than zero and after it digits and underscores. -/
def isPositiveDigits : List Char → Bool
  | d :: rest => d.isDigit && d != '0' && rest.all isDigitOrUnderscore
  | [] => false

/-- Groups of a number in base sixty, the first being in the given class. -/
def isSexagesimal (first : List Char → Bool) (cs : List Char) : Bool :=
  match parts ':' cs with
  | head :: group :: groups => first head && (group :: groups).all isGroup
  | _ => false

/-- The form of a whole number without its sign. -/
def isIntBody (cs : List Char) : Bool :=
  match cs with
  | ['0'] => true
  | '0' :: 'b' :: rest => allOf (fun c => c = '0' || c = '1' || c = '_') rest
  | '0' :: 'x' :: rest =>
    allOf (fun c => c.isDigit || ('a' ≤ c && c ≤ 'f') || ('A' ≤ c && c ≤ 'F') || c = '_') rest
  | '0' :: rest => allOf (fun c => ('0' ≤ c && c ≤ '7') || c = '_') rest
  | _ => isPositiveDigits cs || isSexagesimal isPositiveDigits cs

/-- An exponent with its sign, or nothing. -/
def isExponent : List Char → Bool
  | [] => true
  | e :: sign :: digits => (e = 'e' || e = 'E') && (sign = '+' || sign = '-') &&
      allOf Char.isDigit digits
  | _ => false

/-- Digits and underscores, and an exponent or nothing. -/
def isFraction (cs : List Char) : Bool := isExponent (cs.dropWhile isDigitOrUnderscore)

/-- The form of a number with a point. Only a number that begins with a digit, and the word for
the infinite, may have a sign. -/
def isFloat (cs : List Char) : Bool :=
  let body := afterSign cs
  let whole := body.takeWhile (· != '.')
  match body.dropWhile (· != '.') with
  | '.' :: fraction =>
    (isDigits whole && isFraction fraction) ||
      (isSexagesimal isDigits whole && fraction.all isDigitOrUnderscore) ||
      (whole.isEmpty && ["inf", "Inf", "INF"].contains (String.ofList fraction)) ||
      (cs.head? = some '.' && fraction.head?.any Char.isDigit && isFraction fraction) ||
      [".nan", ".NaN", ".NAN"].contains (String.ofList cs)
  | _ => false

/-- The words for truth. -/
def trueWords : List String :=
  ["yes", "Yes", "YES", "true", "True", "TRUE", "on", "On", "ON"]

/-- The words for falsehood. -/
def falseWords : List String :=
  ["no", "No", "NO", "false", "False", "FALSE", "off", "Off", "OFF"]

/-- The words for nothing. -/
def nullWords : List String := ["", "~", "null", "Null", "NULL"]

/-- The kind of a text as a plain scalar. -/
def PlainKind.of (text : String) : PlainKind :=
  if nullWords.contains text then .null
  else if trueWords.contains text || falseWords.contains text then .bool
  else if isFloat text.toList then .float
  else if isIntBody (afterSign text.toList) then .int
  else if text == "<<" then .merge
  else if text == "=" then .lone
  else if DateForm.isDate text.toList then .date
  else .text

/-! ### Values -/

/-- The value of a digit in a base of sixteen at most. -/
def digitValue (c : Char) : Nat :=
  if c.isDigit then c.toNat - '0'.toNat
  else if 'a' ≤ c then c.toNat - 'a'.toNat + 10
  else c.toNat - 'A'.toNat + 10

/-- The number of digits in a base. -/
def numberIn (base : Nat) (digits : List Char) : Except Fault Nat :=
  if digits.isEmpty then .error (.noDigits base)
  else .ok (Decimal.ofDigitsIn base (digits.map digitValue))

/-- The number of digits in base ten. -/
def decimalNumber (digits : List Char) : Except Fault Nat :=
  if digitLimit < digits.length then .error (.tooManyDigits digits.length)
  else .ok (Decimal.ofDigits digits)

/-- The number of a whole number's form without sign and underscores. -/
def naturalValue (cs : List Char) : Except Fault Nat :=
  match cs with
  | ['0'] => .ok 0
  | '0' :: 'b' :: digits => numberIn 2 digits
  | '0' :: 'x' :: digits => numberIn 16 digits
  | '0' :: _ => numberIn 8 cs
  | _ => do return Decimal.ofDigitsIn 60 (← (parts ':' cs).mapM decimalNumber)

/-- The number that has the sign of the text. -/
def withSign (cs : List Char) (n : Nat) : Int := if cs.head? = some '-' then -n else n

/-- The number of the format nearest to digits with a point. -/
def floatOfDigits (cs : List Char) : Binary64 :=
  match Decimal.read? cs with
  | some d => d.toBinary64 false
  | none => .nan

/-- The sum of groups in base sixty, the last of them first. Every step is rounded, and the weights
of groups have to be numbers of the format. -/
def sexagesimalSum : Binary64 → Nat → List Binary64 → Except Fault Binary64
  | sum, _, [] => .ok sum
  | sum, weight, x :: xs =>
    match Binary64.ofInt weight with
    | .error _ => .error .tooLarge
    | .ok w => sexagesimalSum (sum.add (x.mul w)) (60 * weight) xs

/-- The number of the form of a number with a point, without its sign. -/
def floatSize (body : List Char) : Except Fault Binary64 :=
  if body = ".inf".toList then .ok (.infinity false)
  else if body = ".nan".toList then .ok .nan
  else
    match parts ':' body with
    | [digits] => .ok (floatOfDigits digits)
    | groups => sexagesimalSum (.zero false) 1 (groups.reverse.map floatOfDigits)

/-- The number of the form of a number with a point. -/
def floatValue (text : List Char) : Except Fault Binary64 := do
  let cs := text.filter (· != '_')
  let size ← floatSize ((afterSign cs).map Char.toLower)
  return if cs.head? = some '-' then size.neg else size

/-- What a plain scalar stands for. The marks of merged entries and of lone values stand for
nothing by themselves. -/
def plainValue (text : String) : Except Fault Scalar :=
  match PlainKind.of text with
  | .null => .ok .null
  | .bool => .ok (.bool (trueWords.contains text))
  | .int => do
    let cs := text.toList.filter (· != '_')
    let n ← naturalValue (afterSign cs)
    return .int (withSign cs n)
  | .float => .float <$> floatValue text.toList
  | .merge | .lone => .error .malformed
  | .date => (DateForm.value text.toList).mapError .notOnCalendar
  | .text => .ok (.text text)

end SwitchTrace.Yaml
