import SwitchTrace.Numeric.Decimal

/-!
# Reading decimal numbers

## Main definitions

* `Decimal.ofDigits` — the number of a list of digits.
* `Decimal.read?` — digits, with a point and an exponent if wanted.
-/

namespace SwitchTrace.Decimal

/-- The number of a list of digits in a base. -/
def ofDigitsIn (base : Nat) (digits : List Nat) : Nat := digits.foldl (fun n d => base * n + d) 0

/-- The number that a list of the digits 0 to 9 stands for. -/
def ofDigits (digits : List Char) : Nat := ofDigitsIn 10 (digits.map fun c => c.toNat - '0'.toNat)

/-- The longest start of digits, and the rest. -/
def splitDigits (cs : List Char) : List Char × List Char :=
  (cs.takeWhile Char.isDigit, cs.dropWhile Char.isDigit)

/-- A whole number with or without a sign, nothing being after it. -/
def readExponent? : List Char → Option Int
  | '-' :: ds => if ds ≠ [] ∧ ds.all Char.isDigit then some (-(ofDigits ds : Int)) else none
  | '+' :: ds => if ds ≠ [] ∧ ds.all Char.isDigit then some (ofDigits ds) else none
  | ds => if ds ≠ [] ∧ ds.all Char.isDigit then some (ofDigits ds) else none

/-- The number with the given digits before and after the point, and the text of an exponent. -/
def ofParts? (whole fraction : List Char) (exponent : List Char) : Option Decimal :=
  let digits := ofDigits (whole ++ fraction)
  if whole.isEmpty && fraction.isEmpty then none
  else
    match exponent with
    | [] => some ⟨digits, -fraction.length⟩
    | e :: text =>
      if e = 'e' ∨ e = 'E' then
        (readExponent? text).map fun n => ⟨digits, n - fraction.length⟩
      else none

/-- The number that a text stands for: digits with a point among them if wanted, at least one
digit in all, and an exponent if wanted. -/
def read? (cs : List Char) : Option Decimal :=
  let (whole, rest) := splitDigits cs
  match rest with
  | '.' :: rest =>
    let (fraction, rest) := splitDigits rest
    ofParts? whole fraction rest
  | rest => ofParts? whole [] rest

end SwitchTrace.Decimal
