/-!
# Fixed-width columns

Numbers in hexadecimal and decimal, filled up to a width.

## Main definitions

* `Pad.right`, `Pad.left`, `Pad.centre` — a text filled up with blanks.
* `Pad.hex`, `Pad.hexField` — a hexadecimal number, plain or filled up with zeros.
* `Pad.grouped` — a decimal number with a comma between groups of three digits.
-/

namespace SwitchTrace.Pad

/-- The text with blanks after it, up to the width. -/
def right (width : Nat) (s : String) : String :=
  s ++ String.ofList (List.replicate (width - s.length) ' ')

/-- The text with a character before it, up to the width. -/
def leftWith (c : Char) (width : Nat) (s : String) : String :=
  String.ofList (List.replicate (width - s.length) c) ++ s

/-- The hexadecimal digits of a number, in lower case. -/
def hexDigits (n : Nat) : String := String.ofList (Nat.toDigits 16 n)

/-- The hexadecimal digits of a number, with zeros before them up to the width. -/
def hexNat (width n : Nat) : String := leftWith '0' width (hexDigits n)

/-- A number in hexadecimal, a negative one as a sign and its size. -/
def hex (x : Int) : String := (if x < 0 then "-" else "") ++ hexDigits x.natAbs

/-- A number in hexadecimal with zeros between its sign and its digits up to the width. The sign
takes one place of the width. -/
def hexField (width : Nat) (x : Int) : String :=
  if x < 0 then "-" ++ hexNat (width - 1) x.natAbs else hexNat width x.natAbs

/-- The digits, last first, with a comma after every third. -/
def groupReversed : List Char → List Char
  | a :: b :: c :: d :: rest => a :: b :: c :: ',' :: groupReversed (d :: rest)
  | digits => digits

/-- A number in decimal with a comma between groups of three digits. -/
def grouped (n : Nat) : String :=
  String.ofList (groupReversed (Nat.toDigits 10 n).reverse).reverse

end SwitchTrace.Pad
