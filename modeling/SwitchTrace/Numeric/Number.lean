import SwitchTrace.Numeric.Binary64

/-!
# Numbers of either kind

A number that a user gives is a whole number of any size or a binary64 number. A whole number
meets a binary64 number by being rounded to one.

## Main definitions

* `Number` — a number of either kind.
* `Number.divide`, `Number.timesTruncated` — a whole number divided by a number, and multiplied
  with one.
-/

namespace SwitchTrace

/-- A whole number or a binary64 number. -/
inductive Number
  | whole (n : Int)
  | float (x : Binary64)
deriving DecidableEq, Inhabited

namespace Number

/-- The number is zero or less. The value that is not a number is not. -/
def isNonpositive : Number → Bool
  | .whole n => n ≤ 0
  | .float x => x.isNonpositive

/-- A whole number divided by a number: by a whole number, the rounded exact quotient; by a
binary64 number, the dividend is rounded first. -/
def divide (n : Int) : Number → Except ArithmeticFault Binary64
  | .whole d => Binary64.ofIntRatio n d
  | .float x => do (← Binary64.ofInt n).div x

/-- A whole number multiplied with a number, without the fraction of the product. -/
def timesTruncated (n : Int) : Number → Except ArithmeticFault Int
  | .whole k => .ok (n * k)
  | .float x => do ((← Binary64.ofInt n).mul x).truncate

end Number

end SwitchTrace
