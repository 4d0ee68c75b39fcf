import SwitchTrace.Numeric.Power

/-!
# How many digits a number may have

A whole number in base ten is read and written up to a number of digits only.

## Main definitions

* `digitLimit` — the greatest number of digits.
* `isLong` — a number with more digits.

## Main results

* `firstLong_eq` — the smallest number with more digits is a power of ten.
-/

namespace SwitchTrace

/-- The greatest number of decimal digits that a whole number may have in a text. -/
def digitLimit : Nat := 4300

/-- The smallest number with more digits. It is taken in two steps, with exponents small enough to
be worked out at once. -/
def firstLong : Nat := power (power 10 100) 43

theorem firstLong_eq : firstLong = power 10 digitLimit := by
  have hlimit : digitLimit = 100 * 43 := rfl
  rw [hlimit, firstLong, power_mul]

/-- The number has too many digits to be written. -/
def isLong (n : Int) : Bool := firstLong ≤ n.natAbs

/-- The message for a number that has too many digits to be written. -/
def longNumberMessage : String :=
  "Exceeds the limit (" ++ toString digitLimit ++ " digits) for integer string conversion; " ++
    "use sys.set_int_max_str_digits() to increase the limit"

/-- The message for a text with so many digits, which are too many to be read as a number. -/
def longTextMessage (count : Nat) : String :=
  "Exceeds the limit (" ++ toString digitLimit ++ " digits) for integer string conversion: " ++
    "value has " ++ toString count ++ " digits; " ++
    "use sys.set_int_max_str_digits() to increase the limit"

end SwitchTrace
