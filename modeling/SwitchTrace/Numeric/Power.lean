/-!
# Powers of natural numbers

## Main definitions

* `power` — a power, always in terms of the instance of the core library, so that it means the
  same wherever it is written.

## Main results

* `power_add`, `power_mul` — the power to a sum and to a product.
-/

namespace SwitchTrace

/-- The power of a base to an exponent. -/
abbrev power (base exponent : Nat) : Nat :=
  @HPow.hPow Nat Nat Nat (@instHPow Nat Nat instPowNat) base exponent

theorem power_add (base m n : Nat) : power base (m + n) = power base m * power base n :=
  Nat.pow_add base m n

theorem power_mul (base m n : Nat) : power base (m * n) = power (power base m) n :=
  Nat.pow_mul base m n

end SwitchTrace
