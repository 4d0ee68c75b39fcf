import SwitchTrace.Numeric.Power

/-!
# Sources of random numbers

## Main definitions

* `RandomSource` — numbers below a bound and numbers of a number of bits, from a state.
* `RandomSource.Sound` — the numbers are in the range that was asked for.
-/

namespace SwitchTrace

/-- A source of random numbers whose state has type `σ`. -/
structure RandomSource (σ : Type) where
  /-- A number below the bound, which is not zero. -/
  below : Nat → σ → Nat × σ
  /-- A number of at most so many bits. -/
  bits : Nat → σ → Nat × σ

/-- The numbers are in the range that was asked for. -/
structure RandomSource.Sound {σ : Type} (source : RandomSource σ) : Prop where
  below_lt : ∀ (n : Nat) (s : σ), 0 < n → (source.below n s).1 < n
  bits_lt : ∀ (k : Nat) (s : σ), (source.bits k s).1 < power 2 k

end SwitchTrace
