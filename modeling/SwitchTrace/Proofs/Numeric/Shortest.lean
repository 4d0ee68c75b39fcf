import Mathlib.Tactic.GCongr
import Mathlib.Tactic.Ring
import SwitchTrace.Numeric.FloatText
import SwitchTrace.Proofs.Numeric.Nearest

/-!
# The shortest decimal number is found, and is not zero

The numbers that are read as a magnitude form an interval around it, which is at least three
quarters of the gap long. The magnitude itself lies between two multiples of a grid, so that one of
the two is in the interval as soon as the steps of the grid are shorter than the interval. A
magnitude is less than `2 ^ 53` gaps, and eighteen digits are more than enough to make the steps
that short. Zero is never in the interval of another magnitude.

## Main results

* `Decimal.power_le_of_digitCount` — a number and the number of its digits.
* `Decimal.Grid.exists_nearest?` — a grid with steps shorter than the interval has a multiple in it.
* `Decimal.digits_shortest_ne_zero` — the shortest decimal number of a magnitude is not zero.
-/

namespace SwitchTrace

namespace Decimal

/-! ### Digits -/

theorem digitCount_pos (n : Nat) : 0 < digitCount n := Nat.length_toDigits_pos

/-- A number other than zero has a digit other than zero in front. -/
theorem power_le_of_digitCount {n : Nat} (hn : n ≠ 0) : power 10 (digitCount n - 1) ≤ n := by
  by_cases hone : digitCount n = 1
  · rw [hone]
    exact Nat.one_le_iff_ne_zero.mpr hn
  · have hpos := digitCount_pos n
    have hfew : ¬ digitCount n ≤ digitCount n - 1 := by omega
    rw [digitCount, Nat.length_toDigits_le_iff (by decide) (by rw [← digitCount]; omega)] at hfew
    exact Nat.not_lt.mp hfew

end Decimal

/-! ### The interval of a magnitude -/

namespace Interval

variable {m : Magnitude}

/-- The gap at a magnitude other than zero is not greater than the magnitude. -/
theorem gap_le_units (hm : m.units ≠ 0) : Magnitude.gap m.units ≤ m.units :=
  Nat.le_of_dvd (Nat.pos_of_ne_zero hm) m.gap_dvd

/-- The interval of a magnitude other than zero reaches from a positive number below the magnitude
to a number above it, and is at least three quarters of the gap long. -/
theorem around_spec (hm : m.units ≠ 0) : 0 < (around m).low ∧
    (around m).low < (around m).point ∧ (around m).point < (around m).high ∧
      (around m).low + 3 * Magnitude.gap m.units ≤ (around m).high := by
  have hgap := gap_le_units hm
  have hpos := Magnitude.gap_pos m.units
  unfold around
  dsimp only
  split <;> omega

end Interval

/-! ### Grids -/

namespace Decimal

namespace Grid

variable {g : Grid} {i : Interval}

theorem scaleUp_ofExponent_pos (exponent : Int) : 0 < (ofExponent exponent).scaleUp :=
  Nat.pow_pos (by decide)

theorem scaleDown_ofExponent_pos (exponent : Int) : 0 < (ofExponent exponent).scaleDown :=
  Nat.mul_pos (Nat.mul_pos (by decide) (Nat.two_pow_pos _)) (Nat.pow_pos (by decide))

/-- The length of the steps of a grid, in terms of a finer one. -/
theorem scaleDown_ofExponent {n k : Nat} {exponent : Int} (h : exponent = n - k) :
    (ofExponent exponent).scaleDown * power 10 k =
      4 * Magnitude.unitsPerOne * power 10 n * (ofExponent exponent).scaleUp := by
  have hsum : exponent.toNat + k = n + (-exponent).toNat := by omega
  have hpower : power 10 exponent.toNat * power 10 k = power 10 n * power 10 (-exponent).toNat := by
    rw [← power_add, ← power_add, hsum]
  rw [ofExponent, Nat.mul_assoc, hpower, Nat.mul_assoc (4 * _)]

theorem holds_of_lt {k : Nat} (hlow : i.low * g.scaleUp < k * g.scaleDown)
    (hhigh : k * g.scaleDown < i.high * g.scaleUp) : g.holds i k = true := by
  unfold holds
  split <;> simp only [Bool.and_eq_true, decide_eq_true_eq] <;> omega

/-- Zero does not lie in an interval that begins above it. -/
theorem holds_zero (hlow : 0 < i.low) (hup : 0 < g.scaleUp) : g.holds i 0 = false := by
  have hpos : 0 < i.low * g.scaleUp := Nat.mul_pos hlow hup
  unfold holds
  split <;> simp only [Nat.zero_mul, Bool.and_eq_false_iff, decide_eq_false_iff_not] <;> omega

/-- The multiple of the grid that is found lies in the interval. -/
theorem holds_of_nearest? {k : Nat} (h : g.nearest? i = some k) : g.holds i k = true := by
  unfold nearest? at h
  dsimp only at h
  split at h
  · next hlow hhigh =>
    have hle := le_divHalfEven (i.point * g.scaleUp) g.scaleDown
    have hge := divHalfEven_le (i.point * g.scaleUp) g.scaleDown
    rw [Option.some.injEq] at h
    rw [h] at hle hge
    rcases Nat.lt_or_eq_of_le hle with hlt | heq
    · rw [Nat.le_antisymm hge hlt]
      exact hhigh
    · rw [← heq]
      exact hlow
  · next hlow _ => exact Option.some.inj h ▸ hlow
  · next _ hhigh => exact Option.some.inj h ▸ hhigh
  · cases h

/-- **A grid with steps shorter than the interval has a multiple in it.** -/
theorem exists_nearest? (hlow : i.low < i.point) (hhigh : i.point < i.high)
    (hup : 0 < g.scaleUp) (hdown : 0 < g.scaleDown)
    (hstep : i.low * g.scaleUp + g.scaleDown < i.high * g.scaleUp) :
    ∃ k, g.nearest? i = some k := by
  have hbelow := Nat.div_mul_le_self (i.point * g.scaleUp) g.scaleDown
  have habove := Nat.lt_mul_of_div_lt (Nat.lt_succ_self (i.point * g.scaleUp / g.scaleDown)) hdown
  have hpoint : i.point * g.scaleUp < i.high * g.scaleUp := Nat.mul_lt_mul_of_pos_right hhigh hup
  have hpoint' : i.low * g.scaleUp < i.point * g.scaleUp := Nat.mul_lt_mul_of_pos_right hlow hup
  have hholds : g.holds i (i.point * g.scaleUp / g.scaleDown) = true ∨
      g.holds i (i.point * g.scaleUp / g.scaleDown + 1) = true := by
    by_cases hfirst : i.low * g.scaleUp < i.point * g.scaleUp / g.scaleDown * g.scaleDown
    · exact .inl (holds_of_lt hfirst (Nat.lt_of_le_of_lt hbelow hpoint))
    · -- The multiple before the point is outside, so that the one after it is inside.
      right
      refine holds_of_lt (Nat.lt_trans hpoint' habove) ?_
      rw [Nat.add_mul, Nat.one_mul]
      omega
  unfold nearest?
  dsimp only
  split
  · exact ⟨_, rfl⟩
  · exact ⟨_, rfl⟩
  · exact ⟨_, rfl⟩
  · next hlow hhigh =>
    rw [hlow, hhigh] at hholds
    simp at hholds

end Grid

/-! ### The search -/

/-- If one of the grids that are tried has a multiple in an interval above zero, the search ends on
a number other than zero. -/
theorem digits_search_ne_zero {i : Interval} (hlow : 0 < i.low) {fuel n : Nat} {exponent : Int}
    (hn : n < fuel) (h : ∃ k, (Grid.ofExponent (exponent - n)).nearest? i = some k) :
    (search i fuel exponent).digits ≠ 0 := by
  induction fuel generalizing n exponent with
  | zero => exact absurd hn (Nat.not_lt_zero n)
  | succ fuel ih =>
    rw [search]
    split
    · next k hk =>
      rintro rfl
      have hzero := Grid.holds_zero hlow (Grid.scaleUp_ofExponent_pos exponent)
      rw [Grid.holds_of_nearest? hk] at hzero
      cases hzero
    · next hnone =>
      cases n with
      | zero =>
        obtain ⟨k, hk⟩ := h
        rw [Int.natCast_zero, Int.sub_zero, hnone] at hk
        cases hk
      | succ n =>
        refine ih (Nat.lt_of_succ_lt_succ hn) ?_
        rwa [Int.sub_sub, Int.add_comm, ← Int.natCast_succ]

/-- A magnitude is less than `2 ^ 53` times the gap at it. -/
theorem units_lt_mul_gap (m : Magnitude) : m.units < power 2 53 * Magnitude.gap m.units := by
  have hlt := Magnitude.lt_of_gap m.units
  rwa [power_add, Nat.mul_comm] at hlt

/-- The arithmetic of the next theorem, where no number is computed: `up` and `down` are the scales
of the grid, `whole` is the power of ten below the magnitude `units`, and `large` is the power of
ten by which the magnitude is multiplied before its digits are counted. -/
theorem lt_of_front_digit {up down one whole units large gap : Nat} (hup : 0 < up)
    (hlarge : 0 < large) (hstep : down * (power 10 18 * large) = 4 * one * (10 * whole) * up)
    (hwhole : whole * one ≤ units * large) (hgap : units < power 2 53 * gap) :
    down < 3 * gap * up := by
  have hconst : 40 * power 2 53 ≤ 3 * power 10 18 := by decide
  have hsize : units * large < power 2 53 * gap * large :=
    Nat.mul_lt_mul_of_pos_right hgap hlarge
  refine Nat.lt_of_mul_lt_mul_right (a := power 10 18 * large) ?_
  calc down * (power 10 18 * large) = 40 * (whole * one) * up := by rw [hstep]; ring
    _ ≤ 40 * (units * large) * up := by gcongr
    _ < 40 * (power 2 53 * gap * large) * up :=
        Nat.mul_lt_mul_of_pos_right (Nat.mul_lt_mul_of_pos_left hsize (by decide)) hup
    _ = 40 * power 2 53 * (gap * large * up) := by ring
    _ ≤ 3 * power 10 18 * (gap * large * up) := Nat.mul_le_mul_right _ hconst
    _ = 3 * gap * up * (power 10 18 * large) := by ring

/-- Eighteen digits make steps that are shorter than the interval: the digits in front of them are
known from the size of the magnitude. -/
theorem scaleDown_lt {m : Magnitude} (hm : m.units ≠ 0) :
    (Grid.ofExponent (leadingExponent m - (17 : Nat))).scaleDown <
      3 * Magnitude.gap m.units * (Grid.ofExponent (leadingExponent m - (17 : Nat))).scaleUp := by
  have hlarge : Magnitude.unitsPerOne ≤ power 10 400 := by decide +kernel
  have hten : 0 < power 10 400 := Nat.lt_of_lt_of_le (Nat.two_pow_pos _) hlarge
  have hunits : 0 < Magnitude.unitsPerOne := Nat.two_pow_pos _
  have hfront : m.units * power 10 400 / Magnitude.unitsPerOne ≠ 0 :=
    Nat.ne_of_gt (Nat.div_pos (Nat.le_trans hlarge
      (Nat.le_mul_of_pos_left _ (Nat.pos_of_ne_zero hm))) hunits)
  have hpos := digitCount_pos (m.units * power 10 400 / Magnitude.unitsPerOne)
  have hdigits := power_le_of_digitCount hfront
  have hexponent : leadingExponent m - (17 : Nat) =
      (digitCount (m.units * power 10 400 / Magnitude.unitsPerOne) : Int) - (18 + 400 : Nat) := by
    rw [leadingExponent]
    omega
  have hstep := Grid.scaleDown_ofExponent hexponent
  rw [Nat.le_div_iff_mul_le hunits] at hdigits
  generalize digitCount (m.units * power 10 400 / Magnitude.unitsPerOne) = count at *
  have hsplit : power 10 count = 10 * power 10 (count - 1) := by
    rw [← Nat.pow_succ', Nat.succ_eq_add_one, Nat.sub_add_cancel hpos]
  rw [power_add 10 18 400, hsplit] at hstep
  exact lt_of_front_digit (Grid.scaleUp_ofExponent_pos _) hten hstep hdigits (units_lt_mul_gap m)

/-- **The shortest decimal number of a magnitude is not zero**, unless the magnitude is. -/
theorem digits_shortest_ne_zero {m : Magnitude} (hm : m.units ≠ 0) :
    (shortest m).digits ≠ 0 := by
  obtain ⟨hlow, hbelow, habove, hlong⟩ := Interval.around_spec hm
  have hup := Grid.scaleUp_ofExponent_pos (leadingExponent m - (17 : Nat))
  have hdown := scaleDown_lt hm
  rw [shortest, if_neg hm]
  refine digits_search_ne_zero hlow (by decide : 17 < 18)
    (Grid.exists_nearest? hbelow habove hup (Grid.scaleDown_ofExponent_pos _) ?_)
  -- The last of the eighteen grids has steps shorter than the interval.
  generalize Grid.ofExponent (leadingExponent m - (17 : Nat)) = g at hdown ⊢
  have hmul := Nat.mul_le_mul_right g.scaleUp hlong
  rw [Nat.add_mul] at hmul
  omega

end Decimal

end SwitchTrace
