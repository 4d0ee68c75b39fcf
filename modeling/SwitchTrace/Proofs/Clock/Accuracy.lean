import SwitchTrace.Proofs.Clock.Anchors
import SwitchTrace.Proofs.Numeric.Relative

/-!
# How accurate a clock map is

A conversion rounds up to five times before the nearest whole number is taken: the two distances of
the window, their quotient, the distance of the reading, and the product. No distance of readings of
64 bits is greater than `2 ^ 64`, and none is smaller than one unless it is zero. All numbers on the
way are then zero or large, and every rounding is near up to the same factor. A scale of one takes
part in this: it is near to the quotient that was rounded to it.

## Main definitions

* `ClockMap.idealStretch` — what the distance would be without rounding.
* `ClockMap.leastScale` — no scale is smaller than this, in units.

## Main results

* `ClockMap.isNear_windowUnits` — the scale of a window is near to the exact quotient.
* `ClockMap.abs_stretched_sub_le` — a stretched distance is near to the exact one.
* `ClockMap.exists_convert_near` — so is every conversion of readings of 64 bits.
-/

namespace SwitchTrace

open Magnitude (unitsPerOne)

namespace ClockMap

/-! ### Sizes -/

/-- Two to the power of minus 64 is two to the power of this, in units. -/
def leastExponent : Nat := 1010

/-- The number of units in two to the power of minus 64. -/
def leastScale : Nat := power 2 leastExponent

theorem unitsPerOne_eq_mul_leastScale : unitsPerOne = power 2 64 * leastScale := by
  rw [leastScale, ← power_add]
  exact congrArg (power 2) (by decide : Magnitude.unitExponent = 64 + leastExponent)

theorem leastScale_pos : (0 : ℚ) < leastScale := by
  exact_mod_cast (Nat.two_pow_pos leastExponent : 0 < leastScale)

theorem power_le_leastScale : ((power 2 52 : Nat) : ℚ) ≤ leastScale := by
  exact_mod_cast (Nat.pow_le_pow_right (by decide : 0 < 2) (by decide : 52 ≤ leastExponent) :
    power 2 52 ≤ leastScale)

theorem leastScale_le_unitsPerOne : (leastScale : ℚ) ≤ unitsPerOne := by
  exact_mod_cast (Nat.pow_le_pow_right (by decide : 0 < 2)
    (by decide : leastExponent ≤ Magnitude.unitExponent) : leastScale ≤ unitsPerOne)

theorem isRepresentable_leastScale : IsRepresentable leastScale :=
  Magnitude.gap_two_pow_dvd leastExponent

theorem isRepresentable_power_mul_unitsPerOne (k : Nat) :
    IsRepresentable ((power 2 k * unitsPerOne : Nat) : Int) := by
  rw [Binary64.power_mul_unitsPerOne]
  exact Magnitude.gap_two_pow_dvd _

/-- A whole number, in units. -/
theorem isSizable_units (n : Int) : IsSizable unitsPerOne (n * unitsPerOne : ℚ) := by
  have hpos := Binary64.unitsPerOne_pos_rat
  have hone : IsSizable (unitsPerOne : ℚ) (unitsPerOne : ℚ) := .inr (le_abs_self _)
  have hmul := (IsSizable.intCast n).mul hone hpos.le
  rwa [one_mul] at hmul

/-- A whole number is rounded to a near one. -/
theorem isNear_nearestUnits_units (n : Int) :
    IsNear (1 + roundoff) (nearestUnits (n * unitsPerOne)) (n * unitsPerOne) :=
  ((isSizable_units n).mono (power_le_leastScale.trans leastScale_le_unitsPerOne)
    ).isNear_nearestUnits

/-- A rounded whole number is zero or at least one. -/
theorem isSizable_nearestUnits_units (n : Int) :
    IsSizable unitsPerOne (nearestUnits (n * unitsPerOne) : ℚ) := by
  have hsizable := isSizable_units n
  rw [← Int.cast_natCast] at hsizable ⊢
  exact hsizable.nearestUnits isRepresentable_unitsPerOne

variable {src : Int} (dst : Int)

/-- A distance of readings of 64 bits is rounded to at most `2 ^ 64`. -/
theorem abs_nearestUnits_units_le (hsrc : src.natAbs ≤ power 2 64) :
    |(nearestUnits (src * unitsPerOne) : ℚ)| ≤ (power 2 64 : Nat) * unitsPerOne := by
  have hpos := Binary64.unitsPerOne_pos_rat
  have hle : |(src * unitsPerOne : ℚ)| ≤ ((power 2 64 * unitsPerOne : Nat) : Int) := by
    rw [abs_mul, abs_of_pos hpos, Int.cast_natCast, Nat.cast_mul]
    exact mul_le_mul_of_nonneg_right (abs_cast_le_of_natAbs_le hsrc) hpos.le
  have hround := abs_nearestUnits_le (isRepresentable_power_mul_unitsPerOne 64) hle
  rwa [Int.cast_natCast, Nat.cast_mul] at hround

/-- The quotient of two rounded distances is zero or not too small. -/
theorem isSizable_quotient (hsrc : src.natAbs ≤ power 2 64) : IsSizable leastScale
    (nearestUnits (dst * unitsPerOne) * unitsPerOne / nearestUnits (src * unitsPerOne) : ℚ) := by
  have hpos := Binary64.unitsPerOne_pos_rat
  have hone : IsSizable (unitsPerOne : ℚ) (unitsPerOne : ℚ) := .inr (le_abs_self _)
  have hdividend := (isSizable_nearestUnits_units dst).mul hone hpos.le
  have hquotient := hdividend.div (mul_nonneg hpos.le hpos.le) (abs_nearestUnits_units_le hsrc)
  have hleast : (unitsPerOne * unitsPerOne : ℚ) / ((power 2 64 : Nat) * unitsPerOne) =
      leastScale := by
    have hpower : ((power 2 64 : Nat) : ℚ) ≠ 0 := by norm_num
    have hsplit : (unitsPerOne : ℚ) = (power 2 64 : Nat) * leastScale := by
      exact_mod_cast unitsPerOne_eq_mul_leastScale
    rw [mul_div_mul_right _ _ hpos.ne', hsplit, mul_div_cancel_left₀ _ hpower]
  rwa [hleast] at hquotient

/-- A scale is zero or not too small. -/
theorem isSizable_windowUnits (hne : src ≠ 0) (hsrc : src.natAbs ≤ power 2 64) :
    IsSizable leastScale (windowUnits src dst : ℚ) := by
  have hquotient := isSizable_quotient dst hsrc
  rw [← Int.cast_natCast] at hquotient ⊢
  rw [windowUnits, if_neg hne]
  exact hquotient.nearestUnits isRepresentable_leastScale

/-- The product of a scale and a rounded distance is zero or not too small. -/
theorem isSizable_product (hne : src ≠ 0) (hsrc : src.natAbs ≤ power 2 64) (delta : Int) :
    IsSizable leastScale
      (windowUnits src dst * nearestUnits (delta * unitsPerOne) / unitsPerOne : ℚ) := by
  have hpos := Binary64.unitsPerOne_pos_rat
  have hproduct := (isSizable_windowUnits dst hne hsrc).mul (isSizable_nearestUnits_units delta)
    hpos.le
  have hquotient := hproduct.div (mul_nonneg leastScale_pos.le hpos.le) (abs_of_pos hpos).le
  rwa [mul_div_cancel_right₀ _ hpos.ne'] at hquotient

/-! ### Factors -/

/-- The factor up to which a scale is near to the exact quotient: the dividend, the divisor and the
quotient are rounded. -/
def scaleFactor : ℚ := (1 + roundoff) * ((1 + roundoff) * (2 - (1 + roundoff))⁻¹)

theorem scaleFactor_le : scaleFactor ≤ 1 + 6 * roundoff := by
  norm_num [scaleFactor, roundoff]

/-- A distance and its product with the scale are rounded besides. -/
theorem productFactor_le : (1 + roundoff) * (scaleFactor * (1 + roundoff)) ≤ 1 + 6 * roundoff := by
  norm_num [scaleFactor, roundoff]

/-- **The scale of a window is near to the exact quotient.** -/
theorem isNear_windowUnits (hne : src ≠ 0) (hsrc : src.natAbs ≤ power 2 64) :
    IsNear scaleFactor (windowUnits src dst) (dst * unitsPerOne / src) := by
  have hpos := Binary64.unitsPerOne_pos_rat
  have hrounded := ((isSizable_quotient dst hsrc).mono power_le_leastScale).isNear_nearestUnits
  have hquotient := ((isNear_nearestUnits_units dst).mul_right unitsPerOne).div
    (isNear_nearestUnits_units src) (by norm_num [roundoff])
  rw [mul_div_mul_right _ _ hpos.ne'] at hquotient
  rw [windowUnits, if_neg hne]
  exact hrounded.trans hquotient

/-- The rounded product of a scale and a rounded distance is near to the exact one. -/
theorem isNear_product (hne : src ≠ 0) (hsrc : src.natAbs ≤ power 2 64) (delta : Int) :
    IsNear (1 + 6 * roundoff)
      (nearestUnits (windowUnits src dst * nearestUnits (delta * unitsPerOne) / unitsPerOne) /
        unitsPerOne) (delta * dst / src) := by
  have hpos := Binary64.unitsPerOne_pos_rat
  have hrounded :=
    ((isSizable_product dst hne hsrc delta).mono power_le_leastScale).isNear_nearestUnits
  have hproduct := ((isNear_windowUnits dst hne hsrc).mul
    (isNear_nearestUnits_units delta)).mul_right (unitsPerOne : ℚ)⁻¹
  have hnear := ((hrounded.trans hproduct).mul_right (unitsPerOne : ℚ)⁻¹).mono productFactor_le
  have hexact : (dst * unitsPerOne / src * (delta * unitsPerOne) * (unitsPerOne : ℚ)⁻¹ *
      (unitsPerOne : ℚ)⁻¹ : ℚ) = delta * dst / src := by
    generalize (unitsPerOne : ℚ) = u at hpos
    field_simp
  rwa [hexact] at hnear

/-! ### Conversions -/

/-- **A stretched distance is near to the exact one**, up to one half. -/
theorem abs_stretched_sub_le (hne : src ≠ 0) (hsrc : src.natAbs ≤ power 2 64) (delta : Int) :
    |(stretched (windowUnits src dst) delta - delta * dst / src : ℚ)| ≤
      1 / 2 + 6 * roundoff * |(delta * dst / src : ℚ)| := by
  have hpos := Binary64.unitsPerOne_pos_rat
  unfold stretched
  split
  · -- The scale of one is near to the exact quotient, and the distance is not rounded.
    next hone =>
    have hscale := (isNear_windowUnits dst hne hsrc).mul_right (delta / unitsPerOne : ℚ)
    have hexact : (dst * unitsPerOne / src * (delta / unitsPerOne) : ℚ) = delta * dst / src := by
      generalize (unitsPerOne : ℚ) = u at hpos
      field_simp
    rw [hone, Int.cast_natCast, mul_div_cancel₀ _ hpos.ne', hexact] at hscale
    have hnear := (hscale.mono scaleFactor_le).near
    rw [add_sub_cancel_left] at hnear
    linarith
  · have hnear := (isNear_product dst hne hsrc delta).near
    have hwhole := abs_nearestWhole_sub_le (nearestUnits
      (windowUnits src dst * nearestUnits (delta * unitsPerOne) / unitsPerOne) / unitsPerOne)
    rw [add_sub_cancel_left] at hnear
    exact (abs_sub_le _ _ _).trans (add_le_add hwhole hnear)

/-- **Every conversion of readings of 64 bits succeeds and is accurate.** The map of a window adds
to its anchor the exact distance, up to one half for the nearest whole number and six roundoffs of
this distance. -/
theorem exists_convert_near {srcStart srcEnd dstStart dstEnd reading : Int}
    (hss : IntField.i64.Holds srcStart) (hse : IntField.i64.Holds srcEnd)
    (hds : IntField.i64.Holds dstStart) (hde : IntField.i64.Holds dstEnd)
    (hreading : IntField.i64.Holds reading) (hne : srcStart ≠ srcEnd) :
    ∃ m n, ofWindow srcStart srcEnd dstStart dstEnd = .ok m ∧ m.convert reading = .ok n ∧
      let exact : ℚ := (reading - srcEnd) * (dstEnd - dstStart) / (srcEnd - srcStart)
      |n - (dstEnd + exact)| ≤ 1 / 2 + 6 / 2 ^ 53 * |exact| := by
  have hsrc := IntField.natAbs_sub_le hse hss
  obtain ⟨m, hm, hconvert⟩ := exists_convert_ofWindow hsrc (IntField.natAbs_sub_le hde hds)
  refine ⟨m, _, hm, hconvert reading (IntField.natAbs_sub_le hreading hse), ?_⟩
  have hnear := abs_stretched_sub_le (dstEnd - dstStart) (by omega : srcEnd - srcStart ≠ 0) hsrc
    (reading - srcEnd)
  have hroundoffs : 6 * roundoff = 6 / 2 ^ 53 := by norm_num [roundoff]
  rw [hroundoffs] at hnear
  push_cast at hnear ⊢
  rw [add_sub_add_left_eq_sub]
  exact hnear

/-- The lengths of this window differ by one, and their quotient is rounded to one. -/
theorem exists_convert_near_unequal :
    ∃ m n, ofWindow 0 9007199254740993 0 9007199254740992 = .ok m ∧ m.scale = .one ∧
      m.convert 0 = .ok n ∧ |n - (9007199254740992 + -9007199254740992 : ℚ)| ≤
        1 / 2 + 6 / 2 ^ 53 * |(-9007199254740992 : ℚ)| := by
  obtain ⟨m, n, hm, hn, hnear⟩ := @exists_convert_near 0 9007199254740993 0 9007199254740992 0
    (by decide) (by decide) (by decide) (by decide) (by decide) (by decide)
  have hone : ofWindow 0 9007199254740993 0 9007199254740992 =
      .ok ⟨9007199254740992, 9007199254740993, .one⟩ := by decide +kernel
  obtain rfl := Except.ok.inj (hm.symm.trans hone)
  refine ⟨_, n, hm, rfl, hn, ?_⟩
  norm_num at hnear ⊢
  exact hnear

end ClockMap

end SwitchTrace
