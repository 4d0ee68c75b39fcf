import SwitchTrace.Proofs.Clock.Order
import SwitchTrace.Proofs.Clock.Range
import SwitchTrace.Proofs.Clock.Window
import SwitchTrace.Proofs.Numeric.Relative

/-!
# Both ends of a window

A clock map is anchored at the end of its window. Its scale is a rounded quotient, and to the start
it comes back through a rounded product. Both distances of a window that is not too long are values
of the format. The quotient, taken as often as the source is long, is then at most a quarter of a
reading away from the destination. Quarters are values of the format, too, so that rounding the
product does not pass them, and the nearest whole number is the destination.

## Main results

* `ClockMap.exists_convert_ofWindow` — the map of a window, on exact values.
* `nearestWhole_nearestUnits_eq` — the last two roundings make up for a quarter of a reading.
* `ClockMap.exists_ofWindow_anchored` — both ends of a window are converted exactly.
-/

namespace SwitchTrace

open Magnitude (unitsPerOne quarter)

/-! ### Quarters -/

theorem abs_cast_le_of_natAbs_le {n : Int} {k : Nat} (h : n.natAbs ≤ k) : |(n : ℚ)| ≤ k := by
  rw [← Int.cast_abs, ← Nat.cast_natAbs]
  exact Nat.cast_le.mpr h

theorem isRepresentable_mul_quarter {k : Int} (hk : k.natAbs < power 2 53) :
    IsRepresentable (k * quarter) :=
  isRepresentable_mul_power hk Magnitude.quarterExponent

/-- The whole number next to a number that is at most a quarter away from it. -/
theorem nearestWhole_eq_of_abs_sub_le {n : Int} {q : ℚ} (h : |q - n| ≤ 1 / 4) :
    nearestWhole q = n := by
  have hwhole := abs_nearestWhole_sub_le q
  generalize nearestWhole q = w at hwhole ⊢
  rw [abs_le] at h hwhole
  have hlt : (w : ℚ) < n + 1 := by linarith
  have hgt : (n : ℚ) < w + 1 := by linarith
  have hlt' : w < n + 1 := by exact_mod_cast hlt
  have hgt' : n < w + 1 := by exact_mod_cast hgt
  omega

/-- A number at most a quarter away from a whole number below `2 ^ 51` is not rounded further away,
and then to this whole number. -/
theorem nearestWhole_nearestUnits_eq {n : Int} (hn : n.natAbs < power 2 51) {q : ℚ}
    (h : |q - n * unitsPerOne| ≤ unitsPerOne / 4) :
    nearestWhole (nearestUnits q / unitsPerOne) = n := by
  have hpower : power 2 53 = 4 * power 2 51 := by decide
  have hfour : (unitsPerOne : ℚ) = 4 * quarter := by
    exact_mod_cast Magnitude.unitsPerOne_eq_four_mul_quarter
  rw [hfour, abs_le] at h
  have hlow : (4 * n - 1) * quarter ≤ nearestUnits q := by
    refine (isRepresentable_mul_quarter (by omega)).le_nearestUnits ?_
    push_cast
    linarith
  have hhigh : nearestUnits q ≤ (4 * n + 1) * quarter := by
    refine (isRepresentable_mul_quarter (by omega)).nearestUnits_le ?_
    push_cast
    linarith
  have hlow' : ((4 * n - 1) * quarter : ℚ) ≤ nearestUnits q := by exact_mod_cast hlow
  have hhigh' : (nearestUnits q : ℚ) ≤ (4 * n + 1) * quarter := by exact_mod_cast hhigh
  refine nearestWhole_eq_of_abs_sub_le (abs_le.mpr ⟨?_, ?_⟩)
  · rw [le_sub_iff_add_le, le_div_iff₀ Binary64.unitsPerOne_pos_rat, hfour]
    linarith
  · rw [sub_le_iff_le_add, div_le_iff₀ Binary64.unitsPerOne_pos_rat, hfour]
    linarith

namespace ClockMap

/-! ### Distances -/

theorem stretched_zero (s : Int) : stretched s 0 = 0 := by
  unfold stretched
  split
  · rfl
  · simp only [Int.cast_zero, zero_mul, nearestUnits_zero, mul_zero, zero_div]
    decide

variable {src dst : Int}

/-- Distances that are values of the format are not rounded, and their quotient is rounded once. -/
theorem windowUnits_eq_nearestUnits (hne : src ≠ 0) (hsrc : src.natAbs ≤ power 2 53)
    (hdst : dst.natAbs ≤ power 2 53) :
    windowUnits src dst = nearestUnits (dst * unitsPerOne / src) := by
  have hsrcUnits := (isRepresentable_mul_unitsPerOne hsrc).nearestUnits_eq
  have hdstUnits := (isRepresentable_mul_unitsPerOne hdst).nearestUnits_eq
  push_cast at hsrcUnits hdstUnits
  rw [windowUnits, if_neg hne, hsrcUnits, hdstUnits]
  push_cast
  rw [mul_div_mul_right _ _ Binary64.unitsPerOne_pos_rat.ne']

/-- The scale of a window, taken as often as the source is long, is at most a quarter of one away
from the destination. -/
theorem abs_windowUnits_mul_sub_le (hne : src ≠ 0) (hsrc : src.natAbs ≤ power 2 53)
    (hdst : dst.natAbs ≤ power 2 51) :
    |(windowUnits src dst * src : ℚ) - dst * unitsPerOne| ≤ unitsPerOne / 4 := by
  have hpos := Binary64.unitsPerOne_pos_rat
  have hsrc' := abs_cast_le_of_natAbs_le hsrc
  have hdst' := abs_cast_le_of_natAbs_le hdst
  have hne' : (src : ℚ) ≠ 0 := by exact_mod_cast hne
  have hunits := windowUnits_eq_nearestUnits hne hsrc
    (Nat.le_trans hdst (by decide : power 2 51 ≤ power 2 53))
  have hround := abs_nearestUnits_sub_le_max (dst * unitsPerOne / src)
  rw [← hunits] at hround
  have hsplit : (windowUnits src dst * src : ℚ) - dst * unitsPerOne =
      (windowUnits src dst - dst * unitsPerOne / src) * src := by
    rw [sub_mul, div_mul_cancel₀ _ hne']
  rw [hsplit, abs_mul]
  refine (mul_le_mul_of_nonneg_right hround (abs_nonneg _)).trans ?_
  rw [max_mul_of_nonneg _ _ (abs_nonneg _)]
  refine max_le ?_ ?_
  · have hlarge : (2 * (power 2 53 : Nat) : ℚ) ≤ unitsPerOne := by
      exact_mod_cast Magnitude.two_mul_power_le_unitsPerOne
    linarith
  · rw [mul_assoc, ← abs_mul, div_mul_cancel₀ _ hne', abs_mul, abs_of_pos hpos]
    calc roundoff * (|(dst : ℚ)| * unitsPerOne)
        ≤ roundoff * ((power 2 51 : Nat) * unitsPerOne) :=
          mul_le_mul_of_nonneg_left (mul_le_mul_of_nonneg_right hdst' hpos.le) roundoff_nonneg
      _ = roundoff * (power 2 51 : Nat) * unitsPerOne := by ring
      _ = unitsPerOne / 4 := by
          have hquarter : roundoff * (power 2 51 : Nat) = 1 / 4 := by norm_num [roundoff]
          rw [hquarter]
          ring

/-- **The whole source is stretched to the destination.** -/
theorem stretched_windowUnits_neg (hne : src ≠ 0) (hsrc : src.natAbs ≤ power 2 53)
    (hdst : dst.natAbs < power 2 51) : stretched (windowUnits src dst) (-src) = -dst := by
  have hpos := Binary64.unitsPerOne_pos_rat
  have hnear := abs_windowUnits_mul_sub_le hne hsrc (Nat.le_of_lt hdst)
  unfold stretched
  split
  · -- Distances less than one apart are the same.
    next hone =>
    rw [hone, Int.cast_natCast, mul_comm, ← sub_mul, abs_mul, abs_of_pos hpos,
      div_eq_mul_one_div, mul_comm (unitsPerOne : ℚ)] at hnear
    have hle := le_of_mul_le_mul_right hnear hpos
    have hlt : |src - dst| < 1 := by
      exact_mod_cast hle.trans_lt (by norm_num : (1 / 4 : ℚ) < 1)
    rw [sub_eq_zero.mp (Int.abs_lt_one_iff.mp hlt)]
  · have hneg : (-src).natAbs ≤ power 2 53 := by rwa [Int.natAbs_neg]
    have hexact := (isRepresentable_mul_unitsPerOne hneg).nearestUnits_eq
    push_cast at hexact
    refine nearestWhole_nearestUnits_eq (by rwa [Int.natAbs_neg]) ?_
    rw [Int.cast_neg, hexact]
    push_cast
    rw [← mul_assoc, mul_div_cancel_right₀ _ hpos.ne', mul_neg, neg_mul, neg_sub_neg,
      abs_sub_comm]
    exact hnear

/-! ### Windows -/

variable {srcStart srcEnd dstStart dstEnd : Int}

/-- **The map of a window of bounded lengths**, and its readings at bounded distances: there is one,
and what it adds to its anchor is the stretched distance from it. -/
theorem exists_convert_ofWindow (hsrc : (srcEnd - srcStart).natAbs ≤ power 2 64)
    (hdst : (dstEnd - dstStart).natAbs ≤ power 2 64) :
    ∃ m, ofWindow srcStart srcEnd dstStart dstEnd = .ok m ∧ ∀ reading : Int,
      (reading - srcEnd).natAbs ≤ power 2 64 → m.convert reading = .ok (dstEnd +
        stretched (windowUnits (srcEnd - srcStart) (dstEnd - dstStart)) (reading - srcEnd)) := by
  obtain ⟨m, hm, rfl, rfl, hscale⟩ := exists_ofWindow_of_le hsrc hdst
  refine ⟨m, hm, fun reading hreading => ?_⟩
  obtain ⟨n, hn, -⟩ := exists_convert_of_le hscale hreading
  rw [hn, convert_eq_ok (units?_of_ofWindow hm) hn]

/-- **Both ends of a window are converted exactly** if the source is at most `2 ^ 53` readings long
and the destination less than `2 ^ 51`, in whichever direction they run. -/
theorem exists_ofWindow_anchored (hne : srcStart ≠ srcEnd)
    (hsrc : (srcEnd - srcStart).natAbs ≤ power 2 53)
    (hdst : (dstEnd - dstStart).natAbs < power 2 51) :
    ∃ m, ofWindow srcStart srcEnd dstStart dstEnd = .ok m ∧ m.convert srcStart = .ok dstStart ∧
      m.convert srcEnd = .ok dstEnd := by
  have hlarge : power 2 51 ≤ power 2 53 ∧ power 2 53 ≤ power 2 64 := by decide
  obtain ⟨m, hm, hconvert⟩ :=
    @exists_convert_ofWindow srcStart srcEnd dstStart dstEnd (by omega) (by omega)
  refine ⟨m, hm, ?_, ?_⟩
  · rw [hconvert srcStart (by omega), ← Int.neg_sub srcEnd,
      stretched_windowUnits_neg (by omega) hsrc hdst]
    exact congrArg Except.ok (by omega)
  · rw [hconvert srcEnd (by omega), Int.sub_self, stretched_zero, Int.add_zero]

/-- A window of the greatest lengths, the source running backward, comes back to its start. -/
theorem exists_ofWindow_anchored_longest :
    ∃ m, ofWindow 9007199254740992 0 (-1000) 2251799813684247 = .ok m ∧
      m.convert 9007199254740992 = .ok (-1000) ∧ m.convert 0 = .ok 2251799813684247 :=
  exists_ofWindow_anchored (by decide) (by decide) (by decide)

end ClockMap

end SwitchTrace
