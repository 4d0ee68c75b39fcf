import SwitchTrace.Proofs.Clock.Accuracy
import SwitchTrace.Proofs.Numeric.Whole
import SwitchTrace.Proofs.Steps

/-!
# A scale of one

A map whose scale is one moves every reading by its whole distance. The format takes part in this
only for maps of other scales, and it is what scaling by one would come down to: the product with
one is exact, and so is the nearest whole number of a distance that has been rounded to the format.
The rounding of the distance is left. It does nothing up to `2 ^ 53`, at `2 ^ 53 + 1` it does, and
it leads no further away than roundoff. Distances beyond the format cannot be scaled at all.

## Main definitions

* `ClockMap.convertScaled` — conversion with the distance scaled for every scale.

## Main results

* `ClockMap.scaled_one_eq_ok_iff` — a distance scaled by one is rounded to the format.
* `ClockMap.scaled_one_eq_self_iff` — the distances that are not changed by it.
* `ClockMap.convert_refines_convertScaled` — conversions with and without the format.
-/

namespace SwitchTrace

open Magnitude (unitsPerOne)

namespace ClockMap

/-! ### Distances -/

variable {delta n : Int}

/-- **A distance scaled by one** has been rounded to the format, if it is not beyond it. -/
theorem scaled_one_eq_ok_iff : scaled .one delta = .ok n ↔
    delta.natAbs * unitsPerOne < Magnitude.bound ∧
      n * unitsPerOne = nearestUnits (delta * unitsPerOne) := by
  simp only [scaled, Binary64.one_mul]
  rw [bind_eq_ok_iff, ← Binary64.exists_ofInt_iff, ← exists_and_right]
  exact exists_congr fun x => and_congr_right fun hx => Binary64.round_ofInt_iff hx

theorem exists_scaled_one (hfits : delta.natAbs * unitsPerOne < Magnitude.bound) :
    ∃ n, scaled .one delta = .ok n := by
  obtain ⟨n, hn⟩ := exists_nearestUnits_whole delta
  exact ⟨n, scaled_one_eq_ok_iff.mpr ⟨hfits, hn.symm⟩⟩

/-- **A distance stays as it is when it is scaled by one** just if it is a value of the format. -/
theorem scaled_one_eq_self_iff : scaled .one delta = .ok delta ↔
    delta.natAbs * unitsPerOne < Magnitude.bound ∧ IsRepresentable (delta * unitsPerOne) := by
  rw [scaled_one_eq_ok_iff, ← nearestUnits_eq_self_iff, Int.cast_mul, Int.cast_natCast]
  exact and_congr_right fun _ => eq_comm

/-- **Scaling by one leads no further away than roundoff.** -/
theorem abs_sub_le_of_scaled_one (h : scaled .one delta = .ok n) :
    |(n - delta : ℚ)| ≤ roundoff * |(delta : ℚ)| := by
  have hpos := Binary64.unitsPerOne_pos_rat
  have hunits : (nearestUnits (delta * unitsPerOne) : ℚ) = n * unitsPerOne := by
    exact_mod_cast (scaled_one_eq_ok_iff.mp h).2.symm
  have hnear := (isNear_nearestUnits_units delta).near
  rw [hunits, add_sub_cancel_left, ← sub_mul, abs_mul, abs_mul, abs_of_pos hpos,
    ← mul_assoc] at hnear
  exact le_of_mul_le_mul_right hnear hpos

/-! ### Readings -/

/-- The image of a reading whose distance is scaled in the format, also for a scale of one. -/
def convertScaled (m : ClockMap) (reading : Int) : Except ArithmeticFault Int :=
  (m.dst + ·) <$> scaled m.scale (reading - m.src)

/-- Conversion leaves the format aside just for a scale of one. -/
theorem convert_eq_ite (m : ClockMap) (reading : Int) : m.convert reading =
    if m.scale.isOne = true then .ok (m.dst + (reading - m.src)) else m.convertScaled reading := rfl

/-- **A scale of one does what scaling in the format does**, without its roundoff and its limits. -/
theorem convert_refines_convertScaled {m : ClockMap} (hone : m.scale.isOne = true)
    (reading : Int) :
    let delta := reading - m.src
    m.convert reading = .ok (m.dst + delta) ∧
      (delta.natAbs ≤ power 2 53 → m.convertScaled reading = m.convert reading) ∧
      (delta.natAbs < power 2 1023 → ∃ n, m.convertScaled reading = .ok n ∧
        |(n - (m.dst + delta) : ℚ)| ≤ |(delta : ℚ)| / 2 ^ 53) := by
  intro delta
  have hscale := Binary64.isOne_iff.mp hone
  have hconvert : m.convert reading = .ok (m.dst + delta) := by rw [convert_eq_ite, if_pos hone]
  refine ⟨hconvert, fun hexact => ?_, fun hrange => ?_⟩
  · have hfits := Binary64.mul_unitsPerOne_lt_bound (by decide : 53 < 1024) hexact
    have hscaled := scaled_one_eq_self_iff.mpr ⟨hfits, isRepresentable_mul_unitsPerOne hexact⟩
    rw [hconvert, convertScaled, hscale, hscaled]
    rfl
  · obtain ⟨n, hn⟩ := exists_scaled_one
      (Binary64.mul_unitsPerOne_lt_bound (by decide : 1023 < 1024) (Nat.le_of_lt hrange))
    refine ⟨m.dst + n, by rw [convertScaled, hscale, hn]; rfl, ?_⟩
    have hnear := abs_sub_le_of_scaled_one hn
    have hroundoff : roundoff * |(delta : ℚ)| = |(delta : ℚ)| / 2 ^ 53 := by
      norm_num [roundoff, div_eq_inv_mul]
    rw [hroundoff] at hnear
    rw [Int.cast_add, add_sub_add_left_eq_sub]
    exact hnear

/-- The least distance that is no value of the format is rounded to the even one of its neighbours,
and a reading at this distance one too low. -/
theorem convert_refines_convertScaled_pastMantissa :
    let m : ClockMap := ⟨1000, 0, .one⟩
    m.scale.isOne = true ∧ m.convert 9007199254740993 = .ok 9007199254741993 ∧
      m.convertScaled 9007199254740993 = .ok 9007199254741992 ∧
      |(9007199254741992 - (1000 + 9007199254740993) : ℚ)| ≤
        |(9007199254740993 : ℚ)| / 2 ^ 53 := by
  intro m
  have hone : m.scale.isOne = true := Binary64.isOne_iff.mpr rfl
  obtain ⟨hconvert, -, hscaled⟩ := convert_refines_convertScaled hone 9007199254740993
  obtain ⟨n, hn, hnear⟩ := hscaled (by decide +kernel)
  have hvalue : m.convertScaled 9007199254740993 = .ok 9007199254741992 := by decide +kernel
  obtain rfl := Except.ok.inj (hn.symm.trans hvalue)
  refine ⟨hone, hconvert, hvalue, ?_⟩
  norm_num at hnear ⊢

end ClockMap

end SwitchTrace
