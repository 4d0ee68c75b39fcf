import SwitchTrace.Proofs.Numeric.Division

/-!
# Whole numbers in the format

Not every whole number is a number of the format, but the number of the format next to it is whole.
One and all gaps are powers of two. Where the gap divides one, whole numbers are not rounded, and
where one divides the gap, there are no numbers of the format but whole ones. A whole number that is
taken to the format and back has therefore been rounded once, and not a second time.

## Main results

* `Magnitude.unitsPerOne_dvd_roundToGap` — whole numbers are rounded to whole numbers.
* `Binary64.round_ofInt_iff` — to the format and back.
* `Binary64.one_mul` — multiplying with one.
-/

namespace SwitchTrace

open Magnitude (unitsPerOne)

/-! ### Whole numbers -/

namespace Magnitude

/-- A magnitude is the magnitude next to it. -/
theorem ofRatio?_units (m : Magnitude) {den : Nat} (hden : 0 < den) :
    ofRatio? (m.units * den) den = some m := by
  have hexact := roundToGap_exact hden m.gap_dvd
  rw [ofRatio?, dif_pos (hexact.symm ▸ m.lt_top)]
  exact congrArg some (ext_units hexact)

theorem gap_dvd_unitsPerOne_or (units : Nat) :
    gap units ∣ unitsPerOne ∨ unitsPerOne ∣ gap units := by
  rcases Nat.le_total (units.log2 - 52) unitExponent with hfine | hcoarse
  · exact .inl (Nat.pow_dvd_pow 2 hfine)
  · exact .inr (Nat.pow_dvd_pow 2 hcoarse)

/-- **A whole number is rounded to a whole number.** -/
theorem unitsPerOne_dvd_roundToGap (n : Nat) : unitsPerOne ∣ roundToGap (n * unitsPerOne) 1 := by
  rcases gap_dvd_unitsPerOne_or (n * unitsPerOne) with hfine | hcoarse
  · have hexact := roundToGap_exact Nat.one_pos (Nat.dvd_mul_left_of_dvd hfine n)
    rw [Nat.mul_one] at hexact
    rw [hexact]
    exact Nat.dvd_mul_left unitsPerOne n
  · rw [roundToGap, Nat.div_one]
    exact Nat.dvd_mul_left_of_dvd hcoarse _

end Magnitude

theorem exists_nearestUnits_whole (n : Int) :
    ∃ k : Int, nearestUnits (n * unitsPerOne) = k * unitsPerOne := by
  obtain ⟨j, hj⟩ := Magnitude.unitsPerOne_dvd_roundToGap n.natAbs
  refine ⟨Binary64.signed (decide (n < 0)) j, ?_⟩
  rw [Binary64.nearestUnits_whole, hj, Nat.mul_comm, Binary64.signed_mul]

/-- A whole number is the whole number next to it. -/
theorem nearestWhole_intCast (n : Int) : nearestWhole n = n := by
  have hlt : |(nearestWhole n - n : ℚ)| < 1 :=
    (abs_nearestWhole_sub_le n).trans_lt (by norm_num)
  exact sub_eq_zero.mp (Int.abs_lt_one_iff.mp (by exact_mod_cast hlt))

namespace Binary64

/-! ### To the format and back -/

/-- A power of two within the format bounds whole numbers within the format. -/
theorem mul_unitsPerOne_lt_bound {n : Int} {k : Nat} (hk : k < 1024) (hn : n.natAbs ≤ power 2 k) :
    n.natAbs * unitsPerOne < Magnitude.bound := by
  obtain ⟨x, hx, -⟩ := exists_ofInt hk hn
  exact exists_ofInt_iff.mp ⟨x, hx⟩

/-- **A whole number that is taken to the format and back** has been rounded once. -/
theorem round_ofInt_iff {n k : Int} {x : Binary64} (h : ofInt n = .ok x) :
    x.round = .ok k ↔ k * unitsPerOne = nearestUnits (n * unitsPerOne) := by
  have hne : (unitsPerOne : Int) ≠ 0 := Int.natCast_ne_zero.mpr (Nat.ne_of_gt unitsPerOne_pos)
  obtain ⟨j, hj⟩ := exists_nearestUnits_whole n
  have hwhole : nearestWhole (nearestUnits (n * unitsPerOne) / unitsPerOne) = j := by
    rw [hj, Int.cast_mul, Int.cast_natCast, mul_div_cancel_right₀ _ unitsPerOne_pos_rat.ne',
      nearestWhole_intCast]
  simp only [round_eq_ok_iff, units?_ofInt h, Option.some.injEq, exists_eq_left', hwhole]
  rw [hj, Int.mul_eq_mul_right_iff hne]

/-! ### One -/

/-- The only number with the value one. -/
theorem isOne_iff {x : Binary64} : x.isOne = true ↔ x = one := by
  constructor
  · intro h
    obtain ⟨negative, m, rfl, hm⟩ := units?_eq_some_iff.mp (beq_iff_eq.mp h)
    have hpos := unitsPerOne_pos
    cases negative with
    | false =>
      rw [signed, if_neg Bool.false_ne_true, Int.one_mul, Int.natCast_inj,
        ← Magnitude.units_one] at hm
      rw [one, Magnitude.ext_units hm]
    | true =>
      rw [signed, if_pos rfl] at hm
      omega
  · rintro rfl
    refine equalsInt_finite (n := 1) ?_
    rw [Magnitude.units_one, Int.natAbs_one, Nat.one_mul]

/-- **Multiplying with one** leaves every number as it is. -/
theorem one_mul (x : Binary64) : one.mul x = x := by
  have hpos := unitsPerOne_pos
  cases x with
  | nan => rfl
  | infinity negative =>
    rw [one, mul, Magnitude.units_one, if_neg (Nat.ne_of_gt hpos), Bool.false_bne]
  | finite negative m =>
    rw [one, mul, Magnitude.units_one, Bool.false_bne, Nat.mul_comm, ofUnits,
      m.ofRatio?_units hpos, saturated]

end Binary64

end SwitchTrace
