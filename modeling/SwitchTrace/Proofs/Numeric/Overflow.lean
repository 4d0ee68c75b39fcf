import SwitchTrace.Numeric.Number
import SwitchTrace.Proofs.Numeric.Range

/-!
# Quotients beyond the range

Rounding leaves the magnitudes just if the quotient is not below the middle of the last gap, the one
that ends at the top. The middle itself is lost: the magnitude before it is odd.

A number of either kind that a whole number is divided by has a finite quotient under one condition
only, which none but binary64 numbers can fail.

## Main definitions

* `Magnitude.bound` — the middle of the last gap.
* `Number.QuotientFits` — the quotient of a whole number by a number is finite.

## Main results

* `Magnitude.ofRatio?_eq_none_iff` — the quotients beyond the magnitudes.
* `Number.exists_divide` — division by a number that is not zero or less.
* `Number.quotientFits_of_isAtLeastOne` — division by a number of at least one.
-/

namespace SwitchTrace

namespace Magnitude

/-- The number of units in the middle between the greatest magnitude and the top. -/
def bound : Nat := (power 2 54 - 1) * power 2 2044

theorem two_mul_bound : 2 * bound = (power 2 54 - 1) * power 2 2045 := by decide +kernel

theorem bound_lt_top : bound < top := by decide +kernel

theorem power_le_bound : power 2 2097 ≤ bound := by decide +kernel

variable {num den : Nat}

theorem lt_power_of_log2_lt {n e : Nat} (h : n.log2 < e) : n < power 2 e :=
  Nat.lt_of_lt_of_le Nat.lt_log2_self (Nat.pow_le_pow_right (by decide) h)

/-- A rounded quotient reaches `2 ^ 53`, which is even, from the middle before it on. -/
theorem power_le_divHalfEven_iff (hden : 0 < den) :
    power 2 53 ≤ divHalfEven num den ↔ (power 2 54 - 1) * den ≤ 2 * num := by
  have htwice : 2 * power 2 53 * den = (power 2 54 - 1) * den + den := by
    rw [← Nat.succ_mul]
    congr 1
  have heven : power 2 53 % 2 = 0 := by decide
  rw [le_divHalfEven_iff hden, htwice]
  generalize (power 2 54 - 1) * den = middle
  omega

/-- In the gap before a power of two a quotient is rounded to the power from the middle of the gap
on. -/
theorem power_le_roundToGap_iff {e : Nat} (hden : 0 < den) (hlog : (num / den).log2 = e + 52) :
    power 2 (53 + e) ≤ roundToGap num den ↔ (power 2 54 - 1) * power 2 e * den ≤ 2 * num := by
  have hgap : gap (num / den) = power 2 e := by rw [gap, hlog, Nat.add_sub_cancel]
  have hg : 0 < power 2 e := Nat.two_pow_pos e
  rw [roundToGap, hgap, power_add, Nat.mul_le_mul_right_iff hg,
    power_le_divHalfEven_iff (Nat.mul_pos hden hg), Nat.mul_comm den, Nat.mul_assoc]

/-- In the last gap a quotient is rounded to the top from the middle of the gap on. -/
theorem top_le_roundToGap_iff_of_log2 (hden : 0 < den) (hlog : (num / den).log2 = 2045 + 52) :
    top ≤ roundToGap num den ↔ bound * den ≤ num := by
  have htop : top = power 2 (53 + 2045) := congrArg (power 2) (by decide : topExponent = 53 + 2045)
  rw [htop, power_le_roundToGap_iff hden hlog, ← two_mul_bound, Nat.mul_assoc]
  exact Nat.mul_le_mul_left_iff (by decide)

/-- Below the last gap no quotient is rounded to the top. -/
theorem roundToGap_lt_top_of_log2 (hlog : (num / den).log2 < 2097) : roundToGap num den < top :=
  Nat.lt_of_le_of_lt (roundToGap_le_power num den) (Nat.pow_lt_pow_right (by decide)
    (by rw [topExponent]; omega))

/-- A quotient is rounded to the top or beyond it from the middle of the last gap on. -/
theorem top_le_roundToGap_iff (hden : 0 < den) :
    top ≤ roundToGap num den ↔ bound * den ≤ num := by
  rcases Nat.lt_trichotomy (num / den).log2 2097 with hlt | heq | hgt
  · -- Below the last gap neither of the two is the case.
    have hnum : num < bound * den :=
      Nat.lt_of_lt_of_le (Nat.lt_mul_of_div_lt (lt_power_of_log2_lt hlt) hden)
        (Nat.mul_le_mul_right den power_le_bound)
    exact iff_of_false (Nat.not_le.mpr (roundToGap_lt_top_of_log2 hlt)) (Nat.not_le.mpr hnum)
  · exact top_le_roundToGap_iff_of_log2 hden heq
  · -- Beyond it both are.
    have hne : num / den ≠ 0 := fun h => by simp [h] at hgt
    have hquot : top ≤ num / den :=
      Nat.le_trans (Nat.pow_le_pow_right (by decide) hgt) (Nat.log2_self_le hne)
    have hnum : top * den ≤ num := (Nat.le_div_iff_mul_le hden).mp hquot
    exact iff_of_true (le_roundToGap hden (gap_two_pow_dvd topExponent) hnum)
      (Nat.le_trans (Nat.mul_le_mul_right den (Nat.le_of_lt bound_lt_top)) hnum)

/-- **The quotients beyond the magnitudes.** -/
theorem ofRatio?_eq_none_iff (hden : 0 < den) :
    ofRatio? num den = none ↔ bound * den ≤ num := by
  rw [← top_le_roundToGap_iff hden, ofRatio?]
  split
  · next h => exact iff_of_false nofun (Nat.not_le.mpr h)
  · next h => exact iff_of_true rfl (Nat.not_lt.mp h)

end Magnitude

namespace Binary64

theorem isFinite_saturated (negative : Bool) (m? : Option Magnitude) :
    (saturated negative m?).isFinite = true ↔ m? ≠ none := by
  cases m? <;> simp [saturated, isFinite]

/-- A rounded quotient is finite below the middle of the last gap. -/
theorem isFinite_ofUnits_iff {num den : Nat} (negative : Bool) (hden : 0 < den) :
    (ofUnits negative num den).isFinite = true ↔ num < Magnitude.bound * den := by
  rw [ofUnits, isFinite_saturated, Ne, Magnitude.ofRatio?_eq_none_iff hden, Nat.not_le]

end Binary64

namespace Number

open Magnitude (unitsPerOne)

/-- The quotient of `n` by the number is within the format. For a finite binary64 number the
dividend is rounded first, and the quotient has to stay below the middle of the last gap. -/
def QuotientFits (n : Int) : Number → Prop
  | .whole _ => True
  | .float .nan => False
  | .float (.infinity _) => True
  | .float (.finite _ m) =>
    Magnitude.roundToGap (n.natAbs * unitsPerOne) 1 * unitsPerOne < Magnitude.bound * m.units

instance (n : Int) : (d : Number) → Decidable (d.QuotientFits n)
  | .whole _ => .isTrue trivial
  | .float .nan => .isFalse id
  | .float (.infinity _) => .isTrue trivial
  | .float (.finite _ _) => Nat.decLt _ _

/-- **Division by a number that is not zero or less** has an answer, which is finite just if the
quotient fits. -/
theorem exists_divide {d : Number} (hd : d.isNonpositive = false) {n : Int} {k : Nat}
    (hk : k < 1024) (hn : n.natAbs ≤ power 2 k) :
    ∃ x, d.divide n = .ok x ∧ (x.isFinite = true ↔ d.QuotientFits n) := by
  have hunits : n.natAbs * unitsPerOne ≤ power 2 k * unitsPerOne := Nat.mul_le_mul_right _ hn
  obtain ⟨m, hm, hround, -⟩ := Binary64.exists_ofRatio?_le_power Nat.one_pos hk
    (by rwa [Nat.mul_one] : n.natAbs * unitsPerOne ≤ power 2 k * unitsPerOne * 1)
  have hdividend : Binary64.ofInt n = .ok (.finite (decide (n < 0)) m) := by
    rw [Binary64.ofInt, hm, Binary64.checked]
  cases d with
  | whole w =>
    have hw : 0 < w := by simpa [isNonpositive] using hd
    have hden : 0 < w.natAbs := Int.natAbs_pos.mpr (Int.ne_of_gt hw)
    obtain ⟨q, hq, -⟩ := Binary64.exists_ofRatio?_le_power hden hk
      (Nat.le_trans hunits (Nat.le_mul_of_pos_right _ hden))
    refine ⟨.finite (decide (n < 0) != decide (w < 0)) q, ?_, iff_of_true rfl trivial⟩
    rw [divide, Binary64.ofIntRatio, if_neg (Int.ne_of_gt hw), hq, Binary64.checked]
  | float x =>
    cases x with
    | nan =>
      refine ⟨.nan, ?_, iff_of_false Bool.false_ne_true id⟩
      rw [divide, hdividend]
      rfl
    | infinity negative =>
      refine ⟨.zero (decide (n < 0) != negative), ?_, iff_of_true rfl trivial⟩
      rw [divide, hdividend]
      rfl
    | finite negative m' =>
      have hm' : 0 < m'.units := by
        simp only [isNonpositive, Binary64.isNonpositive, Bool.or_eq_false_iff, beq_eq_false_iff_ne]
          at hd
        exact Nat.pos_of_ne_zero hd.2
      refine ⟨.ofUnits (decide (n < 0) != negative) (m.units * unitsPerOne) m'.units, ?_, ?_⟩
      · rw [divide, hdividend]
        exact if_neg (Nat.ne_of_gt hm')
      · rw [Binary64.isFinite_ofUnits_iff _ hm', hround, QuotientFits]

/-- One divided by the least positive number is beyond the format. -/
example : ¬ (Number.float
    (.finite false ⟨1, by decide +kernel, by decide +kernel⟩)).QuotientFits 1 := by
  decide +kernel

/-- By numbers of at least one, whole numbers of bounded size are divided within the format. -/
theorem quotientFits_of_isAtLeastOne {x : Binary64} (hx : x.IsAtLeastOne)
    (hpos : x.isNonpositive = false) {n : Int} {k : Nat} (hk : k < 1024)
    (hn : n.natAbs ≤ power 2 k) : (Number.float x).QuotientFits n := by
  obtain ⟨y, hy, hywithin, -⟩ := Binary64.exists_ofInt hk hn
  obtain ⟨z, hz, hzwithin⟩ := hywithin.exists_div hk hx
  obtain ⟨z', hz', hfinite⟩ := exists_divide (d := .float x) hpos hk hn
  have hsame : (Number.float x).divide n = .ok z := by rw [divide, hy]; exact hz
  rw [hsame, Except.ok.injEq] at hz'
  exact hfinite.mp (hz' ▸ hzwithin.isFinite)

end Number

end SwitchTrace
