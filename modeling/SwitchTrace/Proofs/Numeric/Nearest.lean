import Mathlib.Algebra.Order.Ring.Nat
import Mathlib.Tactic.Ring
import SwitchTrace.Numeric.Binary64

/-!
# Rounding to the nearest is monotone and exact

Rounding a quotient keeps its order and leaves what is already a magnitude as it is. From these two
follow all bounds on rounded results: what lies between two magnitudes stays between them.

## Main results

* `le_divHalfEven_iff` — the whole numbers that a rounded quotient reaches.
* `Magnitude.roundToGap_mono`, `Magnitude.roundToGap_exact` — rounding to magnitudes.
* `Magnitude.roundToGap_near` — rounding to magnitudes stays within half a gap.
* `Magnitude.exists_ofRatio?_le` — a quotient below a power of two is rounded to a magnitude.
-/

namespace SwitchTrace

/-! ### Whole numbers -/

/-- A rounded quotient reaches a whole number if the quotient is above the middle between that
number and the one before it; in the middle the even one of the two counts. -/
theorem le_divHalfEven_iff {num den : Nat} (hden : 0 < den) (n : Nat) :
    n ≤ divHalfEven num den ↔
      2 * n * den < 2 * num + den ∨ 2 * n * den = 2 * num + den ∧ n % 2 = 0 := by
  have hq := Nat.div_add_mod num den
  have hr := Nat.mod_lt num hden
  have hlow := le_divHalfEven num den
  have hhigh := divHalfEven_le num den
  rw [Nat.mul_comm den] at hq
  rw [Nat.mul_assoc 2 n]
  rcases Nat.lt_trichotomy n (num / den + 1) with hlt | rfl | hgt
  · have hmul : n * den ≤ num / den * den := Nat.mul_le_mul_right den (Nat.le_of_lt_succ hlt)
    omega
  · have hsucc : (num / den + 1) * den = num / den * den + den := Nat.succ_mul _ _
    rw [hsucc, divHalfEven]
    split
    · omega
    · split
      · omega
      · split <;> omega
  · have hmul : (num / den + 2) * den ≤ n * den := Nat.mul_le_mul_right den hgt
    rw [Nat.add_mul] at hmul
    omega

/-- Rounding keeps the order of quotients. -/
theorem divHalfEven_mono {a b c d : Nat} (hb : 0 < b) (hd : 0 < d) (h : a * d ≤ c * b) :
    divHalfEven a b ≤ divHalfEven c d := by
  have hreach := (le_divHalfEven_iff hb _).mp (Nat.le_refl (divHalfEven a b))
  generalize divHalfEven a b = n at hreach ⊢
  -- Both sides are compared after they have been multiplied with both denominators.
  have hleft : 2 * n * d * b = 2 * n * b * d := Nat.mul_right_comm _ _ _
  have hright : (2 * a + b) * d ≤ (2 * c + d) * b := by
    rw [Nat.add_mul, Nat.add_mul, Nat.mul_assoc, Nat.mul_assoc, Nat.mul_comm b d]
    omega
  rw [le_divHalfEven_iff hd]
  rcases hreach with hlt | ⟨heq, heven⟩
  · left
    refine Nat.lt_of_mul_lt_mul_right (a := b) ?_
    rw [hleft]
    exact Nat.lt_of_lt_of_le (Nat.mul_lt_mul_of_pos_right hlt hd) hright
  · have hle : 2 * n * d ≤ 2 * c + d := by
      refine Nat.le_of_mul_le_mul_right ?_ hb
      rw [hleft, heq]
      exact hright
    rcases Nat.lt_or_eq_of_le hle with hlt | heq'
    · exact .inl hlt
    · exact .inr ⟨heq', heven⟩

/-! ### Magnitudes -/

namespace Magnitude

/-- Quotients in order have whole parts in order. -/
theorem div_le_div_of_mul_le {a b c d : Nat} (hb : 0 < b) (hd : 0 < d) (h : a * d ≤ c * b) :
    a / b ≤ c / d := by
  rw [Nat.le_div_iff_mul_le hd]
  refine Nat.le_of_mul_le_mul_right ?_ hb
  calc a / b * d * b = a / b * b * d := Nat.mul_right_comm _ _ _
    _ ≤ a * d := Nat.mul_le_mul_right d (Nat.div_mul_le_self a b)
    _ ≤ c * b := h

/-- A rounded quotient does not pass the next power of two. -/
theorem roundToGap_le_power (num den : Nat) :
    roundToGap num den ≤ power 2 (53 + ((num / den).log2 - 52)) := by
  have hlt := lt_of_gap (num / den)
  generalize he : (num / den).log2 - 52 = e at hlt ⊢
  have hquot : num / (den * power 2 e) < power 2 53 := by
    rw [← Nat.div_div_eq_div_mul]
    refine Nat.div_lt_of_lt_mul ?_
    rw [← power_add]
    exact hlt
  have hround : divHalfEven num (den * power 2 e) ≤ power 2 53 :=
    Nat.le_trans (divHalfEven_le _ _) (Nat.succ_le_of_lt hquot)
  rw [roundToGap, gap, he, power_add]
  exact Nat.mul_le_mul_right _ hround

/-- A rounded quotient does not fall below the power of two before it. -/
theorem power_le_roundToGap {num den e : Nat} (he : 0 < e)
    (hexp : (num / den).log2 = e + 52) : power 2 (52 + e) ≤ roundToGap num den := by
  have hgap : gap (num / den) = power 2 e := by
    rw [gap, hexp, Nat.add_sub_cancel]
  have hne : num / den ≠ 0 := by
    intro h
    rw [h, Nat.log2_zero] at hexp
    omega
  have hquot : power 2 52 ≤ num / (den * power 2 e) := by
    rw [← Nat.div_div_eq_div_mul, Nat.le_div_iff_mul_le (Nat.two_pow_pos e), ← power_add,
      Nat.add_comm, ← hexp]
    exact Nat.log2_self_le hne
  rw [roundToGap, hgap, power_add]
  exact Nat.mul_le_mul_right _ (Nat.le_trans hquot (le_divHalfEven _ _))

/-- **Rounding to magnitudes keeps the order of quotients.** -/
theorem roundToGap_mono {a b c d : Nat} (hb : 0 < b) (hd : 0 < d) (h : a * d ≤ c * b) :
    roundToGap a b ≤ roundToGap c d := by
  have hwhole := div_le_div_of_mul_le hb hd h
  have hlog : (a / b).log2 ≤ (c / d).log2 := by
    by_cases ha : a / b = 0
    · simp [ha]
    · have hc : c / d ≠ 0 := fun hc => ha (Nat.le_zero.mp (hc ▸ hwhole))
      exact (Nat.le_log2 hc).mpr (Nat.le_trans (Nat.log2_self_le ha) hwhole)
  rcases Nat.lt_or_ge ((a / b).log2 - 52) ((c / d).log2 - 52) with hlt | hge
  · -- A power of two lies between the two.
    obtain ⟨e, he⟩ : ∃ e, (c / d).log2 - 52 = e := ⟨_, rfl⟩
    rw [he] at hlt
    calc roundToGap a b ≤ power 2 (53 + ((a / b).log2 - 52)) := roundToGap_le_power a b
      _ ≤ power 2 (52 + e) := Nat.pow_le_pow_right (by decide) (by omega)
      _ ≤ roundToGap c d := power_le_roundToGap (by omega) (by omega)
  · have hgap : gap (a / b) = gap (c / d) := by
      rw [gap, gap, show (a / b).log2 - 52 = (c / d).log2 - 52 by omega]
    have hg := gap_pos (c / d)
    simp only [roundToGap, hgap]
    refine Nat.mul_le_mul_right _ (divHalfEven_mono (Nat.mul_pos hb hg) (Nat.mul_pos hd hg) ?_)
    rw [← Nat.mul_assoc, ← Nat.mul_assoc]
    exact Nat.mul_le_mul_right _ h

/-- **A magnitude is its own rounding.** -/
theorem roundToGap_exact {units den : Nat} (hden : 0 < den) (h : gap units ∣ units) :
    roundToGap (units * den) den = units := by
  obtain ⟨k, hk⟩ := h
  have hmul : units * den = den * gap units * k := by
    rw [Nat.mul_assoc, ← hk, Nat.mul_comm]
  have hround : divHalfEven (units * den) (den * gap units) = k := by
    rw [hmul]
    exact divHalfEven_mul_left (Nat.mul_pos hden (gap_pos units)) k
  rw [roundToGap, Nat.mul_div_cancel _ hden, hround, Nat.mul_comm]
  exact hk.symm

/-- What is not above a magnitude is not rounded above it. -/
theorem roundToGap_le {num den units : Nat} (hden : 0 < den) (hunits : gap units ∣ units)
    (h : num ≤ units * den) : roundToGap num den ≤ units := by
  rw [← roundToGap_exact hden hunits]
  exact roundToGap_mono hden hden (Nat.mul_le_mul_right den h)

/-- What is not below a magnitude is not rounded below it. -/
theorem le_roundToGap {num den units : Nat} (hden : 0 < den) (hunits : gap units ∣ units)
    (h : units * den ≤ num) : units ≤ roundToGap num den := by
  rw [← roundToGap_exact hden hunits]
  exact roundToGap_mono hden hden (Nat.mul_le_mul_right den h)

/-- A quotient and its rounding are not more than half a gap apart. -/
theorem roundToGap_near {den : Nat} (hden : 0 < den) (num : Nat) :
    2 * num ≤ 2 * (roundToGap num den * den) + den * gap (num / den) ∧
      2 * (roundToGap num den * den) ≤ 2 * num + den * gap (num / den) := by
  have hnear := divHalfEven_near (Nat.mul_pos hden (gap_pos (num / den))) num
  have hscale (q : Nat) : den * gap (num / den) * (2 * q) = 2 * (q * gap (num / den) * den) := by
    ring
  rw [Nat.mul_add, Nat.mul_one, hscale] at hnear
  exact hnear

/-- The gap at a number of units is one unit, or less than the number by 52 powers of two. -/
theorem gap_eq_one_or (units : Nat) : gap units = 1 ∨ power 2 52 * gap units ≤ units := by
  rcases Nat.lt_or_ge units.log2 52 with hlt | hge
  · left
    rw [gap, Nat.sub_eq_zero_of_le (Nat.le_of_lt hlt)]
  · right
    have hne : units ≠ 0 := by
      rintro rfl
      exact absurd hge (by decide)
    rw [gap, ← power_add, Nat.add_sub_cancel' hge]
    exact Nat.log2_self_le hne

/-- A quotient that is not above a power of two of units is rounded to a magnitude that is not. -/
theorem exists_ofRatio?_le {num den k : Nat} (hden : 0 < den) (hk : k < topExponent)
    (h : num ≤ power 2 k * den) :
    ∃ m, ofRatio? num den = some m ∧ m.units = roundToGap num den ∧ m.units ≤ power 2 k := by
  have hle : roundToGap num den ≤ power 2 k := roundToGap_le hden (gap_two_pow_dvd k) h
  have hlt : roundToGap num den < top :=
    Nat.lt_of_le_of_lt hle (Nat.pow_lt_pow_right (by decide) hk)
  exact ⟨_, dif_pos hlt, rfl, hle⟩

end Magnitude

end SwitchTrace
