/-!
# Rounding to the nearest, ties to even

## Main definitions

* `divHalfEven` — the whole number nearest to a quotient, the even one of two equally near.

## Main results

* `divHalfEven_le` and `le_divHalfEven` — the answer is one of the two neighbours.
* `divHalfEven_mul_left` — a quotient that is whole is its own rounding.
-/

namespace SwitchTrace

/-- The whole number nearest to `num / den`; of two equally near, the even one. -/
def divHalfEven (num den : Nat) : Nat :=
  let q := num / den
  let r := num % den
  if 2 * r < den then q
  else if den < 2 * r then q + 1
  else if q % 2 = 0 then q else q + 1

theorem le_divHalfEven (num den : Nat) : num / den ≤ divHalfEven num den := by
  simp only [divHalfEven]
  split
  · exact Nat.le_refl _
  · split
    · omega
    · split <;> omega

theorem divHalfEven_le (num den : Nat) : divHalfEven num den ≤ num / den + 1 := by
  simp only [divHalfEven]
  split
  · omega
  · split
    · omega
    · split <;> omega

theorem divHalfEven_mul_left {den : Nat} (hden : 0 < den) (q : Nat) :
    divHalfEven (den * q) den = q := by
  simp [divHalfEven, Nat.mul_div_cancel_left q hden, hden]

/-- Twice the distance from a quotient to its rounding is at most one. -/
theorem divHalfEven_near {den : Nat} (hden : 0 < den) (num : Nat) :
    2 * num ≤ den * (2 * divHalfEven num den + 1) ∧
      den * (2 * divHalfEven num den) ≤ 2 * num + den := by
  have hq := Nat.div_add_mod num den
  have hr := Nat.mod_lt num hden
  simp only [divHalfEven]
  have expand (q : Nat) : den * (2 * q) = 2 * (den * q) := by
    rw [← Nat.mul_assoc, Nat.mul_comm den 2, Nat.mul_assoc]
  have step (q : Nat) : den * (2 * q + 1) = 2 * (den * q) + den := by
    rw [Nat.mul_add, expand, Nat.mul_one]
  have next (q : Nat) : den * (q + 1) = den * q + den := by rw [Nat.mul_add, Nat.mul_one]
  split
  · rw [step, expand]; omega
  · split
    · rw [step, expand, next]; omega
    · split
      · rw [step, expand]; omega
      · rw [step, expand, next]; omega

end SwitchTrace
