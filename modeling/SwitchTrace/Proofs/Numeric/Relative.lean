import Mathlib.Tactic.FieldSimp
import SwitchTrace.Proofs.Numeric.Exact

/-!
# Relative errors

A chain of rounded operations is off by a factor. That a number is near to another one up to a
factor passes on to products and, with another factor, to reciprocals, and two such steps one after
the other multiply their factors. Rounding is a step of its own, up to the factor `1 + roundoff`,
for zero and for all numbers from `2 ^ 52` units on. That the numbers of a chain are such numbers
follows from bounds on their sizes, which pass on to products, quotients and roundings.

## Main definitions

* `IsNear` — a number is near to another one, up to a factor.
* `IsSizable` — a number is zero, or not smaller than a bound.

## Main results

* `IsNear.trans`, `IsNear.mul`, `IsNear.inv` — how factors come together.
* `IsSizable.mul`, `IsSizable.div`, `IsSizable.nearestUnits` — sizes of results.
* `IsSizable.isNear_nearestUnits` — rounding is near.
-/

namespace SwitchTrace

/-- The distance of `x` from `y` is at most that of `c * y`. -/
structure IsNear (c x y : ℚ) : Prop where
  one_le : 1 ≤ c
  near : |x - y| ≤ (c - 1) * |y|

namespace IsNear

variable {c d x y z x' y' : ℚ}

theorem refl (x : ℚ) : IsNear 1 x x := ⟨le_rfl, by rw [sub_self, abs_zero, sub_self, zero_mul]⟩

theorem abs_le_mul (h : IsNear c x y) : |x| ≤ c * |y| := by
  have htriangle := abs_sub_abs_le_abs_sub x y
  have hnear := h.near
  linarith

theorem mul_le_abs (h : IsNear c x y) : (2 - c) * |y| ≤ |x| := by
  have htriangle := abs_sub_abs_le_abs_sub y x
  have hnear := h.near
  rw [abs_sub_comm] at htriangle
  linarith

theorem mono (h : IsNear c x y) (hcd : c ≤ d) : IsNear d x y where
  one_le := h.one_le.trans hcd
  near := by
    refine h.near.trans ?_
    gcongr

theorem one_le_mul (hc : 1 ≤ c) (hd : 1 ≤ d) : 1 ≤ c * d :=
  hc.trans (le_mul_of_one_le_right (zero_le_one.trans hc) hd)

/-- **Two steps multiply their factors.** -/
theorem trans (h : IsNear c x y) (h' : IsNear d y z) : IsNear (c * d) x z where
  one_le := one_le_mul h.one_le h'.one_le
  near := by
    have hc : 0 ≤ c - 1 := sub_nonneg.mpr h.one_le
    calc |x - z| ≤ |x - y| + |y - z| := abs_sub_le x y z
      _ ≤ (c - 1) * (d * |z|) + (d - 1) * |z| := by
          gcongr
          · exact h.near.trans (mul_le_mul_of_nonneg_left h'.abs_le_mul hc)
          · exact h'.near
      _ = (c * d - 1) * |z| := by ring

/-- **So do the two sides of a product.** -/
theorem mul (h : IsNear c x y) (h' : IsNear d x' y') : IsNear (c * d) (x * x') (y * y') where
  one_le := one_le_mul h.one_le h'.one_le
  near := by
    have hsplit : x * x' - y * y' = x * (x' - y') + (x - y) * y' := by ring
    calc |x * x' - y * y'| ≤ |x| * |x' - y'| + |x - y| * |y'| := by
          rw [hsplit, ← abs_mul, ← abs_mul]
          exact abs_add_le _ _
      _ ≤ c * |y| * ((d - 1) * |y'|) + (c - 1) * |y| * |y'| := by
          have hd : 0 ≤ d - 1 := sub_nonneg.mpr h'.one_le
          have hc : 0 ≤ c := zero_le_one.trans h.one_le
          gcongr
          · exact h.abs_le_mul
          · exact h'.near
          · exact h.near
      _ = (c * d - 1) * |y * y'| := by rw [abs_mul]; ring

theorem mul_right (h : IsNear c x y) (k : ℚ) : IsNear c (x * k) (y * k) := by
  have hmul := h.mul (refl k)
  rwa [mul_one] at hmul

/-- **The reciprocals of near numbers are near**, up to a factor that is a little greater. -/
theorem inv (h : IsNear c x y) (hc : c < 2) : IsNear (2 - c)⁻¹ x⁻¹ y⁻¹ := by
  have hpos : 0 < 2 - c := sub_pos.mpr hc
  have hone := h.one_le
  refine ⟨(one_le_inv₀ hpos).mpr (by linarith), ?_⟩
  rcases eq_or_ne y 0 with rfl | hy
  · have hx := h.abs_le_mul
    rw [abs_zero, mul_zero] at hx
    rw [abs_nonpos_iff.mp hx, inv_zero, sub_zero, abs_zero, mul_zero]
  · have hy' : 0 < |y| := abs_pos.mpr hy
    have hx' : 0 < |x| := (mul_pos hpos hy').trans_le h.mul_le_abs
    have hdistance : |x⁻¹ - y⁻¹| = |x - y| / (|x| * |y|) := by
      rw [inv_sub_inv (abs_pos.mp hx') hy, abs_div, abs_mul, abs_sub_comm]
    rw [hdistance, abs_inv]
    calc |x - y| / (|x| * |y|) ≤ (c - 1) * |y| / ((2 - c) * |y| * |y|) := by
          gcongr
          · exact h.near
          · exact h.mul_le_abs
      _ = ((2 - c)⁻¹ - 1) * |y|⁻¹ := by
          field_simp
          ring

theorem div (h : IsNear c x y) (h' : IsNear d x' y') (hd : d < 2) :
    IsNear (c * (2 - d)⁻¹) (x / x') (y / y') := by
  rw [div_eq_mul_inv, div_eq_mul_inv]
  exact h.mul (h'.inv hd)

end IsNear

/-! ### Sizes -/

/-- The number is zero, or not smaller than `b`. -/
def IsSizable (b q : ℚ) : Prop := q = 0 ∨ b ≤ |q|

namespace IsSizable

variable {a b p q : ℚ}

theorem mono (h : IsSizable b q) (hab : a ≤ b) : IsSizable a q := h.imp_right hab.trans

theorem mul (hp : IsSizable a p) (hq : IsSizable b q) (hb : 0 ≤ b) : IsSizable (a * b) (p * q) := by
  rcases hp with rfl | hp
  · exact .inl (zero_mul q)
  · rcases hq with rfl | hq
    · exact .inl (mul_zero p)
    · refine .inr ?_
      rw [abs_mul]
      exact mul_le_mul hp hq hb (abs_nonneg p)

/-- A quotient by a number that is not greater than `b`. -/
theorem div (hp : IsSizable a p) (ha : 0 ≤ a) (hq : |q| ≤ b) : IsSizable (a / b) (p / q) := by
  rcases hp with rfl | hp
  · exact .inl (zero_div q)
  · rcases eq_or_ne q 0 with rfl | hq'
    · exact .inl (div_zero p)
    · refine .inr ?_
      rw [abs_div]
      exact div_le_div₀ (ha.trans hp) hp (abs_pos.mpr hq') hq

/-- A whole number is zero, or not smaller than one. -/
theorem intCast (n : Int) : IsSizable 1 n := by
  rcases eq_or_ne n 0 with rfl | hn
  · exact .inl Int.cast_zero
  · refine .inr ?_
    exact_mod_cast Int.one_le_abs hn

end IsSizable

/-! ### Rounding -/

theorem nearestUnits_zero : nearestUnits 0 = 0 := by
  exact_mod_cast isRepresentable_zero.nearestUnits_eq

/-- **Rounding is near** for all numbers but the least ones. -/
theorem IsSizable.isNear_nearestUnits {q : ℚ} (h : IsSizable (power 2 52 : Nat) q) :
    IsNear (1 + roundoff) (nearestUnits q) q where
  one_le := le_add_of_nonneg_right roundoff_nonneg
  near := by
    rw [add_sub_cancel_left]
    rcases h with rfl | h
    · rw [nearestUnits_zero, Int.cast_zero, sub_self, abs_zero, mul_zero]
    · exact abs_nearestUnits_sub_le h

/-- Rounding does not fall below a representable number. -/
theorem IsSizable.nearestUnits {u : Int} {q : ℚ} (h : IsSizable u q) (hu : IsRepresentable u) :
    IsSizable u (nearestUnits q) := by
  rcases h with rfl | h
  · exact .inl (by rw [nearestUnits_zero, Int.cast_zero])
  · refine .inr ?_
    have hle := hu.le_nearestUnits h
    rw [← abs_nearestUnits] at hle
    exact_mod_cast hle

theorem abs_nearestUnits_le {u : Int} (hu : IsRepresentable u) {q : ℚ} (h : |q| ≤ u) :
    |(nearestUnits q : ℚ)| ≤ u := by
  have hle := hu.nearestUnits_le h
  rw [← abs_nearestUnits] at hle
  exact_mod_cast hle

end SwitchTrace
