import SwitchTrace.Proofs.Numeric.Nearest

/-!
# Arithmetic within range

Whole numbers, quotients by numbers of at least one, and products of numbers of bounded size are
finite and of bounded size again. A power of two is a magnitude, so that no rounding passes it.

## Main definitions

* `Binary64.IsWithin`, `Binary64.IsAtLeastOne` — finite numbers up to a power of two, and from one
  on.

## Main results

* `Binary64.exists_ofInt`, `Binary64.IsWithin.exists_div`, `Binary64.IsWithin.mul`,
  `Binary64.IsWithin.exists_round` — the operations on such numbers.
* `Binary64.exists_ofInt_exact` — whole numbers up to `2 ^ 53` are numbers of the format.
-/

namespace SwitchTrace.Binary64

open Magnitude (unitsPerOne)

/-- The number is finite and not greater than two to the power of `k`, its sign left aside. -/
def IsWithin (k : Nat) (x : Binary64) : Prop :=
  ∃ negative m, x = .finite negative m ∧ m.units ≤ power 2 k * unitsPerOne

/-- The number is finite and not less than one, its sign left aside. -/
def IsAtLeastOne (x : Binary64) : Prop :=
  ∃ negative m, x = .finite negative m ∧ unitsPerOne ≤ m.units

theorem power_mul_unitsPerOne (k : Nat) :
    power 2 k * unitsPerOne = power 2 (k + Magnitude.unitExponent) :=
  (power_add 2 k Magnitude.unitExponent).symm

theorem unitsPerOne_pos : 0 < unitsPerOne := Nat.two_pow_pos _

theorem isOne_iff_of_units? {x : Binary64} {s : Int} (hs : x.units? = some s) :
    x.isOne = true ↔ s = unitsPerOne := by
  rw [isOne, equalsInt, hs, beq_iff_eq, Option.some.injEq, Int.one_mul]

theorem add_unitExponent_lt {k : Nat} (hk : k < 1024) :
    k + Magnitude.unitExponent < Magnitude.topExponent := by
  have h : Magnitude.topExponent = 1024 + Magnitude.unitExponent := rfl
  omega

/-- A quotient that is not above a power of two is rounded to a magnitude that is not. -/
theorem exists_ofRatio?_le_power {num den k : Nat} (hden : 0 < den) (hk : k < 1024)
    (h : num ≤ power 2 k * unitsPerOne * den) :
    ∃ m, Magnitude.ofRatio? num den = some m ∧ m.units = Magnitude.roundToGap num den ∧
      m.units ≤ power 2 k * unitsPerOne := by
  rw [power_mul_unitsPerOne] at h ⊢
  exact Magnitude.exists_ofRatio?_le hden (add_unitExponent_lt hk) h

theorem isWithin_ofUnits {num den k : Nat} (negative : Bool) (hden : 0 < den) (hk : k < 1024)
    (h : num ≤ power 2 k * unitsPerOne * den) : IsWithin k (ofUnits negative num den) := by
  obtain ⟨m, hm, -, hle⟩ := exists_ofRatio?_le_power hden hk h
  exact ⟨negative, m, by rw [ofUnits, hm, saturated], hle⟩

/-- A whole number within range is a number within range. Unless it is zero, it stays at least
one. -/
theorem exists_ofInt {n : Int} {k : Nat} (hk : k < 1024) (hn : n.natAbs ≤ power 2 k) :
    ∃ x, ofInt n = .ok x ∧ IsWithin k x ∧ (n ≠ 0 → IsAtLeastOne x) := by
  have hbound : n.natAbs * unitsPerOne ≤ power 2 k * unitsPerOne * 1 := by
    rw [Nat.mul_one]
    exact Nat.mul_le_mul_right _ hn
  obtain ⟨m, hm, hround, hle⟩ := exists_ofRatio?_le_power Nat.one_pos hk hbound
  refine ⟨_, by rw [ofInt, hm, checked], ⟨_, m, rfl, hle⟩, fun hne => ⟨_, m, rfl, ?_⟩⟩
  rw [hround]
  refine Magnitude.le_roundToGap Nat.one_pos (Magnitude.gap_two_pow_dvd _) ?_
  rw [Nat.mul_one]
  exact Nat.le_mul_of_pos_left _ (Int.natAbs_pos.mpr hne)

/-- A whole number up to `2 ^ 53` is a magnitude: it has no more than the 53 leading bits. -/
theorem gap_dvd_mul_unitsPerOne {n : Nat} (hn : n ≤ power 2 53) :
    Magnitude.gap (n * unitsPerOne) ∣ n * unitsPerOne := by
  rcases Nat.lt_or_eq_of_le hn with hlt | rfl
  · have hbound : n * unitsPerOne < power 2 (Magnitude.unitExponent + 53) := by
      rw [Nat.add_comm, ← power_mul_unitsPerOne]
      exact Nat.mul_lt_mul_of_pos_right hlt unitsPerOne_pos
    exact Magnitude.gap_dvd_of_lt hbound (Nat.dvd_mul_left unitsPerOne n)
  · rw [power_mul_unitsPerOne]
    exact Magnitude.gap_two_pow_dvd _

/-- **A whole number up to `2 ^ 53` is a number of the format.** -/
theorem exists_ofInt_exact {n : Int} (hn : n.natAbs ≤ power 2 53) :
    ∃ m, ofInt n = .ok (.finite (decide (n < 0)) m) ∧ m.units = n.natAbs * unitsPerOne := by
  have hbound : n.natAbs * unitsPerOne ≤ power 2 53 * unitsPerOne * 1 := by
    rw [Nat.mul_one]
    exact Nat.mul_le_mul_right _ hn
  obtain ⟨m, hm, hround, -⟩ := exists_ofRatio?_le_power Nat.one_pos (by decide : 53 < 1024) hbound
  refine ⟨m, by rw [ofInt, hm, checked], ?_⟩
  have hexact := Magnitude.roundToGap_exact Nat.one_pos (gap_dvd_mul_unitsPerOne hn)
  rw [Nat.mul_one] at hexact
  rw [hround, hexact]

/-- Dividing by a number of at least one does not make a number greater. -/
theorem IsWithin.exists_div {x y : Binary64} {k : Nat} (hx : IsWithin k x) (hk : k < 1024)
    (hy : IsAtLeastOne y) : ∃ z, x.div y = .ok z ∧ IsWithin k z := by
  obtain ⟨_, m, rfl, hm⟩ := hx
  obtain ⟨_, n, rfl, hn⟩ := hy
  have hpos : 0 < n.units := Nat.lt_of_lt_of_le unitsPerOne_pos hn
  refine ⟨_, by rw [div, if_neg (Nat.ne_of_gt hpos)], isWithin_ofUnits _ hpos hk ?_⟩
  exact Nat.mul_le_mul hm hn

/-- The powers of two that bound two numbers bound their product together. -/
theorem IsWithin.mul {x y : Binary64} {j k : Nat} (hx : IsWithin j x) (hy : IsWithin k y)
    (hjk : j + k < 1024) : IsWithin (j + k) (x.mul y) := by
  obtain ⟨_, m, rfl, hm⟩ := hx
  obtain ⟨_, n, rfl, hn⟩ := hy
  refine isWithin_ofUnits _ unitsPerOne_pos hjk ?_
  calc m.units * n.units ≤ power 2 j * unitsPerOne * (power 2 k * unitsPerOne) :=
        Nat.mul_le_mul hm hn
    _ = power 2 (j + k) * unitsPerOne * unitsPerOne := by
        rw [power_add, Nat.mul_mul_mul_comm, Nat.mul_assoc (power 2 j * power 2 k)]

theorem natAbs_signed (negative : Bool) (n : Nat) : (signed negative n).natAbs = n := by
  cases negative <;> simp [signed]

/-- A finite number has a nearest whole number, within the same bound. -/
theorem IsWithin.exists_round {x : Binary64} {k : Nat} (hx : IsWithin k x) :
    ∃ n, x.round = .ok n ∧ n.natAbs ≤ power 2 k := by
  obtain ⟨negative, m, rfl, hm⟩ := hx
  have hwhole : divHalfEven (power 2 k * unitsPerOne) unitsPerOne = power 2 k := by
    rw [Nat.mul_comm, divHalfEven_mul_left unitsPerOne_pos]
  refine ⟨_, rfl, ?_⟩
  rw [natAbs_signed]
  calc divHalfEven m.units unitsPerOne
      ≤ divHalfEven (power 2 k * unitsPerOne) unitsPerOne :=
        divHalfEven_mono unitsPerOne_pos unitsPerOne_pos (Nat.mul_le_mul_right _ hm)
    _ = power 2 k := hwhole

theorem IsWithin.isFinite {x : Binary64} {k : Nat} (hx : IsWithin k x) : x.isFinite = true := by
  obtain ⟨_, _, rfl, -⟩ := hx
  rfl

end SwitchTrace.Binary64
