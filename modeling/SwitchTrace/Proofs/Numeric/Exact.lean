import Mathlib.Algebra.Order.Field.Basic
import Mathlib.Algebra.Order.Field.Rat
import Mathlib.Data.Int.ConditionallyCompleteOrder
import Mathlib.Data.Rat.Lemmas
import Mathlib.Tactic.Linarith
import Mathlib.Tactic.Positivity
import SwitchTrace.Proofs.Numeric.Range

/-!
# Results are exact ones, rounded

The value of a finite number is a whole number of units. The product or the quotient of two values
is a rational number of units, and what an operation gives is this number, rounded once. Rounding
is defined on sizes, which are quotients of natural numbers; a rational number is rounded by its
size and keeps its sign. Rounding so extended keeps the order of all rational numbers, and
statements on numbers of either sign need no cases for their signs.

## Main definitions

* `IsRounding`, `signedRound` — a rounding of quotients, and what it makes of a rational number.
* `nearestWhole`, `nearestUnits` — the nearest whole number, and the nearest value of the format.
* `roundoff` — the greatest relative error of the format.
* `IsRepresentable` — numbers of units that are values of the format.

## Main results

* `IsRounding.monotone` — rounding keeps the order of rational numbers.
* `abs_nearestWhole_sub_le`, `abs_nearestUnits_sub_le` — how far it leads away.
* `IsRepresentable.nearestUnits_eq` — it leaves representable numbers as they are.
* `Binary64.units?_ofInt`, `Binary64.units?_mul`, `Binary64.units?_div`,
  `Binary64.round_eq_ok_iff` — the operations on exact values.
-/

namespace SwitchTrace

open Magnitude (unitsPerOne)
open Binary64 (signed)

/-! ### Rounding rational numbers -/

/-- Quotients of natural numbers are rounded in their order, so that it does not matter how a
quotient is written, and nothing stays nothing. -/
structure IsRounding (f : Nat → Nat → Nat) : Prop where
  mono {a b c d : Nat} : 0 < b → 0 < d → a * d ≤ c * b → f a b ≤ f c d
  zero (b : Nat) : f 0 b = 0

theorem isRounding_divHalfEven : IsRounding divHalfEven where
  mono := divHalfEven_mono
  zero b := by simp [divHalfEven]

theorem isRounding_roundToGap : IsRounding Magnitude.roundToGap where
  mono := Magnitude.roundToGap_mono
  zero b := by rw [Magnitude.roundToGap, isRounding_divHalfEven.zero, Nat.zero_mul]

/-- A rational number rounded: its rounded size with its sign. -/
def signedRound (f : Nat → Nat → Nat) (q : ℚ) : Int :=
  signed (decide (q < 0)) (f q.num.natAbs q.den)

/-- The size of a rational number is a quotient of natural numbers. -/
theorem abs_eq_natAbs_div (q : ℚ) : |q| = q.num.natAbs / q.den := by
  conv_lhs => rw [← Rat.num_div_den q]
  rw [abs_div, Nat.abs_cast, Nat.cast_natAbs, Int.cast_abs]

namespace IsRounding

variable {f : Nat → Nat → Nat} (hf : IsRounding f)
include hf

theorem apply_mono {p q : ℚ} {a b c d : Nat} (hp : p = a / b) (hq : q = c / d) (hb : 0 < b)
    (hd : 0 < d) (h : p ≤ q) : f a b ≤ f c d := by
  refine hf.mono hb hd ?_
  rw [hp, hq, div_le_div_iff₀ (by exact_mod_cast hb) (by exact_mod_cast hd)] at h
  exact_mod_cast h

/-- It does not matter how the size of a rational number is written. -/
theorem apply_natAbs_den {q : ℚ} {a b : Nat} (hb : 0 < b) (h : |q| = a / b) :
    f q.num.natAbs q.den = f a b :=
  le_antisymm (hf.apply_mono (abs_eq_natAbs_div q) h q.den_pos hb le_rfl)
    (hf.apply_mono h (abs_eq_natAbs_div q) hb q.den_pos le_rfl)

theorem signedRound_neg (q : ℚ) : signedRound f (-q) = -signedRound f q := by
  unfold signedRound
  rw [Rat.neg_num, Rat.neg_den, Int.natAbs_neg]
  rcases lt_trichotomy q 0 with h | rfl | h
  · simp [signed, h, not_lt.mpr h.le]
  · simp [signed, hf.zero]
  · simp [signed, h, not_lt.mpr h.le]

omit hf in
theorem signedRound_of_nonneg {q : ℚ} (h : 0 ≤ q) : signedRound f q = f q.num.natAbs q.den := by
  rw [signedRound, decide_eq_false (not_lt.mpr h)]
  rfl

theorem signedRound_natCast_div (a : Nat) {b : Nat} (hb : 0 < b) :
    signedRound f (a / b) = f a b := by
  have hq : (0 : ℚ) ≤ a / b := by positivity
  rw [signedRound_of_nonneg hq, hf.apply_natAbs_den hb (abs_of_nonneg hq)]

theorem signedRound_signed_div (negative : Bool) (a : Nat) {b : Nat} (hb : 0 < b) :
    signedRound f ((signed negative a : ℚ) / b) = signed negative (f a b) := by
  cases negative with
  | false => exact hf.signedRound_natCast_div a hb
  | true =>
    have h := hf.signedRound_natCast_div a hb
    simp only [signed, ↓reduceIte, Int.cast_neg, Int.cast_natCast, neg_div]
    rw [hf.signedRound_neg, h]

omit hf in
theorem signedRound_nonneg {q : ℚ} (h : 0 ≤ q) : 0 ≤ signedRound f q := by
  rw [signedRound_of_nonneg h]
  exact Int.natCast_nonneg _

/-- **Rounding keeps the order of rational numbers.** -/
theorem monotone : Monotone (signedRound f) := by
  intro p q h
  have hnonneg {p q : ℚ} (hp : 0 ≤ p) (h : p ≤ q) : signedRound f p ≤ signedRound f q := by
    have hq := hp.trans h
    rw [signedRound_of_nonneg hp, signedRound_of_nonneg hq, Int.ofNat_le]
    refine hf.apply_mono ?_ ?_ p.den_pos q.den_pos h
    · rw [← abs_eq_natAbs_div, abs_of_nonneg hp]
    · rw [← abs_eq_natAbs_div, abs_of_nonneg hq]
  rcases le_total 0 p with hp | hp
  · exact hnonneg hp h
  · rcases le_total 0 q with hq | hq
    · have hneg := signedRound_nonneg (f := f) (neg_nonneg.mpr hp)
      have hpos := signedRound_nonneg (f := f) hq
      rw [hf.signedRound_neg] at hneg
      omega
    · have hle := hnonneg (neg_nonneg.mpr hq) (neg_le_neg h)
      rw [hf.signedRound_neg, hf.signedRound_neg] at hle
      omega

/-- A rational number is as far from its rounding as its size is. -/
theorem abs_signedRound_sub_le {q c : ℚ}
    (h : |(f q.num.natAbs q.den : ℚ) * q.den - q.num.natAbs| ≤ c * q.den) :
    |(signedRound f q : ℚ) - q| ≤ c := by
  have hden : (0 : ℚ) < q.den := by exact_mod_cast q.den_pos
  have hsize : |(signedRound f q : ℚ) - q| = abs ((f q.num.natAbs q.den : ℚ) - |q|) := by
    rcases le_total 0 q with hq | hq
    · rw [signedRound_of_nonneg hq, abs_of_nonneg hq, Int.cast_natCast]
    · have hround := signedRound_of_nonneg (f := f) (neg_nonneg.mpr hq)
      rw [hf.signedRound_neg, Rat.neg_num, Rat.neg_den, Int.natAbs_neg] at hround
      rw [abs_of_nonpos hq, ← Int.cast_natCast, ← hround, ← abs_neg]
      push_cast
      ring_nf
  refine le_of_mul_le_mul_right ?_ hden
  rw [hsize, ← abs_of_pos hden, ← abs_mul, sub_mul, abs_eq_natAbs_div q, abs_of_pos hden,
    div_mul_cancel₀ _ hden.ne']
  exact h

end IsRounding

/-! ### The two roundings -/

/-- The whole number nearest to a rational number, ties to even. -/
def nearestWhole (q : ℚ) : Int := signedRound divHalfEven q

/-- The value of the format nearest to a rational number of units, ties to even. -/
def nearestUnits (q : ℚ) : Int := signedRound Magnitude.roundToGap q

theorem nearestWhole_mono : Monotone nearestWhole := isRounding_divHalfEven.monotone

theorem nearestUnits_mono : Monotone nearestUnits := isRounding_roundToGap.monotone

theorem nearestUnits_nonneg {q : ℚ} (h : 0 ≤ q) : 0 ≤ nearestUnits q :=
  IsRounding.signedRound_nonneg h

theorem nearestUnits_neg (q : ℚ) : nearestUnits (-q) = -nearestUnits q :=
  isRounding_roundToGap.signedRound_neg q

theorem nearestUnits_nonpos {q : ℚ} (h : q ≤ 0) : nearestUnits q ≤ 0 := by
  have hneg := nearestUnits_nonneg (neg_nonneg.mpr h)
  rw [nearestUnits_neg] at hneg
  omega

theorem abs_nearestUnits (q : ℚ) : |nearestUnits q| = nearestUnits |q| := by
  rcases le_total 0 q with h | h
  · rw [abs_of_nonneg h, abs_of_nonneg (nearestUnits_nonneg h)]
  · rw [abs_of_nonpos h, abs_of_nonpos (nearestUnits_nonpos h), nearestUnits_neg]

/-! ### Errors -/

/-- A rational number is rounded to a whole number at most one half away. -/
theorem abs_nearestWhole_sub_le (q : ℚ) : |(nearestWhole q : ℚ) - q| ≤ 1 / 2 := by
  obtain ⟨hlow, hhigh⟩ := divHalfEven_near q.den_pos q.num.natAbs
  refine isRounding_divHalfEven.abs_signedRound_sub_le (abs_le.mpr ?_)
  generalize divHalfEven q.num.natAbs q.den = n at hlow hhigh ⊢
  have hlow' : (2 * q.num.natAbs : ℚ) ≤ q.den * (2 * n + 1) := by exact_mod_cast hlow
  have hhigh' : (q.den * (2 * n) : ℚ) ≤ 2 * q.num.natAbs + q.den := by exact_mod_cast hhigh
  constructor <;> linarith

/-- Half of the gap at a number, relative to the number, is at most this. -/
def roundoff : ℚ := 1 / (power 2 53 : Nat)

theorem roundoff_nonneg : 0 ≤ roundoff := by
  rw [roundoff]
  positivity

theorem roundoff_mul_power : roundoff * (power 2 52 : Nat) = 1 / 2 := by
  norm_num [roundoff]

/-- A number of units is rounded by half a gap at most. -/
theorem abs_nearestUnits_sub_le_gap (q : ℚ) :
    |(nearestUnits q : ℚ) - q| ≤ Magnitude.gap (q.num.natAbs / q.den) / 2 := by
  obtain ⟨hlow, hhigh⟩ := Magnitude.roundToGap_near q.den_pos q.num.natAbs
  refine isRounding_roundToGap.abs_signedRound_sub_le (abs_le.mpr ?_)
  generalize Magnitude.gap (q.num.natAbs / q.den) = g at hlow hhigh ⊢
  generalize Magnitude.roundToGap q.num.natAbs q.den = n at hlow hhigh ⊢
  have hlow' : (2 * q.num.natAbs : ℚ) ≤ 2 * (n * q.den) + q.den * g := by exact_mod_cast hlow
  have hhigh' : (2 * (n * q.den) : ℚ) ≤ 2 * q.num.natAbs + q.den * g := by exact_mod_cast hhigh
  constructor <;> linarith

/-- Half a gap is half a unit, or small against the number. -/
theorem abs_nearestUnits_sub_le_max (q : ℚ) :
    |(nearestUnits q : ℚ) - q| ≤ max (1 / 2) (roundoff * |q|) := by
  refine (abs_nearestUnits_sub_le_gap q).trans ?_
  rcases Magnitude.gap_eq_one_or (q.num.natAbs / q.den) with hgap | hgap
  · rw [hgap, Nat.cast_one]
    exact le_max_left _ _
  · refine le_max_of_le_right ?_
    have hden : (0 : ℚ) < q.den := by exact_mod_cast q.den_pos
    have hroundoff := roundoff_nonneg
    rw [Nat.le_div_iff_mul_le q.den_pos] at hgap
    generalize Magnitude.gap (q.num.natAbs / q.den) = g at hgap ⊢
    have hsize : ((power 2 52 : Nat) : ℚ) * g ≤ |q| := by
      rw [abs_eq_natAbs_div, le_div_iff₀ hden]
      exact_mod_cast hgap
    calc (g : ℚ) / 2 = roundoff * ((power 2 52 : Nat) * g) := by
          rw [← mul_assoc, roundoff_mul_power]
          ring
      _ ≤ roundoff * |q| := by gcongr

/-- **A number of `2 ^ 52` units and more is rounded with a small relative error.** -/
theorem abs_nearestUnits_sub_le {q : ℚ} (h : (power 2 52 : Nat) ≤ |q|) :
    |(nearestUnits q : ℚ) - q| ≤ roundoff * |q| := by
  have hroundoff := roundoff_nonneg
  refine (abs_nearestUnits_sub_le_max q).trans (max_le ?_ le_rfl)
  rw [← roundoff_mul_power]
  gcongr

/-! ### Representable numbers -/

theorem Binary64.signed_natAbs (n : Int) : signed (decide (n < 0)) n.natAbs = n := by
  unfold signed
  split
  · next h =>
    have := of_decide_eq_true h
    omega
  · next h =>
    have := of_decide_eq_false (eq_false_of_ne_true h)
    omega

theorem Binary64.signed_mul (negative : Bool) (m n : Nat) :
    signed negative (m * n) = signed negative m * n := by
  cases negative <;> simp [signed]

/-- The size of a whole number of units is a multiple of the gap there. -/
def IsRepresentable (u : Int) : Prop := Magnitude.gap u.natAbs ∣ u.natAbs

theorem isRepresentable_zero : IsRepresentable 0 := Nat.dvd_zero _

theorem isRepresentable_unitsPerOne : IsRepresentable unitsPerOne :=
  Magnitude.gap_two_pow_dvd Magnitude.unitExponent

/-- A number with no more than the 53 leading bits is representable. -/
theorem isRepresentable_mul_power {k : Int} (hk : k.natAbs < power 2 53) (e : Nat) :
    IsRepresentable (k * (power 2 e : Nat)) := by
  have hlt : k.natAbs * power 2 e < power 2 (e + 53) := by
    rw [power_add, Nat.mul_comm (power 2 e)]
    exact Nat.mul_lt_mul_of_pos_right hk (Nat.two_pow_pos e)
  rw [IsRepresentable, Int.natAbs_mul, Int.natAbs_natCast]
  exact Magnitude.gap_dvd_of_lt hlt (Nat.dvd_mul_left _ _)

/-- Whole numbers up to `2 ^ 53` are representable. -/
theorem isRepresentable_mul_unitsPerOne {n : Int} (hn : n.natAbs ≤ power 2 53) :
    IsRepresentable (n * unitsPerOne) := by
  rw [IsRepresentable, Int.natAbs_mul, Int.natAbs_natCast]
  exact Binary64.gap_dvd_mul_unitsPerOne hn

/-- **A representable number is its own rounding.** -/
theorem IsRepresentable.nearestUnits_eq {u : Int} (h : IsRepresentable u) :
    nearestUnits u = u := by
  have hexact := Magnitude.roundToGap_exact Nat.one_pos h
  have hround := isRounding_roundToGap.signedRound_signed_div (decide (u < 0)) u.natAbs Nat.one_pos
  rw [Nat.mul_one] at hexact
  rwa [hexact, Binary64.signed_natAbs, Nat.cast_one, div_one] at hround

/-- Rounding ends on a representable number. -/
theorem isRepresentable_nearestUnits (q : ℚ) : IsRepresentable (nearestUnits q) := by
  rw [IsRepresentable, nearestUnits, signedRound, Binary64.natAbs_signed]
  exact Magnitude.gap_dvd_roundToGap q.num.natAbs q.den

/-- The representable numbers are those that rounding leaves as they are. -/
theorem nearestUnits_eq_self_iff {u : Int} : nearestUnits u = u ↔ IsRepresentable u :=
  ⟨fun h => h ▸ isRepresentable_nearestUnits u, IsRepresentable.nearestUnits_eq⟩

/-- What is not below a representable number is not rounded below it. -/
theorem IsRepresentable.le_nearestUnits {u : Int} {q : ℚ} (h : IsRepresentable u)
    (hq : u ≤ q) : u ≤ nearestUnits q := by
  rw [← h.nearestUnits_eq]
  exact nearestUnits_mono hq

/-- What is not above a representable number is not rounded above it. -/
theorem IsRepresentable.nearestUnits_le {u : Int} {q : ℚ} (h : IsRepresentable u)
    (hq : q ≤ u) : nearestUnits q ≤ u := by
  rw [← h.nearestUnits_eq]
  exact nearestUnits_mono hq

/-! ### Exact values -/

theorem Magnitude.ofRatio?_zero (den : Nat) : ofRatio? 0 den = some .zero := by
  have hround : roundToGap 0 den = 0 := isRounding_roundToGap.zero den
  rw [ofRatio?, dif_pos (hround.symm ▸ top_pos)]
  simp only [hround, zero]

namespace Binary64

theorem unitsPerOne_pos_rat : (0 : ℚ) < unitsPerOne := by exact_mod_cast unitsPerOne_pos

theorem units?_finite (negative : Bool) (m : Magnitude) :
    (finite negative m).units? = some (signed negative m.units) := by
  cases negative <;> rfl

theorem units?_eq_some_iff {x : Binary64} {u : Int} :
    x.units? = some u ↔ ∃ negative m, x = finite negative m ∧ u = signed negative m.units := by
  constructor
  · intro h
    cases x with
    | finite negative m =>
      rw [units?_finite] at h
      exact ⟨negative, m, rfl, (Option.some.inj h).symm⟩
    | _ => cases h
  · rintro ⟨negative, m, rfl, rfl⟩
    exact units?_finite negative m

theorem signed_mul_signed (a b : Bool) (m n : Nat) :
    signed a m * signed b n = signed (a != b) (m * n) := by
  cases a <;> cases b <;> simp [signed]

theorem signed_mul_div_signed (a b : Bool) (m n k : Nat) :
    (signed a m * k : ℚ) / signed b n = (signed (a != b) (m * k) : ℚ) / n := by
  cases a <;> cases b <;> simp [signed, neg_div, div_neg]

/-- What is rounded to a finite number is its value, rounded. -/
theorem eq_nearestUnits_of_ofUnits {negative : Bool} {num den : Nat} (hden : 0 < den) {w : Int}
    (h : (ofUnits negative num den).units? = some w) :
    w = nearestUnits ((signed negative num : ℚ) / den) := by
  unfold ofUnits Magnitude.ofRatio? at h
  split at h
  · rw [saturated, units?_finite, Option.some.injEq] at h
    rw [← h, nearestUnits, isRounding_roundToGap.signedRound_signed_div _ _ hden]
  · cases h

theorem ofUnits_zero (negative : Bool) (den : Nat) : ofUnits negative 0 den = zero negative := by
  rw [ofUnits, Magnitude.ofRatio?_zero, saturated, zero]

/-- The size of a whole number is rounded. -/
theorem nearestUnits_whole (n : Int) : nearestUnits (n * unitsPerOne) =
    signed (decide (n < 0)) (Magnitude.roundToGap (n.natAbs * unitsPerOne) 1) := by
  have hround := isRounding_roundToGap.signedRound_signed_div (decide (n < 0))
    (n.natAbs * unitsPerOne) Nat.one_pos
  rwa [signed_mul, signed_natAbs, Nat.cast_one, div_one, Int.cast_mul, Int.cast_natCast] at hround

/-- A whole number, rounded. -/
theorem units?_ofInt {n : Int} {x : Binary64} (h : ofInt n = .ok x) :
    x.units? = some (nearestUnits (n * unitsPerOne)) := by
  unfold ofInt Magnitude.ofRatio? at h
  split at h
  · obtain rfl := Except.ok.inj h
    rw [units?_finite, nearestUnits_whole]
  · cases h

/-- A product, rounded. -/
theorem units?_mul {x y : Binary64} {u v w : Int} (hx : x.units? = some u) (hy : y.units? = some v)
    (h : (x.mul y).units? = some w) : w = nearestUnits (u * v / unitsPerOne) := by
  obtain ⟨a, m, rfl, rfl⟩ := units?_eq_some_iff.mp hx
  obtain ⟨b, n, rfl, rfl⟩ := units?_eq_some_iff.mp hy
  rw [eq_nearestUnits_of_ofUnits unitsPerOne_pos h, ← signed_mul_signed, Int.cast_mul]

/-- A quotient, rounded. -/
theorem units?_div {x y z : Binary64} {u v w : Int} (hx : x.units? = some u)
    (hy : y.units? = some v) (h : x.div y = .ok z) (hz : z.units? = some w) :
    w = nearestUnits (u * unitsPerOne / v) := by
  obtain ⟨a, m, rfl, rfl⟩ := units?_eq_some_iff.mp hx
  obtain ⟨b, n, rfl, rfl⟩ := units?_eq_some_iff.mp hy
  rw [div] at h
  split at h
  · cases h
  · next hn =>
    obtain rfl := Except.ok.inj h
    rw [eq_nearestUnits_of_ofUnits (Nat.pos_of_ne_zero hn) hz, signed_mul_div_signed]

/-- **Dividing by a number of at least one stays within the format.** -/
theorem exists_units?_div {x y : Binary64} {u v : Int} (hx : x.units? = some u)
    (hy : y.units? = some v) (hv : unitsPerOne ≤ |v|) :
    ∃ z, x.div y = .ok z ∧ z.units? = some (nearestUnits (u * unitsPerOne / v)) := by
  obtain ⟨a, m, rfl, rfl⟩ := units?_eq_some_iff.mp hx
  obtain ⟨b, n, rfl, rfl⟩ := units?_eq_some_iff.mp hy
  rw [Int.abs_eq_natAbs, natAbs_signed, Int.ofNat_le] at hv
  have hn : 0 < n.units := Nat.lt_of_lt_of_le unitsPerOne_pos hv
  have hle : Magnitude.roundToGap (m.units * unitsPerOne) n.units ≤ m.units :=
    Magnitude.roundToGap_le hn m.gap_dvd (Nat.mul_le_mul_left m.units hv)
  have hfits : Magnitude.roundToGap (m.units * unitsPerOne) n.units < Magnitude.top :=
    Nat.lt_of_le_of_lt hle m.lt_top
  have hdiv : (finite a m).div (finite b n) =
      .ok (finite (a != b) ⟨_, hfits, Magnitude.gap_dvd_roundToGap _ _⟩) := by
    rw [div, if_neg (Nat.ne_of_gt hn), ofUnits, Magnitude.ofRatio?, dif_pos hfits, saturated]
  exact ⟨_, hdiv, by rw [units?_finite, ← units?_div hx hy hdiv (units?_finite _ _)]⟩

/-- The nearest whole number. -/
theorem round_eq_ok_iff {x : Binary64} {n : Int} :
    x.round = .ok n ↔ ∃ u, x.units? = some u ∧ n = nearestWhole (u / unitsPerOne) := by
  cases x with
  | finite negative m =>
    rw [round, units?_finite, Except.ok.injEq]
    simp only [Option.some.injEq, exists_eq_left', nearestWhole,
      isRounding_divHalfEven.signedRound_signed_div negative m.units unitsPerOne_pos]
    exact eq_comm
  | nan => exact iff_of_false nofun nofun
  | infinity negative => exact iff_of_false nofun nofun

end Binary64

end SwitchTrace
