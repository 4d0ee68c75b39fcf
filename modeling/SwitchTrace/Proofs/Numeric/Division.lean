import SwitchTrace.Proofs.Numeric.Exact
import SwitchTrace.Proofs.Numeric.Overflow
import SwitchTrace.Proofs.Steps

/-!
# Whole numbers divided by positive numbers

A whole number is divided in one of two ways. By a whole number the exact quotient is rounded once.
By a number of the format the dividend is rounded first, and the quotient of two values is rounded
again. Each rounding keeps the order, and so does a quotient beyond the format, which is an infinity
in the second way and a fault in the first. While dividend and divisor are values of the format the
first rounding changes nothing, and the two ways are one.

## Main definitions

* `Binary64.IsNonnegative`, `Number.IsPositive` — signs.
* `Binary64.rank?`, `Binary64.AtMost` — the order of the numbers of the format, infinities included.
* `Number.quotientRank` — where the quotient of a whole number lies.
* `Number.Divides` — a whole number has a quotient.

## Main results

* `Number.isNonnegative_divide` — division keeps the sign.
* `Number.rank?_divide`, `Number.divide_mono` — division keeps the order of the dividends.
* `Number.exists_divide_iff` — the dividends that have a quotient.
* `Number.divide_zero`, `Number.exists_divide_one` — nothing divided, and division by one.
* `Number.divide_float_eq_whole` — the two ways agree.
-/

namespace SwitchTrace

open Magnitude (unitsPerOne)

/-! ### Signs -/

/-- The value is zero or more. The value that is not a number is not. -/
def Binary64.IsNonnegative : Binary64 → Prop
  | .nan => False
  | .infinity negative => negative = false
  | .finite negative m => negative = false ∨ m.units = 0

theorem Binary64.isNonnegative_saturated (m? : Option Magnitude) :
    (saturated false m?).IsNonnegative := by
  cases m? with
  | none => rfl
  | some m => exact .inl rfl

theorem Binary64.checked_eq_ok_iff {negative : Bool} {m? : Option Magnitude} {x : Binary64} :
    checked negative m? = .ok x ↔ ∃ m, m? = some m ∧ x = finite negative m := by
  cases m? <;> simp [checked, eq_comm]

/-- **By a number of the format** the rounded dividend is divided. -/
theorem Number.divide_float_eq_ok_iff {n : Int} {x y : Binary64} :
    (float y).divide n = .ok x ↔ ∃ z, Binary64.ofInt n = .ok z ∧ z.div y = .ok x :=
  bind_eq_ok_iff

/-- The number is more than zero. The value that is not a number is not. -/
def Number.IsPositive (d : Number) : Prop := d.isNonpositive = false ∧ d ≠ .float .nan

theorem Number.whole_pos {w : Int} (h : (whole w).IsPositive) : 0 < w := by
  simpa [isNonpositive] using h.1

theorem Number.finite_pos {negative : Bool} {m : Magnitude}
    (h : (float (.finite negative m)).IsPositive) : negative = false ∧ 0 < m.units := by
  have hsign := h.1
  simp only [isNonpositive, Binary64.isNonpositive, Bool.or_eq_false_iff, beq_eq_false_iff_ne]
    at hsign
  exact ⟨hsign.1, Nat.pos_of_ne_zero hsign.2⟩

/-- A number that is zero or more, divided by a positive one that is no whole number. -/
theorem Binary64.isNonnegative_div {m : Magnitude} {x y : Binary64}
    (hpos : (Number.float y).IsPositive) (h : (finite false m).div y = .ok x) :
    x.IsNonnegative := by
  match y with
  | .nan => exact absurd rfl hpos.2
  | .infinity negative =>
    obtain rfl : negative = false := hpos.1
    obtain rfl := Except.ok.inj h
    exact .inl rfl
  | .finite negative n =>
    obtain ⟨rfl, hn⟩ := Number.finite_pos hpos
    rw [div, if_neg (Nat.ne_of_gt hn)] at h
    obtain rfl := Except.ok.inj h
    exact isNonnegative_saturated _

/-- **A distance that is not negative, divided by a positive number,** is not negative. -/
theorem Number.isNonnegative_divide {d : Number} (hd : d.IsPositive) {n : Int} (hn : 0 ≤ n)
    {x : Binary64} (h : d.divide n = .ok x) : x.IsNonnegative := by
  have hsign : decide (n < 0) = false := decide_eq_false (Int.not_lt.mpr hn)
  cases d with
  | whole w =>
    have hw := whole_pos hd
    have hsign' : decide (w < 0) = false := decide_eq_false (Int.not_lt.mpr (Int.le_of_lt hw))
    rw [divide, Binary64.ofIntRatio, if_neg (Int.ne_of_gt hw), hsign, hsign'] at h
    obtain ⟨m, -, rfl⟩ := Binary64.checked_eq_ok_iff.mp h
    exact .inl rfl
  | float y =>
    obtain ⟨z, hz, h⟩ := divide_float_eq_ok_iff.mp h
    rw [Binary64.ofInt, hsign] at hz
    obtain ⟨m, -, rfl⟩ := Binary64.checked_eq_ok_iff.mp hz
    exact Binary64.isNonnegative_div hd h

/-! ### Quotients written in other ways -/

namespace Magnitude

variable {num den c : Nat}

theorem ext_units {m n : Magnitude} (h : m.units = n.units) : m = n := by
  cases m
  cases n
  cases h
  rfl

theorem units_one : one.units = unitsPerOne := by rw [one]

/-- A quotient is rounded to the same magnitude however it is written. -/
theorem roundToGap_mul_right (hden : 0 < den) (hc : 0 < c) :
    roundToGap (num * c) (den * c) = roundToGap num den := by
  have hdenc := Nat.mul_pos hden hc
  refine Nat.le_antisymm (roundToGap_mono hdenc hden ?_) (roundToGap_mono hden hdenc ?_) <;>
    exact Nat.le_of_eq (by ring)

theorem ofRatio?_mul_right (hden : 0 < den) (hc : 0 < c) :
    ofRatio? (num * c) (den * c) = ofRatio? num den := by
  simp only [ofRatio?, roundToGap_mul_right hden hc]

end Magnitude

/-! ### The order of the format -/

namespace Binary64

/-- Where a number lies on the line of units. The infinities lie just beyond the magnitudes. -/
def rank? : Binary64 → Option Int
  | .nan => none
  | .infinity negative => some (signed negative Magnitude.top)
  | .finite negative m => some (signed negative m.units)

/-- The first number is not greater than the second. The value that is not a number is neither
greater nor less than any. -/
def AtMost (x y : Binary64) : Prop := ∃ u v, x.rank? = some u ∧ y.rank? = some v ∧ u ≤ v

/-- The nearest of the numbers that lie between the infinities. -/
def clamp (u : Int) : Int := max (-Magnitude.top) (min Magnitude.top u)

theorem clamp_mono : Monotone clamp := fun _ _ h => max_le_max le_rfl (min_le_min le_rfl h)

theorem clamp_signed (negative : Bool) (n : Nat) :
    clamp (signed negative n) = signed negative (min n Magnitude.top) := by
  unfold clamp
  generalize Magnitude.top = top
  cases negative with
  | false =>
    simp only [signed, Bool.false_eq_true, if_false]
    omega
  | true =>
    simp only [signed, if_true]
    omega

/-- **A quotient rounded to the format**, or to an infinity beyond it. -/
theorem rank?_ofUnits (negative : Bool) (num : Nat) {den : Nat} (hden : 0 < den) :
    (ofUnits negative num den).rank? =
      some (clamp (nearestUnits ((signed negative num : ℚ) / den))) := by
  rw [nearestUnits, isRounding_roundToGap.signedRound_signed_div negative num hden, clamp_signed,
    ofUnits, Magnitude.ofRatio?]
  split
  · next h => rw [saturated, rank?, Nat.min_eq_left (Nat.le_of_lt h)]
  · next h => rw [saturated, rank?, Nat.min_eq_right (Nat.le_of_not_lt h)]

theorem equalsInt_finite {n : Int} {m : Magnitude} (h : m.units = n.natAbs * unitsPerOne) :
    (finite (decide (n < 0)) m).equalsInt n = true := by
  rw [equalsInt, units?_finite, h, signed_mul, signed_natAbs]
  exact beq_self_eq_true _

/-- One is a number of the format. -/
theorem ofInt_one : ofInt 1 = .ok one := by
  obtain ⟨m, hm, hunits⟩ := exists_ofInt_exact (n := 1) Nat.one_le_two_pow
  rw [Int.natAbs_one, Nat.one_mul, ← Magnitude.units_one] at hunits
  rw [hm, Magnitude.ext_units hunits]
  rfl

/-- Every finite number is divided by a positive one. -/
theorem exists_div {y : Binary64} (hy : (Number.float y).IsPositive) (negative : Bool)
    (m : Magnitude) : ∃ x, (finite negative m).div y = .ok x := by
  cases y with
  | nan => exact absurd rfl hy.2
  | infinity sign => exact ⟨_, rfl⟩
  | finite sign n => exact ⟨_, if_neg (Nat.ne_of_gt (Number.finite_pos hy).2)⟩

/-- What is not too large is the same with and without a fault for what is. -/
theorem eq_saturated_of_checked {negative : Bool} {m? : Option Magnitude} {x : Binary64}
    (h : checked negative m? = .ok x) : x = saturated negative m? := by
  obtain ⟨m, rfl, rfl⟩ := checked_eq_ok_iff.mp h
  rfl

theorem exists_checked_iff {negative : Bool} {num den : Nat} (hden : 0 < den) :
    (∃ x, checked negative (Magnitude.ofRatio? num den) = .ok x) ↔
      num < Magnitude.bound * den := by
  rw [← Nat.not_le, ← Magnitude.ofRatio?_eq_none_iff hden]
  cases Magnitude.ofRatio? num den <;> simp [checked]

/-- **The whole numbers within the format** stay below the middle of the last gap. -/
theorem exists_ofInt_iff {n : Int} :
    (∃ x, ofInt n = .ok x) ↔ n.natAbs * unitsPerOne < Magnitude.bound := by
  rw [ofInt, exists_checked_iff Nat.one_pos, Nat.mul_one]

end Binary64

/-! ### Quotients -/

namespace Number

variable {d : Number} {n k w : Int} {x y : Binary64}

/-- **By a whole number** the exact quotient is rounded. -/
theorem divide_whole (hw : 0 < w) : (whole w).divide n =
    Binary64.checked (decide (n < 0)) (Magnitude.ofRatio? (n.natAbs * unitsPerOne) w.natAbs) := by
  have hsign : decide (w < 0) = false := decide_eq_false (Int.not_lt.mpr (Int.le_of_lt hw))
  rw [divide, Binary64.ofIntRatio, if_neg (Int.ne_of_gt hw), hsign, Bool.bne_false]

/-- Where the quotient of a whole number lies. By a whole number the exact quotient is rounded, and
by a number of the format the rounded dividend is divided and rounded again. Nothing is left of it
when it is divided by an infinity. -/
def quotientRank (n : Int) : Number → Int
  | .whole w => Binary64.clamp (nearestUnits ((n * unitsPerOne : ℚ) / w))
  | .float (.finite _ m) =>
    Binary64.clamp (nearestUnits ((nearestUnits (n * unitsPerOne) * unitsPerOne : ℚ) / m.units))
  | .float _ => 0

theorem divide_float {z : Binary64} (hz : Binary64.ofInt n = .ok z) (y : Binary64) :
    (float y).divide n = z.div y := by
  rw [divide, hz]
  rfl

theorem rank?_divide_whole (hw : 0 < w) (h : (whole w).divide n = .ok x) :
    x.rank? = some ((whole w).quotientRank n) := by
  have hcast : ((w.natAbs : Nat) : ℚ) = w := by
    rw [← Int.cast_natCast, Int.natAbs_of_nonneg (Int.le_of_lt hw)]
  rw [divide_whole hw] at h
  rw [Binary64.eq_saturated_of_checked h, ← Binary64.ofUnits,
    Binary64.rank?_ofUnits _ _ (Int.natAbs_pos.mpr (Int.ne_of_gt hw)), Binary64.signed_mul,
    Binary64.signed_natAbs, hcast, quotientRank, Int.cast_mul, Int.cast_natCast]

theorem rank?_divide_float (hy : (float y).IsPositive) (h : (float y).divide n = .ok x) :
    x.rank? = some ((float y).quotientRank n) := by
  obtain ⟨z, hz, h⟩ := divide_float_eq_ok_iff.mp h
  obtain ⟨a, l, rfl, hl⟩ := Binary64.units?_eq_some_iff.mp (Binary64.units?_ofInt hz)
  cases y with
  | nan => exact absurd rfl hy.2
  | infinity negative =>
    obtain rfl := Except.ok.inj h
    cases a <;> cases negative <;> rfl
  | finite negative m =>
    obtain ⟨rfl, hm⟩ := finite_pos hy
    rw [Binary64.div, if_neg (Nat.ne_of_gt hm), Bool.bne_false] at h
    rw [← Except.ok.inj h, Binary64.rank?_ofUnits _ _ hm, Binary64.signed_mul, ← hl,
      quotientRank, Int.cast_mul, Int.cast_natCast]

/-- **The quotient by a positive number.** -/
theorem rank?_divide (hd : d.IsPositive) (h : d.divide n = .ok x) :
    x.rank? = some (d.quotientRank n) := by
  cases d with
  | whole w => exact rank?_divide_whole (whole_pos hd) h
  | float y => exact rank?_divide_float hd h

theorem quotientRank_mono (hd : d.IsPositive) (h : n ≤ k) :
    d.quotientRank n ≤ d.quotientRank k := by
  have hunits : (n * unitsPerOne : ℚ) ≤ k * unitsPerOne := by
    have hcast : (n : ℚ) ≤ k := by exact_mod_cast h
    gcongr
  match d with
  | .whole w =>
    have hw : (0 : ℚ) < w := by exact_mod_cast whole_pos hd
    refine Binary64.clamp_mono (nearestUnits_mono ?_)
    gcongr
  | .float .nan => exact absurd rfl hd.2
  | .float (.infinity _) => exact le_rfl
  | .float (.finite _ m) =>
    have hrounded : (nearestUnits (n * unitsPerOne) : ℚ) ≤ nearestUnits (k * unitsPerOne) := by
      exact_mod_cast nearestUnits_mono hunits
    refine Binary64.clamp_mono (nearestUnits_mono ?_)
    gcongr

/-- **Division by a positive number keeps the order of the dividends.** -/
theorem divide_mono (hd : d.IsPositive) (h : n ≤ k) (hx : d.divide n = .ok x)
    (hy : d.divide k = .ok y) : x.AtMost y :=
  ⟨_, _, rank?_divide hd hx, rank?_divide hd hy, quotientRank_mono hd h⟩

/-- The whole number has a quotient: divided by a whole number it stays below the middle of the last
gap, and for a number of the format it does so before it is divided. -/
def Divides (n : Int) : Number → Prop
  | .whole w => n.natAbs * unitsPerOne < Magnitude.bound * w.natAbs
  | .float _ => n.natAbs * unitsPerOne < Magnitude.bound

instance (n : Int) : (d : Number) → Decidable (d.Divides n)
  | .whole _ => Nat.decLt _ _
  | .float _ => Nat.decLt _ _

/-- **The dividends that have a quotient.** -/
theorem exists_divide_iff (hd : d.IsPositive) : (∃ x, d.divide n = .ok x) ↔ d.Divides n := by
  cases d with
  | whole w =>
    have hw := whole_pos hd
    rw [divide_whole hw]
    exact Binary64.exists_checked_iff (Int.natAbs_pos.mpr (Int.ne_of_gt hw))
  | float y =>
    rw [Divides, ← Binary64.exists_ofInt_iff]
    simp only [divide_float_eq_ok_iff]
    constructor
    · rintro ⟨x, z, hz, -⟩
      exact ⟨z, hz⟩
    · rintro ⟨z, hz⟩
      obtain ⟨a, l, rfl, -⟩ := Binary64.units?_eq_some_iff.mp (Binary64.units?_ofInt hz)
      obtain ⟨x, hx⟩ := Binary64.exists_div hd a l
      exact ⟨x, _, hz, hx⟩

/-- **Nothing, divided by a positive number,** is zero without a sign. -/
theorem divide_zero (hd : d.IsPositive) : d.divide 0 = .ok (.zero false) := by
  have hratio (den : Nat) :
      Magnitude.ofRatio? ((0 : Int).natAbs * unitsPerOne) den = some .zero := by
    rw [Int.natAbs_zero, Nat.zero_mul, Magnitude.ofRatio?_zero]
  cases d with
  | whole w =>
    rw [divide_whole (whole_pos hd), hratio]
    rfl
  | float y =>
    have hzero : Binary64.ofInt 0 = .ok (.zero false) := by
      rw [Binary64.ofInt, hratio]
      rfl
    rw [divide_float hzero]
    cases y with
    | nan => exact absurd rfl hd.2
    | infinity negative =>
      obtain rfl : negative = false := hd.1
      rfl
    | finite negative m =>
      obtain ⟨rfl, hm⟩ := finite_pos hd
      rw [Binary64.zero, Binary64.div, if_neg (Nat.ne_of_gt hm), Magnitude.zero, Nat.zero_mul,
        Binary64.ofUnits_zero]
      rfl

/-- A positive whole number of the format is positive in the format. -/
theorem isPositive_ofInt (hk : 0 < k) (hk' : k.natAbs ≤ power 2 53)
    (hx : Binary64.ofInt k = .ok x) : (float x).IsPositive := by
  obtain ⟨m, hm, hmunits⟩ := Binary64.exists_ofInt_exact hk'
  obtain rfl := Except.ok.inj (hx.symm.trans hm)
  have hne : m.units ≠ 0 := by
    rw [hmunits]
    exact Nat.mul_ne_zero (Int.natAbs_ne_zero.mpr (Int.ne_of_gt hk))
      (Nat.ne_of_gt Binary64.unitsPerOne_pos)
  refine ⟨?_, nofun⟩
  rw [decide_eq_false (Int.not_lt.mpr (Int.le_of_lt hk))]
  exact beq_eq_false_iff_ne.mpr hne

/-- **The two ways of dividing agree** while dividend and divisor are values of the format. -/
theorem divide_float_eq_whole (hk : 0 < k) (hk' : k.natAbs ≤ power 2 53)
    (hn : n.natAbs ≤ power 2 53) (hx : Binary64.ofInt k = .ok x) :
    (float x).divide n = (whole k).divide n := by
  have hden : 0 < k.natAbs := Int.natAbs_pos.mpr (Int.ne_of_gt hk)
  obtain ⟨l, hl, hlunits⟩ := Binary64.exists_ofInt_exact hn
  obtain ⟨m, hm, hmunits⟩ := Binary64.exists_ofInt_exact hk'
  obtain rfl := Except.ok.inj (hx.symm.trans hm)
  obtain ⟨hsign, hpos⟩ := finite_pos (isPositive_ofInt hk hk' hm)
  obtain ⟨q, hq, -⟩ := Binary64.exists_ofRatio?_le_power hden (by decide : 53 < 1024)
    (Nat.le_trans (Nat.mul_le_mul_right unitsPerOne hn) (Nat.le_mul_of_pos_right _ hden))
  rw [divide_float hl, divide_whole hk, Binary64.div, if_neg (Nat.ne_of_gt hpos), hsign,
    Bool.bne_false, Binary64.ofUnits, hlunits, hmunits,
    Magnitude.ofRatio?_mul_right hden Binary64.unitsPerOne_pos, hq]
  rfl

/-- Beyond the values of the format the dividend that is rounded first has another third. -/
example : ((Binary64.ofInt 3).bind fun x => (float x).divide 9007199254740993) ≠
    (whole 3).divide 9007199254740993 := by
  decide +kernel

/-- **Division by one** leaves whole numbers up to `2 ^ 53` as they are. -/
theorem exists_divide_one (hd : d = .whole 1 ∨ d = .float .one) (hn : n.natAbs ≤ power 2 53) :
    ∃ x, d.divide n = .ok x ∧ x.equalsInt n = true := by
  obtain ⟨m, hm, hmunits⟩ := Binary64.exists_ofInt_exact hn
  have hwhole : (whole 1).divide n = .ok (.finite (decide (n < 0)) m) := by
    rw [divide_whole Int.one_pos, ← hm]
    rfl
  refine ⟨_, ?_, Binary64.equalsInt_finite hmunits⟩
  rcases hd with rfl | rfl
  · exact hwhole
  · rw [divide_float_eq_whole Int.one_pos (Nat.one_le_two_pow) hn Binary64.ofInt_one, hwhole]

end Number

end SwitchTrace
