import SwitchTrace.Numeric.DigitLimit
import SwitchTrace.Numeric.Power
import SwitchTrace.Numeric.Rounding

/-!
# Numbers of the binary64 format

A finite number is a sign and a magnitude, counted in units of `2 ^ -1074`, the least positive
number of the format. A magnitude is a number of units below `2 ^ 2098` of which only the 53
leading bits may be set; this is part of its type. Every result is the exact one rounded to the
nearest magnitude, ties to even.

## Main definitions

* `Magnitude`, `Magnitude.ofRatio?` — the magnitudes, and rounding to them.
* `Binary64` — finite numbers, the two infinities, and one value that is not a number.
* `Binary64.ofInt`, `Binary64.ofIntRatio`, `Binary64.add`, `Binary64.mul`, `Binary64.div` —
  rounded arithmetic.
* `Binary64.round`, `Binary64.truncate` — to whole numbers.
* `Binary64.ofBits`, `Binary64.toBits` — the 64-bit words of the format.

## Main results

* `Magnitude.gap_dvd_roundToGap` — rounding ends on a magnitude.
-/

namespace SwitchTrace

/-- Why there is no answer for a number. -/
inductive ArithmeticFault
  /-- The answer is too large. -/
  | overflow
  | divisionByZero
  /-- The value that is not a number is no whole number. -/
  | notANumber
  /-- The number has too many digits to be written. -/
  | tooManyDigits
deriving DecidableEq, Repr

/-- The message for a fault. -/
def ArithmeticFault.message : ArithmeticFault → String
  | .overflow => "number too large"
  | .divisionByZero => "division by zero"
  | .notANumber => "cannot convert float NaN to integer"
  | .tooManyDigits => longNumberMessage

/-! ### Magnitudes -/

namespace Magnitude

/-- The distance from one magnitude to the next, at the given number of units: one unit up to
`2 ^ 53` units, and twice as much in every further power of two. -/
def gap (units : Nat) : Nat := power 2 (units.log2 - 52)

/-- The least positive number is two to the power of minus this. -/
def unitExponent : Nat := 1074

/-- The number of units in one. -/
def unitsPerOne : Nat := power 2 unitExponent

/-- The magnitudes lie below two to this power of units. -/
def topExponent : Nat := 2098

/-- The first number of units beyond the magnitudes. -/
def top : Nat := power 2 topExponent

/-- The multiple of the gap that is nearest to `num / den` units, ties to even multiples. -/
def roundToGap (num den : Nat) : Nat :=
  let g := gap (num / den)
  divHalfEven num (den * g) * g

theorem top_pos : 0 < top := Nat.two_pow_pos topExponent

theorem unitsPerOne_lt_top : unitsPerOne < top :=
  Nat.pow_lt_pow_right (by decide) (by decide : unitExponent < topExponent)

theorem gap_pos (units : Nat) : 0 < gap units := Nat.two_pow_pos _

theorem lt_of_gap (units : Nat) : units < power 2 (units.log2 - 52 + 53) :=
  Nat.lt_of_lt_of_le Nat.lt_log2_self (Nat.pow_le_pow_right (by decide) (by omega))

theorem gap_dvd_of_lt {units e : Nat} (hlt : units < power 2 (e + 53))
    (hdvd : power 2 e ∣ units) : gap units ∣ units := by
  refine Nat.dvd_trans (Nat.pow_dvd_pow 2 ?_) hdvd
  by_cases hzero : units = 0
  · subst hzero
    exact Nat.le_trans (by decide : Nat.log2 0 - 52 ≤ 0) (Nat.zero_le e)
  · have := (Nat.log2_lt hzero).mpr hlt
    omega

theorem gap_two_pow_dvd (n : Nat) : gap (power 2 n) ∣ power 2 n := by
  simp only [gap, power, Nat.log2_two_pow]
  exact Nat.pow_dvd_pow 2 (by omega)

/-- Rounding ends on a multiple of the gap at the place where it ends, also when it reaches the
next power of two. -/
theorem gap_dvd_roundToGap (num den : Nat) : gap (roundToGap num den) ∣ roundToGap num den := by
  simp only [roundToGap]
  generalize he : (num / den).log2 - 52 = e
  have hg : gap (num / den) = 2 ^ e := by rw [gap, he, power]
  rw [hg]
  have hlt : num / den < 2 ^ (e + 53) := he ▸ lt_of_gap (num / den)
  have hquot : num / (den * 2 ^ e) < 2 ^ 53 := by
    rw [← Nat.div_div_eq_div_mul]
    exact Nat.div_lt_of_lt_mul (by rwa [← Nat.pow_add])
  have hle : divHalfEven num (den * 2 ^ e) ≤ 2 ^ 53 :=
    Nat.le_trans (divHalfEven_le _ _) hquot
  rcases Nat.lt_or_eq_of_le hle with hlt' | heq
  · refine gap_dvd_of_lt (e := e) ?_ (Nat.dvd_mul_left _ _)
    rw [power, Nat.add_comm, Nat.pow_add]
    exact Nat.mul_lt_mul_of_pos_right hlt' (Nat.two_pow_pos e)
  · rw [heq, ← Nat.pow_add]
    exact gap_two_pow_dvd _

end Magnitude

/-- The size of a finite number, in units of `2 ^ -1074`. -/
structure Magnitude where
  units : Nat
  lt_top : units < Magnitude.top
  gap_dvd : Magnitude.gap units ∣ units
deriving DecidableEq

namespace Magnitude

/-- No size at all. -/
def zero : Magnitude := ⟨0, top_pos, Nat.dvd_zero _⟩

instance : Inhabited Magnitude := ⟨zero⟩

/-- The size of one. -/
def one : Magnitude where
  units := unitsPerOne
  lt_top := unitsPerOne_lt_top
  gap_dvd := gap_two_pow_dvd unitExponent

/-- The magnitude nearest to `num / den` units, or nothing if it is not below the top. -/
def ofRatio? (num den : Nat) : Option Magnitude :=
  if h : roundToGap num den < top then
    some ⟨roundToGap num den, h, gap_dvd_roundToGap num den⟩
  else none

end Magnitude

/-! ### Numbers -/

/-- A number of the format. -/
inductive Binary64
  | nan
  | infinity (negative : Bool)
  | finite (negative : Bool) (magnitude : Magnitude)
deriving DecidableEq

namespace Binary64

open Magnitude (unitsPerOne)

instance : Inhabited Binary64 := ⟨.finite false .zero⟩

/-- Zero with a sign. -/
def zero (negative : Bool) : Binary64 := .finite negative .zero

/-- One. -/
def one : Binary64 := .finite false .one

/-- A magnitude with a sign, or an infinity if there is none. -/
def saturated (negative : Bool) : Option Magnitude → Binary64
  | some m => .finite negative m
  | none => .infinity negative

/-- A magnitude with a sign, or a fault if there is none. -/
def checked (negative : Bool) : Option Magnitude → Except ArithmeticFault Binary64
  | some m => .ok (.finite negative m)
  | none => .error .overflow

/-- The number nearest to `num / den` units with the given sign, an infinity beyond the top. -/
def ofUnits (negative : Bool) (num den : Nat) : Binary64 :=
  saturated negative (Magnitude.ofRatio? num den)

/-- The exact value of a finite number, in units. -/
def units? : Binary64 → Option Int
  | .finite false m => some m.units
  | .finite true m => some (-m.units)
  | _ => none

/-- The value is the whole number `n`. -/
def equalsInt (x : Binary64) (n : Int) : Bool := x.units? == some (n * unitsPerOne)

/-- The value is one. -/
def isOne (x : Binary64) : Bool := x.equalsInt 1

/-- The value is zero, of either sign. -/
def isZero (x : Binary64) : Bool := x.equalsInt 0

/-- The value is zero or less. The value that is not a number is not. -/
def isNonpositive : Binary64 → Bool
  | .nan => false
  | .infinity negative => negative
  | .finite negative m => negative || m.units == 0

/-- The two are the same number: zeros of either sign are, and the value that is not a number is
not even the same as itself. -/
def sameNumber : Binary64 → Binary64 → Bool
  | .nan, _ => false
  | _, .nan => false
  | .infinity a, .infinity b => a == b
  | .finite a m, .finite b n => (Binary64.finite a m).units? == (Binary64.finite b n).units?
  | _, _ => false

/-- The number has a value. -/
def isFinite : Binary64 → Bool
  | .finite _ _ => true
  | _ => false

/-! ### Arithmetic -/

/-- The number nearest to a whole number. -/
def ofInt (n : Int) : Except ArithmeticFault Binary64 :=
  checked (decide (n < 0)) (Magnitude.ofRatio? (n.natAbs * unitsPerOne) 1)

/-- The number nearest to the quotient of two whole numbers. A zero has the sign of the quotient
of signs, a zero numerator counting as positive. -/
def ofIntRatio (num den : Int) : Except ArithmeticFault Binary64 :=
  if den = 0 then .error .divisionByZero
  else
    checked (decide (num < 0) != decide (den < 0))
      (Magnitude.ofRatio? (num.natAbs * unitsPerOne) den.natAbs)

/-- The rounded sum. -/
def add : Binary64 → Binary64 → Binary64
  | .nan, _ => .nan
  | _, .nan => .nan
  | .infinity a, .infinity b => if a = b then .infinity a else .nan
  | .infinity a, _ => .infinity a
  | _, .infinity b => .infinity b
  | .finite a m, .finite b n =>
    if a = b then ofUnits a (m.units + n.units) 1
    else if m.units = n.units then zero false
    else if n.units < m.units then ofUnits a (m.units - n.units) 1
    else ofUnits b (n.units - m.units) 1

/-- The rounded product. -/
def mul : Binary64 → Binary64 → Binary64
  | .nan, _ => .nan
  | _, .nan => .nan
  | .infinity a, .infinity b => .infinity (a != b)
  | .infinity a, .finite b n => if n.units = 0 then .nan else .infinity (a != b)
  | .finite a m, .infinity b => if m.units = 0 then .nan else .infinity (a != b)
  | .finite a m, .finite b n => ofUnits (a != b) (m.units * n.units) unitsPerOne

/-- The rounded quotient. -/
def div : Binary64 → Binary64 → Except ArithmeticFault Binary64
  | x, .finite b n =>
    if n.units = 0 then .error .divisionByZero
    else
      match x with
      | .nan => .ok .nan
      | .infinity a => .ok (.infinity (a != b))
      | .finite a m => .ok (ofUnits (a != b) (m.units * unitsPerOne) n.units)
  | .nan, _ => .ok .nan
  | _, .nan => .ok .nan
  | .infinity _, .infinity _ => .ok .nan
  | .finite a _, .infinity b => .ok (zero (a != b))

/-- The number with the other sign. -/
def neg : Binary64 → Binary64
  | .nan => .nan
  | .infinity a => .infinity (!a)
  | .finite a m => .finite (!a) m

/-! ### Whole numbers -/

/-- A sign and a size as a whole number. -/
def signed (negative : Bool) (n : Nat) : Int := if negative then -n else n

/-- The nearest whole number, ties to even. -/
def round : Binary64 → Except ArithmeticFault Int
  | .nan => .error .notANumber
  | .infinity _ => .error .overflow
  | .finite negative m => .ok (signed negative (divHalfEven m.units unitsPerOne))

/-- The whole number next to the number in the direction of zero. -/
def truncate : Binary64 → Except ArithmeticFault Int
  | .nan => .error .notANumber
  | .infinity _ => .error .overflow
  | .finite negative m => .ok (signed negative (m.units / unitsPerOne))

/-! ### Words -/

/-- The units of a magnitude with the given exponent field and fraction field; the exponent field
0 stands for magnitudes below `2 ^ 52` units. -/
def unitsOfFields (exponent fraction : Nat) : Nat :=
  if exponent = 0 then fraction else (power 2 52 + fraction) * power 2 (exponent - 1)

/-- The number that a 64-bit word stands for: one bit of sign, eleven bits of exponent, 52 bits
of fraction. -/
def ofBits (word : Nat) : Binary64 :=
  let negative := decide (word / power 2 63 % 2 = 1)
  let exponent := word / power 2 52 % power 2 11
  let fraction := word % power 2 52
  if exponent = 2047 then
    if fraction = 0 then .infinity negative else .nan
  else ofUnits negative (unitsOfFields exponent fraction) 1

/-- The exponent field and the fraction field of a magnitude, as one number. -/
def magnitudeBits (m : Magnitude) : Nat :=
  if m.units < power 2 52 then m.units
  else
    let shift := m.units.log2 - 52
    (shift + 1) * power 2 52 + (m.units / power 2 shift - power 2 52)

/-- The 64-bit word of a number. -/
def toBits : Binary64 → Nat
  | .nan => 2047 * power 2 52 + power 2 51
  | .infinity negative => negative.toNat * power 2 63 + 2047 * power 2 52
  | .finite negative m => negative.toNat * power 2 63 + magnitudeBits m

end Binary64

end SwitchTrace
