import SwitchTrace.Numeric.Binary64

/-!
# Decimal numbers

A decimal number is a whole number of digits and a power of ten. The numbers nearest to which a
magnitude of the binary64 format is the nearest magnitude form an interval around it; the
shortest decimal number of the interval, and of those the nearest to the magnitude, is the one
that is printed. In the other direction a decimal number is read as the nearest magnitude.

## Main definitions

* `Decimal` — digits and exponent.
* `Interval.around` — the numbers that are read as a given magnitude.
* `Decimal.shortest` — the shortest and nearest decimal number of that interval.
* `Decimal.toBinary64` — the number of the format nearest to a decimal number.
-/

namespace SwitchTrace

/-- The number `digits * 10 ^ exponent`. -/
structure Decimal where
  digits : Nat
  exponent : Int
deriving DecidableEq, Repr

/-- An interval in quarters of the unit `2 ^ -1074`, with a distinguished point inside. -/
structure Interval where
  low : Nat
  point : Nat
  high : Nat
  /-- The two ends belong to the interval. -/
  closed : Bool

namespace Interval

/-- The numbers to which `m` is the nearest magnitude. The gap below a power of two is half the
gap above it, except where the gap cannot be halved. The ends are half way to the neighbours, and
are read as `m` if its last bit is even. -/
def around (m : Magnitude) : Interval :=
  let g := Magnitude.gap m.units
  let below := if 1 < g ∧ m.units = power 2 m.units.log2 then g else 2 * g
  ⟨4 * m.units - below, 4 * m.units, 4 * m.units + 2 * g, m.units / g % 2 = 0⟩

end Interval

namespace Decimal

/-- The number of decimal digits of a number. -/
def digitCount (n : Nat) : Nat := (Nat.toDigits 10 n).length

/-- A grid of decimal numbers: `scaleUp / scaleDown` is the number of grid steps in a quarter of
a unit. -/
structure Grid where
  scaleUp : Nat
  scaleDown : Nat

/-- The multiples of `10 ^ exponent`. -/
def Grid.ofExponent (exponent : Int) : Grid :=
  ⟨power 10 (-exponent).toNat, 4 * Magnitude.unitsPerOne * power 10 exponent.toNat⟩

/-- The multiple number `k` of the grid lies in the interval. -/
def Grid.holds (g : Grid) (i : Interval) (k : Nat) : Bool :=
  let x := k * g.scaleDown
  if i.closed then i.low * g.scaleUp ≤ x && x ≤ i.high * g.scaleUp
  else i.low * g.scaleUp < x && x < i.high * g.scaleUp

/-- The multiple of the grid that lies in the interval, the one nearer to its point if both
neighbours of the point do, and the even one if both are equally near. -/
def Grid.nearest? (g : Grid) (i : Interval) : Option Nat :=
  let x := i.point * g.scaleUp
  let k := x / g.scaleDown
  match g.holds i k, g.holds i (k + 1) with
  | true, true => some (divHalfEven x g.scaleDown)
  | true, false => some k
  | false, true => some (k + 1)
  | false, false => none

/-- The first grid with a multiple in the interval, `fuel` grids being tried from the given
exponent downwards. -/
def search (i : Interval) : Nat → Int → Decimal
  | 0, exponent => ⟨0, exponent⟩
  | fuel + 1, exponent =>
    match (Grid.ofExponent exponent).nearest? i with
    | some k => ⟨k, exponent⟩
    | none => search i fuel (exponent - 1)

/-- The exponent of the first digit of a magnitude other than zero. -/
def leadingExponent (m : Magnitude) : Int :=
  (digitCount (m.units * power 10 400 / Magnitude.unitsPerOne) : Int) - 401

/-- The shortest decimal number that is read as `m`, and of those the nearest to it. Seventeen
digits always suffice. -/
def shortest (m : Magnitude) : Decimal :=
  if m.units = 0 then ⟨0, 0⟩ else search (Interval.around m) 18 (leadingExponent m)

/-- The number of the format nearest to a decimal number with a sign. Beyond 400 digits before
the point it is infinite and beyond 400 zeros after the point it is zero, so that the powers of
ten stay small. -/
def toBinary64 (negative : Bool) (d : Decimal) : Binary64 :=
  if d.digits = 0 then .zero negative
  else
    let leading := d.exponent + digitCount d.digits
    if 400 < leading then .infinity negative
    else if leading < -400 then .zero negative
    else
      .ofUnits negative (d.digits * power 10 d.exponent.toNat * Magnitude.unitsPerOne)
        (power 10 (-d.exponent).toNat)

end Decimal

end SwitchTrace
