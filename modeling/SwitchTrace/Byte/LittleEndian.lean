import SwitchTrace.Numeric.Power

/-!
# Little-endian integer fields

A field of a binary layout is a whole number of bytes, least significant byte first, read as an
unsigned number or in two's complement.

## Main definitions

* `LittleEndian.ofNat`, `LittleEndian.toNat` — numbers to bytes and back.
* `IntField` — a field by its width and sign, with its range, `IntField.encode?` and
  `IntField.decode`.

## Main results

* `LittleEndian.toNat_ofNat` — a number is read back modulo `256 ^ width`.
* `LittleEndian.ofNat_toNat` — every byte string is written back unchanged.
-/

namespace SwitchTrace

/-- A string of bytes. -/
abbrev Bytes := List UInt8

namespace LittleEndian

/-- The `width` low bytes of `n`, least significant first. -/
def ofNat : Nat → Nat → Bytes
  | 0, _ => []
  | width + 1, n => UInt8.ofNat n :: ofNat width (n / 256)

/-- The number whose base-256 digits are the bytes, least significant first. -/
def toNat : Bytes → Nat
  | [] => 0
  | b :: bs => b.toNat + 256 * toNat bs

@[simp] theorem length_ofNat (width n : Nat) : (ofNat width n).length = width := by
  induction width generalizing n with
  | zero => rfl
  | succ width ih => simp [ofNat, ih]

theorem toNat_lt (bs : Bytes) : toNat bs < power 256 bs.length := by
  induction bs with
  | nil => simp [toNat]
  | cons b bs ih =>
    have hb := b.toNat_lt
    rw [power] at ih ⊢
    rw [toNat, List.length_cons, Nat.pow_succ]
    omega

theorem toNat_ofNat (width n : Nat) : toNat (ofNat width n) = n % power 256 width := by
  rw [power]
  induction width generalizing n with
  | zero => simp [ofNat, toNat, Nat.mod_one]
  | succ width ih =>
    have split : n % 256 ^ (width + 1) = n % 256 + 256 * (n / 256 % 256 ^ width) := by
      rw [Nat.pow_succ', Nat.mod_mul]
    rw [ofNat, toNat, ih, split, UInt8.toNat_ofNat']

theorem ofNat_toNat (bs : Bytes) : ofNat bs.length (toNat bs) = bs := by
  induction bs with
  | nil => rfl
  | cons b bs ih =>
    have hb := b.toNat_lt
    have hq : (b.toNat + 256 * toNat bs) / 256 = toNat bs := by omega
    have hr : UInt8.ofNat (b.toNat + 256 * toNat bs) = b := by
      apply UInt8.toNat_inj.mp
      rw [UInt8.toNat_ofNat']
      omega
    rw [List.length_cons, ofNat, toNat, hq, hr, ih]

end LittleEndian

/-- An integer field of a binary layout: its width in bytes, and whether its bytes are read in
two's complement. -/
structure IntField where
  width : Nat
  signed : Bool
deriving DecidableEq, Repr

namespace IntField

def u8 : IntField := ⟨1, false⟩
def u16 : IntField := ⟨2, false⟩
def u32 : IntField := ⟨4, false⟩
def u64 : IntField := ⟨8, false⟩
def i32 : IntField := ⟨4, true⟩
def i64 : IntField := ⟨8, true⟩

/-- The number of values of the field. -/
def modulus (f : IntField) : Int := power 256 f.width

/-- The least value of the field. -/
def lower (f : IntField) : Int := if f.signed then -(f.modulus / 2) else 0

/-- One more than the greatest value of the field. -/
def upper (f : IntField) : Int := if f.signed then f.modulus / 2 else f.modulus

/-- The field can hold the integer. -/
def Holds (f : IntField) (x : Int) : Prop := f.lower ≤ x ∧ x < f.upper

instance (f : IntField) (x : Int) : Decidable (f.Holds x) :=
  inferInstanceAs (Decidable (f.lower ≤ x ∧ x < f.upper))

/-- The bytes of an integer that the field can hold. -/
def encode? (f : IntField) (x : Int) : Option Bytes :=
  if f.Holds x then some (LittleEndian.ofNat f.width (x % f.modulus).toNat) else none

/-- The integer that the bytes of a field stand for. -/
def decode (f : IntField) (bs : Bytes) : Int :=
  let n : Int := LittleEndian.toNat bs
  if n < f.upper then n else n - f.modulus

theorem length_of_encode? {f : IntField} {x : Int} {bs : Bytes} (h : f.encode? x = some bs) :
    bs.length = f.width := by
  unfold encode? at h
  split at h
  · cases h; exact LittleEndian.length_ofNat _ _
  · cases h

end IntField

end SwitchTrace
