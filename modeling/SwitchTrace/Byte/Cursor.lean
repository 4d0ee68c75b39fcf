import SwitchTrace.Byte.LittleEndian

/-!
# Sequential reading

A cursor is a place in a byte string: how many bytes lie before it, and the bytes after it.
Taking more than is left does not move it.

## Main definitions

* `Cursor.take?` — the next bytes and the place after them.
* `slice` — the bytes of a field at a fixed place.
* `strides` — the elements of an array whose elements all have one length.
-/

namespace SwitchTrace

/-- A place in a byte string. -/
structure Cursor where
  /-- The number of bytes before this place. -/
  offset : Nat
  /-- The bytes after this place. -/
  rest : Bytes
deriving DecidableEq, Repr

namespace Cursor

/-- The start of a byte string. -/
def start (data : Bytes) : Cursor := ⟨0, data⟩

/-- The number of bytes after this place. -/
def remaining (c : Cursor) : Nat := c.rest.length

/-- The next `size` bytes and the place after them, or nothing if there are fewer. -/
def take? (c : Cursor) (size : Nat) : Option (Bytes × Cursor) :=
  if size ≤ c.remaining then some (c.rest.take size, ⟨c.offset + size, c.rest.drop size⟩) else none

theorem take?_eq_none_iff {c : Cursor} {size : Nat} :
    c.take? size = none ↔ c.remaining < size := by
  simp [take?]

theorem take?_eq_some_iff {c d : Cursor} {size : Nat} {chunk : Bytes} :
    c.take? size = some (chunk, d) ↔
      size = chunk.length ∧ c.rest = chunk ++ d.rest ∧ d.offset = c.offset + size := by
  obtain ⟨offset, rest⟩ := c
  obtain ⟨offset', rest'⟩ := d
  by_cases hle : size ≤ rest.length
  · simp only [take?, remaining, hle, if_true, Option.some.injEq, Prod.mk.injEq, Cursor.mk.injEq]
    constructor
    · rintro ⟨rfl, rfl, rfl⟩
      exact ⟨(List.length_take_of_le hle).symm, (List.take_append_drop size rest).symm, rfl⟩
    · rintro ⟨rfl, rfl, rfl⟩
      simp
  · simp only [take?, remaining, hle, if_false, reduceCtorEq, false_iff]
    rintro ⟨rfl, rfl, -⟩
    exact hle (by simp)

end Cursor

/-- The `width` bytes from an offset on. -/
def slice (offset width : Nat) (bs : Bytes) : Bytes := (bs.drop offset).take width

/-- The first `count` pieces of `stride` bytes each. -/
def strides (stride : Nat) : Nat → Bytes → List Bytes
  | 0, _ => []
  | count + 1, bs => bs.take stride :: strides stride count (bs.drop stride)

@[simp] theorem length_strides (stride count : Nat) (bs : Bytes) :
    (strides stride count bs).length = count := by
  induction count generalizing bs with
  | zero => rfl
  | succ count ih => simp [strides, ih]

end SwitchTrace
