import SwitchTrace.Byte.Cursor
import SwitchTrace.Numeric.DigitLimit

/-!
# Fields of a byte string

An integer field and its bytes determine each other: reading what was written gives the integer
back, and writing what was read gives the bytes back. Fields written one after the other are found
again at the offsets that their widths add up to, and elements of one length are found again by
cutting their concatenation at that length.

## Main results

* `IntField.decode_of_encode?`, `IntField.encode?_decode` — the two directions for one field.
* `IntField.decode_ofNat`, `IntField.ofNat_of_decode_eq` — the same for natural numbers.
* `IntField.Holds.isLong_eq_false` — the integers of a field can be written in base ten.
* `slice_zero_append`, `slice_append_of_le` — the first field of a concatenation, and the others.
* `strides_flatten`, `flatten_strides` — elements of one length and their concatenation.
-/

namespace SwitchTrace

/-! ### Integer fields -/

namespace IntField

variable {f : IntField} {x : Int} {bs : Bytes}

theorem modulus_pos (f : IntField) : 0 < f.modulus := by
  have h : 0 < power 256 f.width := Nat.pow_pos (by decide)
  exact Int.natCast_pos.mpr h

theorem two_dvd_modulus (hf : 0 < f.width) : 2 ∣ f.modulus := by
  obtain ⟨k, hk⟩ : ∃ k, f.width = k + 1 := ⟨f.width - 1, by omega⟩
  have hpow : power 256 f.width = 2 * (128 * power 256 k) := by
    simp only [power, hk, Nat.pow_succ]
    omega
  exact ⟨((128 * power 256 k : Nat) : Int), by rw [modulus, hpow]; rfl⟩

theorem upper_le_modulus (f : IntField) : f.upper ≤ f.modulus := by
  have hm := f.modulus_pos
  unfold upper
  split <;> omega

theorem toNat_lt_modulus (hbs : bs.length = f.width) :
    (LittleEndian.toNat bs : Int) < f.modulus := by
  have h := LittleEndian.toNat_lt bs
  rw [hbs] at h
  exact Int.ofNat_lt.mpr h

/-- The integers of a field of up to eight bytes have not too many digits to be written. -/
theorem Holds.isLong_eq_false (h : f.Holds x) (hf : f.width ≤ 8) : isLong x = false := by
  have habs : x.natAbs ≤ power 256 f.width := by
    have hpos := f.modulus_pos
    obtain ⟨hlow, hhigh⟩ := h
    unfold lower at hlow
    unfold upper at hhigh
    rw [modulus] at hpos hlow hhigh
    split at hlow <;> split at hhigh <;> omega
  have hlimit : power 256 f.width < firstLong :=
    calc power 256 f.width ≤ power 256 8 := Nat.pow_le_pow_right (by decide) hf
      _ ≤ power 10 20 := by decide
      _ < power 10 digitLimit := Nat.pow_lt_pow_right (by decide) (by decide)
      _ = firstLong := firstLong_eq.symm
  rw [isLong, decide_eq_false_iff_not, Nat.not_le]
  exact Nat.lt_of_le_of_lt habs hlimit

/-- Only a field in two's complement holds a negative integer. -/
theorem Holds.signed_of_neg (h : f.Holds x) (hx : x < 0) : f.signed = true := by
  cases hs : f.signed with
  | true => rfl
  | false =>
    have hlo := h.1
    simp only [lower, hs, Bool.false_eq_true, ↓reduceIte] at hlo
    omega

/-- The bytes of an integer that the field can hold, as an unsigned number. -/
theorem toNat_ofNat_emod (f : IntField) (x : Int) :
    (LittleEndian.toNat (LittleEndian.ofNat f.width (x % f.modulus).toNat) : Int) =
      x % f.modulus := by
  have hm := f.modulus_pos
  have hnonneg := Int.emod_nonneg x (Int.ne_of_gt hm)
  have hlt : (x % f.modulus).toNat < power 256 f.width := by
    have h := Int.emod_lt_of_pos x hm
    rw [show f.modulus = (power 256 f.width : Nat) from rfl] at h hnonneg ⊢
    omega
  rw [LittleEndian.toNat_ofNat, Nat.mod_eq_of_lt hlt, Int.toNat_of_nonneg hnonneg]

/-- **What is written into a field is read back.** -/
theorem decode_of_encode? (h : f.encode? x = some bs) : f.decode bs = x := by
  unfold encode? at h
  split at h
  case isFalse => cases h
  case isTrue hx =>
    cases h
    have hm := f.modulus_pos
    have hle := f.upper_le_modulus
    simp only [decode, toNat_ofNat_emod]
    by_cases hneg : x < 0
    · have hs := hx.signed_of_neg hneg
      have hlo := hx.1
      simp only [lower, upper, hs, ↓reduceIte] at hlo ⊢
      have hmod : x % f.modulus = x + f.modulus := by
        rw [← Int.add_emod_right, Int.emod_eq_of_lt (by omega) (by omega)]
      rw [hmod, if_neg (by omega)]
      omega
    · have hhi := hx.2
      rw [Int.emod_eq_of_lt (by omega) (by omega), if_pos hhi]

/-- Every byte string of the field's width stands for an integer that the field can hold. -/
theorem holds_decode (hf : 0 < f.width) (hbs : bs.length = f.width) : f.Holds (f.decode bs) := by
  have hn := toNat_lt_modulus hbs
  obtain ⟨k, hk⟩ := two_dvd_modulus hf
  by_cases hs : f.signed = true
  · simp only [Holds, decode, lower, upper, hs, ↓reduceIte]
    split <;> omega
  · simp only [Holds, decode, lower, upper, hs, Bool.false_eq_true, ↓reduceIte]
    split <;> omega

theorem decode_emod_modulus (hbs : bs.length = f.width) :
    f.decode bs % f.modulus = LittleEndian.toNat bs := by
  have hn := toNat_lt_modulus hbs
  simp only [decode]
  split
  · exact Int.emod_eq_of_lt (by omega) hn
  · rw [Int.sub_emod_right]
    exact Int.emod_eq_of_lt (by omega) hn

/-- **What is read from a field is written back**, byte for byte. -/
theorem encode?_decode (hf : 0 < f.width) (hbs : bs.length = f.width) :
    f.encode? (f.decode bs) = some bs := by
  rw [encode?, if_pos (holds_decode hf hbs), decode_emod_modulus hbs, Int.toNat_natCast, ← hbs,
    LittleEndian.ofNat_toNat]

/-- A natural number in the range of a field is written as its low bytes. -/
theorem encode?_natCast {n : Nat} (h : f.Holds n) :
    f.encode? n = some (LittleEndian.ofNat f.width n) := by
  have hlt : (n : Int) < f.modulus := Int.lt_of_lt_of_le h.2 f.upper_le_modulus
  rw [encode?, if_pos h, Int.emod_eq_of_lt (by omega) hlt, Int.toNat_natCast]

theorem decode_ofNat {n : Nat} (h : f.Holds n) : f.decode (LittleEndian.ofNat f.width n) = n :=
  decode_of_encode? (encode?_natCast h)

/-- Bytes that stand for a natural number are its low bytes. -/
theorem ofNat_of_decode_eq {n : Nat} (hf : 0 < f.width) (hbs : bs.length = f.width)
    (h : f.decode bs = n) : LittleEndian.ofNat f.width n = bs := by
  have hwrite := encode?_decode hf hbs
  have hholds := holds_decode hf hbs
  rw [h] at hwrite hholds
  rw [encode?_natCast hholds] at hwrite
  exact Option.some.inj hwrite

end IntField

/-! ### Fields one after the other -/

theorem slice_zero_append {width : Nat} {a b : Bytes} (h : a.length = width) :
    slice 0 width (a ++ b) = a := by
  subst h
  simp [slice]

theorem slice_zero_self {width : Nat} {a : Bytes} (h : a.length = width) :
    slice 0 width a = a := by
  subst h
  simp [slice]

/-- A field that begins behind the first `n` bytes is found in what follows them. -/
theorem slice_append_of_le {n k width : Nat} {a b : Bytes} (h : a.length = n) (hk : n ≤ k) :
    slice k width (a ++ b) = slice (k - n) width b := by
  subst h
  rw [slice, slice, List.drop_append, List.drop_eq_nil_of_le hk, List.nil_append]

theorem length_slice {k width : Nat} {bs : Bytes} (h : k + width ≤ bs.length) :
    (slice k width bs).length = width := by
  rw [slice, List.length_take, List.length_drop]
  omega

theorem slice_zero_append_slice {n m : Nat} {bs : Bytes} (h : bs.length = n + m) :
    slice 0 n bs ++ slice n m bs = bs := by
  have hrest : (bs.drop n).length ≤ m := by
    rw [List.length_drop]
    omega
  rw [slice, slice, List.drop_zero, List.take_of_length_le hrest, List.take_append_drop]

/-- Two fields that follow one another are one field. -/
theorem slice_append_slice (k n m : Nat) (bs : Bytes) :
    slice k n bs ++ slice (k + n) m bs = slice k (n + m) bs := by
  rw [slice, slice, slice, List.take_add, List.drop_drop]

/-- A field that ends within the first `n` bytes is found in them. -/
theorem slice_take {k width n : Nat} (h : k + width ≤ n) (bs : Bytes) :
    slice k width (bs.take n) = slice k width bs := by
  rw [slice, slice, List.drop_take, List.take_take, Nat.min_eq_left (by omega)]

/-! ### Elements of one length -/

theorem length_flatten_of_forall {stride : Nat} :
    ∀ {elements : List Bytes}, (∀ e ∈ elements, e.length = stride) →
      elements.flatten.length = elements.length * stride
  | [], _ => by simp
  | e :: es, h => by
    rw [List.flatten_cons, List.length_append, h e List.mem_cons_self,
      length_flatten_of_forall fun e' he' => h e' (List.mem_cons_of_mem e he'), List.length_cons,
      Nat.succ_mul, Nat.add_comm]

/-- Elements of one length are found again in their concatenation. -/
theorem strides_flatten {stride : Nat} :
    ∀ {elements : List Bytes}, (∀ e ∈ elements, e.length = stride) →
      strides stride elements.length elements.flatten = elements
  | [], _ => rfl
  | e :: es, h => by
    have he : e.length = stride := h e List.mem_cons_self
    have hes := strides_flatten fun e' he' => h e' (List.mem_cons_of_mem e he')
    rw [List.length_cons, strides, List.flatten_cons, List.take_left' he, List.drop_left' he, hes]

/-- Bytes that are cut into pieces are the concatenation of the pieces. -/
theorem flatten_strides {stride : Nat} :
    ∀ {count : Nat} {bs : Bytes}, bs.length = count * stride →
      (strides stride count bs).flatten = bs
  | 0, bs, h => by
    rw [Nat.zero_mul] at h
    rw [List.length_eq_zero_iff.mp h]
    rfl
  | count + 1, bs, h => by
    rw [Nat.succ_mul] at h
    rw [strides, List.flatten_cons, flatten_strides (by rw [List.length_drop]; omega),
      List.take_append_drop]

theorem length_of_mem_strides {stride : Nat} :
    ∀ {count : Nat} {bs : Bytes}, bs.length = count * stride →
      ∀ e ∈ strides stride count bs, e.length = stride
  | 0, _, _, e, he => by cases he
  | count + 1, bs, h, e, he => by
    rw [Nat.succ_mul] at h
    rcases List.mem_cons.mp he with rfl | he
    · exact List.length_take_of_le (by omega)
    · exact length_of_mem_strides (by rw [List.length_drop]; omega) e he

end SwitchTrace
