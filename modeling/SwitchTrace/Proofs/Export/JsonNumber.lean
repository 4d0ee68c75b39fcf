import Mathlib.Data.List.DropRight
import SwitchTrace.Proofs.Export.Grammar
import SwitchTrace.Proofs.Numeric.Shortest

/-!
# Numbers of JSON texts

The text of a whole number, and that of a finite number of the format, is a number of the grammar:
it begins with no zero that it can do without, and has digits on both sides of a point and in an
exponent. For the numbers of the format this rests on their shortest decimal number not being zero.

## Main results

* `Json.isNumber_toString` — whole numbers.
* `Json.isUnsigned_renderMagnitude`, `Json.isNumber_render` — numbers of the format.
-/

namespace SwitchTrace.Json

/-! ### Digits -/

theorem IsDigits.append {cs cs' : List Char} (h : IsDigits cs) (h' : ∀ c ∈ cs', c.isDigit = true) :
    IsDigits (cs ++ cs') :=
  ⟨List.append_ne_nil_of_left_ne_nil h.1 cs',
    fun c hc => (List.mem_append.mp hc).elim (h.2 c) (h' c)⟩

theorem isDigit_of_mem_replicate {n : Nat} {c : Char} (h : c ∈ List.replicate n '0') :
    c.isDigit = true := by
  rw [(List.mem_replicate.mp h).2]
  decide

theorem isDigits_toDigits (n : Nat) : IsDigits (Nat.toDigits 10 n) :=
  ⟨Nat.toDigits_ne_nil, fun _ hc => Nat.isDigit_of_mem_toDigits (by decide) (by decide) hc⟩

/-- The digits of a number other than zero do not begin with a zero. -/
theorem head?_toDigits_ne {n : Nat} (hn : n ≠ 0) : (Nat.toDigits 10 n).head? ≠ some '0' := by
  induction n using Nat.strongRecOn with
  | ind n ih =>
    rw [Nat.toDigits_eq_if (by decide)]
    split
    · simpa using hn
    · -- The first digit is that of the number without its last digit.
      have hrest : n / 10 ≠ 0 := by omega
      rw [List.head?_append_of_ne_nil _ Nat.toDigits_ne_nil]
      exact ih (n / 10) (by omega) hrest

theorem isWhole_toDigits (n : Nat) : IsWhole (Nat.toDigits 10 n) := by
  refine ⟨isDigits_toDigits n, fun hhead => ?_⟩
  by_cases hn : n = 0
  · rw [hn, Nat.toDigits_zero]
  · exact absurd hhead (head?_toDigits_ne hn)

/-- Digits that do not begin with a zero. -/
structure IsLeading (ds : List Char) : Prop where
  isDigits : IsDigits ds
  head?_ne : ds.head? ≠ some '0'

theorem IsLeading.isWhole {ds : List Char} (h : IsLeading ds) : IsWhole ds :=
  ⟨h.isDigits, fun hhead => absurd hhead h.head?_ne⟩

theorem IsLeading.append {ds ds' : List Char} (h : IsLeading ds)
    (h' : ∀ d ∈ ds', d.isDigit = true) : IsLeading (ds ++ ds') :=
  ⟨h.isDigits.append h', by rw [List.head?_append_of_ne_nil _ h.isDigits.1]; exact h.head?_ne⟩

/-- The first of such digits are such digits, unless there are none of them. -/
theorem IsLeading.front {ds ds' : List Char} (h : IsLeading ds) (hfront : ds' <+: ds)
    (hne : ds' ≠ []) : IsLeading ds' := by
  obtain ⟨rest, rfl⟩ := hfront
  refine ⟨⟨hne, fun d hd => h.isDigits.2 d (List.mem_append_left rest hd)⟩, ?_⟩
  rw [← List.head?_append_of_ne_nil ds' hne]
  exact h.head?_ne

theorem isLeading_toDigits {n : Nat} (hn : n ≠ 0) : IsLeading (Nat.toDigits 10 n) :=
  ⟨isDigits_toDigits n, head?_toDigits_ne hn⟩

/-- The digits of a number other than zero are not all zeros. -/
theorem rdropWhile_toDigits_ne_nil {n : Nat} (hn : n ≠ 0) :
    (Nat.toDigits 10 n).rdropWhile (· == '0') ≠ [] := by
  rw [Ne, List.rdropWhile_eq_nil_iff]
  intro hzeros
  obtain ⟨d, ds, hds⟩ := List.exists_cons_of_ne_nil (isDigits_toDigits n).1
  have hd : d = '0' := by simpa using hzeros d (hds ▸ List.mem_cons_self)
  exact head?_toDigits_ne hn (by rw [hds, hd, List.head?_cons])

/-- Without the zeros at their end, the digits of a number other than zero do not begin with a zero
either. -/
theorem isLeading_significantDigits {n : Nat} (hn : n ≠ 0) :
    IsLeading (FloatStyle.significantDigits n) := by
  have hne := rdropWhile_toDigits_ne_nil hn
  have htrimmed : FloatStyle.significantDigits n =
      (Nat.toDigits 10 n).rdropWhile (· == '0') := by
    obtain ⟨d, ds, hds⟩ := List.exists_cons_of_ne_nil hne
    rw [hds]
    unfold FloatStyle.significantDigits
    rw [List.rdropWhile] at hds
    simp only [hds]
  rw [htrimmed]
  exact (isLeading_toDigits hn).front (List.rdropWhile_prefix _ _) hne

/-! ### Whole numbers -/

theorem IsWhole.isUnsigned {ds : List Char} (h : IsWhole ds) : IsUnsigned ds := by
  have hnumber := IsUnsigned.mk h .none .none
  rwa [List.append_nil, List.append_nil] at hnumber

/-- The text of a whole number is a number. -/
theorem isNumber_toString (n : Int) : IsNumber (toString n).toList := by
  rw [Int.toString_eq_repr, Int.repr_eq_if]
  split
  · rw [Nat.toList_repr]
    exact .positive (isWhole_toDigits _).isUnsigned
  · rw [String.toList_append, Nat.toList_repr]
    exact .negative (isWhole_toDigits _).isUnsigned

/-! ### Numbers of the format -/

/-- Digits with a point among them are a number. -/
theorem isUnsigned_point {whole fraction : List Char} (hwhole : IsWhole whole)
    (hfraction : IsDigits fraction) : IsUnsigned (whole ++ '.' :: fraction) := by
  have hnumber := IsUnsigned.mk hwhole (.point hfraction) .none
  rwa [List.append_nil] at hnumber

theorem isWhole_zero : IsWhole ['0'] := isWhole_toDigits 0

theorem isUnsigned_positional {ds : List Char} (h : IsLeading ds) (leading : Int) :
    IsUnsigned (FloatStyle.positional ds leading) := by
  unfold FloatStyle.positional
  split
  · refine isUnsigned_point isWhole_zero ⟨List.append_ne_nil_of_right_ne_nil _ h.isDigits.1, ?_⟩
    intro d hd
    exact (List.mem_append.mp hd).elim isDigit_of_mem_replicate (h.isDigits.2 d)
  · -- The digits before the point, filled up with zeros, begin as all of them do.
    have hwhole : IsWhole (ds.take (leading.toNat + 1) ++
        List.replicate (leading.toNat + 1 - ds.length) '0') := by
      refine ((h.front (List.take_prefix _ _) ?_).append
        fun d hd => isDigit_of_mem_replicate hd).isWhole
      simpa using h.isDigits.1
    dsimp only
    split
    · exact isUnsigned_point hwhole isWhole_zero.1
    · next hfraction =>
      refine isUnsigned_point hwhole ⟨hfraction, fun d hd => ?_⟩
      exact h.isDigits.2 d (List.mem_of_mem_drop hd)

theorem isExponent_exponentText (e : Int) : IsExponent ('e' :: FloatStyle.exponentText e) := by
  unfold FloatStyle.exponentText
  have hdigits := isDigits_toDigits e.natAbs
  have hpadded : IsDigits (if (Nat.toDigits 10 e.natAbs).length < 2
      then '0' :: Nat.toDigits 10 e.natAbs else Nat.toDigits 10 e.natAbs) := by
    split
    · exact isWhole_zero.1.append hdigits.2
    · exact hdigits
  dsimp only
  split
  · exact .mark (.inl rfl) (.inr (.inr rfl)) hpadded
  · exact .mark (.inl rfl) (.inr (.inl rfl)) hpadded

theorem isUnsigned_scientific {ds : List Char} (h : IsLeading ds) (leading : Int) :
    IsUnsigned (FloatStyle.scientific .json ds leading) := by
  unfold FloatStyle.scientific
  have hexponent := isExponent_exponentText leading
  cases ds with
  | nil => exact absurd rfl h.isDigits.1
  | cons d rest =>
    have hfirst : IsWhole [d] :=
      (h.front (List.prefix_append [d] rest) (List.cons_ne_nil d [])).isWhole
    cases rest with
    | nil => exact .mk hfirst .none hexponent
    | cons d' rest =>
      refine .mk hfirst (.point ⟨List.cons_ne_nil d' rest, fun c hc => ?_⟩) hexponent
      exact h.isDigits.2 c (List.mem_cons_of_mem d hc)

/-- **The text of a magnitude is a number.** -/
theorem isUnsigned_renderMagnitude (m : Magnitude) :
    IsUnsigned (FloatStyle.renderMagnitude .json m) := by
  unfold FloatStyle.renderMagnitude
  dsimp only
  split
  · exact isUnsigned_point isWhole_zero isWhole_zero.1
  · next hm =>
    have hleading := isLeading_significantDigits (Decimal.digits_shortest_ne_zero hm)
    split
    · exact isUnsigned_positional hleading _
    · exact isUnsigned_scientific hleading _

/-- **The text of a finite number of the format is a number.** -/
theorem isNumber_render {x : Binary64} (h : x.isFinite = true) :
    IsNumber (FloatStyle.json.render x).toList := by
  match x, h with
  | .finite false m, _ =>
    rw [FloatStyle.render, String.toList_ofList]
    exact .positive (isUnsigned_renderMagnitude m)
  | .finite true m, _ =>
    rw [FloatStyle.render, String.toList_ofList]
    exact .negative (isUnsigned_renderMagnitude m)

end SwitchTrace.Json
