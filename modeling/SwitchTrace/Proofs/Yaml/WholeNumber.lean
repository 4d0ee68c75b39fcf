import SwitchTrace.Proofs.Export.JsonNumber
import SwitchTrace.Proofs.Numeric.Division
import SwitchTrace.Proofs.Text.Numeral
import SwitchTrace.Yaml.Plain

/-!
# Whole numbers as plain scalars

A positive whole number is written with its decimal digits, or with a point and a zero after them.
The one is read as a whole number and the other as a number of the format, and up to `2 ^ 53` the
two are the same number.

## Main results

* `Yaml.PlainKind.of_digits`, `Yaml.PlainKind.of_point` — the kinds of the two texts.
* `Yaml.plainValue_digits`, `Yaml.plainValue_point` — what they stand for.
-/

namespace SwitchTrace.Yaml

open Json (IsLeading)

/-! ### Digits -/

theorem ne_of_isDigit {c d : Char} (hc : c.isDigit = true) (hd : d.isDigit = false) : c ≠ d := by
  rintro rfl
  rw [hc] at hd
  cases hd

theorem toLower_of_isDigit {c : Char} (h : c.isDigit = true) : c.toLower = c := by
  have hle : c.val ≤ '9'.val := by
    simp only [Char.isDigit, Bool.and_eq_true, decide_eq_true_eq] at h
    exact h.2
  have hcapital : ¬ (c.val ≥ 'A'.val ∧ c.val ≤ 'Z'.val) := fun hc =>
    absurd (UInt32.le_trans hc.1 hle) (by decide)
  exact dif_neg hcapital

/-- A text that begins with a digit is none of the words that begin otherwise. -/
theorem notMem_of_head?_isDigit {words : List String} {text : String}
    (hwords : ∀ w ∈ words, w.toList.head?.any Char.isDigit = false)
    (htext : text.toList.head?.any Char.isDigit = true) : text ∉ words := by
  intro hmem
  rw [hwords text hmem] at htext
  cases htext

/-- What has no separator is one part. -/
theorem parts_eq_singleton {separator : Char} {cs : List Char} (h : ∀ c ∈ cs, c ≠ separator) :
    parts separator cs = [cs] := by
  induction cs with
  | nil => rfl
  | cons c cs ih =>
    rw [parts, if_neg (h c List.mem_cons_self), ih fun c' hc' => h c' (List.mem_cons_of_mem c hc')]

section Leading

variable {ds : List Char} (h : IsLeading ds)
include h

theorem exists_cons_of_isLeading : ∃ d rest, ds = d :: rest ∧ d.isDigit = true ∧ d ≠ '0' ∧
    rest.all isDigitOrUnderscore = true := by
  obtain ⟨d, rest, rfl⟩ := List.exists_cons_of_ne_nil h.isDigits.1
  have hall : rest.all isDigitOrUnderscore = true := List.all_eq_true.mpr fun c hc => by
    simp [isDigitOrUnderscore, h.isDigits.2 c (List.mem_cons_of_mem d hc)]
  refine ⟨d, rest, rfl, h.isDigits.2 d List.mem_cons_self, ?_, hall⟩
  rintro rfl
  exact h.head?_ne rfl

theorem ne_of_mem_isLeading {d : Char} (hd : d.isDigit = false) : ∀ c ∈ ds, c ≠ d :=
  fun c hc => ne_of_isDigit (h.isDigits.2 c hc) hd

/-- A number that begins with a digit has no sign. -/
theorem afterSign_append (cs : List Char) : afterSign (ds ++ cs) = ds ++ cs := by
  obtain ⟨d, rest, rfl, hd, -⟩ := exists_cons_of_isLeading h
  rw [List.cons_append]
  unfold afterSign
  split
  · next heq =>
    obtain ⟨rfl, -⟩ := List.cons.inj heq
    cases hd
  · next heq =>
    obtain ⟨rfl, -⟩ := List.cons.inj heq
    cases hd
  · rfl

theorem afterSign_digits : afterSign ds = ds := by
  have hsign := afterSign_append h []
  rwa [List.append_nil] at hsign

theorem withSign_digits (n : Nat) : withSign ds n = n := by
  obtain ⟨d, rest, rfl, hd, -⟩ := exists_cons_of_isLeading h
  have hsign : (d :: rest).head? ≠ some '-' := fun heq =>
    ne_of_isDigit hd rfl (Option.some.inj heq)
  rw [withSign, if_neg hsign]

/-! ### Forms -/

/-- Digits have no point. -/
theorem isFloat_digits : isFloat ds = false := by
  have hpoint : ds.dropWhile (· != '.') = [] :=
    List.dropWhile_eq_nil_iff.mpr fun c hc => bne_iff_ne.mpr (ne_of_mem_isLeading h rfl c hc)
  rw [isFloat, afterSign_digits h, hpoint]

theorem isFloat_point : isFloat (ds ++ ['.', '0']) = true := by
  have hpoint : ∀ c ∈ ds, (c != '.') = true := fun c hc =>
    bne_iff_ne.mpr (ne_of_mem_isLeading h rfl c hc)
  have hdigits : isDigits ds = true := by
    obtain ⟨d, rest, rfl, hd, -, hrest⟩ := exists_cons_of_isLeading h
    rw [isDigits, hd, hrest, Bool.and_self]
  have hfraction : isFraction ['0'] = true := by decide
  rw [isFloat, afterSign_append h, List.takeWhile_append_of_pos hpoint,
    List.dropWhile_append_of_pos hpoint]
  simp [hdigits, hfraction]

theorem isIntBody_digits : isIntBody ds = true := by
  obtain ⟨d, rest, rfl, hd, hzero, hrest⟩ := exists_cons_of_isLeading h
  have hpositive : isPositiveDigits (d :: rest) = true := by
    simp [isPositiveDigits, hd, hzero, hrest]
  unfold isIntBody
  split
  · rfl
  · next heq => exact absurd (List.cons.inj heq).1 hzero
  · next heq => exact absurd (List.cons.inj heq).1 hzero
  · next heq => exact absurd (List.cons.inj heq).1 hzero
  · rw [hpositive, Bool.true_or]

/-- A text that begins with a digit is no word for nothing or for a truth value. -/
theorem notMem_words {text : String} (htext : ds <+: text.toList) :
    text ∉ nullWords ∧ text ∉ trueWords ∧ text ∉ falseWords := by
  obtain ⟨d, rest, rfl, hd, -⟩ := exists_cons_of_isLeading h
  have hhead : text.toList.head?.any Char.isDigit = true := by
    obtain ⟨cs, hcs⟩ := htext
    rw [← hcs, List.cons_append, List.head?_cons, Option.any_some, hd]
  exact ⟨notMem_of_head?_isDigit (by decide) hhead, notMem_of_head?_isDigit (by decide) hhead,
    notMem_of_head?_isDigit (by decide) hhead⟩

theorem PlainKind.of_digits {text : String} (htext : text.toList = ds) :
    PlainKind.of text = .int := by
  obtain ⟨hnull, htrue, hfalse⟩ :=
    notMem_words h (htext.symm ▸ List.prefix_rfl : ds <+: text.toList)
  simp [PlainKind.of, hnull, htrue, hfalse, htext, isFloat_digits h, afterSign_digits h,
    isIntBody_digits h]

theorem PlainKind.of_point {text : String} (htext : text.toList = ds ++ ['.', '0']) :
    PlainKind.of text = .float := by
  obtain ⟨hnull, htrue, hfalse⟩ := notMem_words h ⟨['.', '0'], htext.symm⟩
  simp [PlainKind.of, hnull, htrue, hfalse, htext, isFloat_point h]

/-! ### Values -/

/-- Digits that begin with no zero are in base ten. -/
theorem naturalValue_digits (hlength : ds.length ≤ digitLimit) :
    naturalValue ds = .ok (Decimal.ofDigits ds) := by
  have hparts : parts ':' ds = [ds] := parts_eq_singleton (ne_of_mem_isLeading h rfl)
  have hnumber : decimalNumber ds = .ok (Decimal.ofDigits ds) := by
    rw [decimalNumber, if_neg (Nat.not_lt.mpr hlength)]
  obtain ⟨d, rest, rfl, -, hzero, -⟩ := exists_cons_of_isLeading h
  unfold naturalValue
  split
  · next heq => exact absurd (List.cons.inj heq).1 hzero
  · next heq => exact absurd (List.cons.inj heq).1 hzero
  · next heq => exact absurd (List.cons.inj heq).1 hzero
  · next heq => exact absurd (List.cons.inj heq).1 hzero
  · rw [hparts, List.mapM_cons, hnumber]
    simp [bind, Except.bind, pure, Except.pure, Decimal.ofDigitsIn]

/-- Digits with a point have no capital letters. -/
theorem map_toLower_point : (ds ++ ['.', '0']).map Char.toLower = ds ++ ['.', '0'] := by
  have hdigits : ds.map Char.toLower = ds := by
    conv_rhs => rw [← List.map_id ds]
    exact List.map_congr_left fun c hc => toLower_of_isDigit (h.isDigits.2 c hc)
  rw [List.map_append, hdigits]
  rfl

/-- Digits with a point have neither underscores nor colons. -/
theorem forall_mem_point {d : Char} (hd : d.isDigit = false) (hpoint : d ≠ '.') :
    ∀ c ∈ ds ++ ['.', '0'], c ≠ d := by
  intro c hc
  rcases List.mem_append.mp hc with hc | hc
  · exact ne_of_mem_isLeading h hd c hc
  · rcases List.mem_pair.mp hc with rfl | rfl
    · exact hpoint.symm
    · exact ne_of_isDigit rfl hd

/-- Digits with a point are a number in base ten. -/
theorem floatSize_point :
    floatSize (ds ++ ['.', '0']) = .ok (floatOfDigits (ds ++ ['.', '0'])) := by
  have hparts : parts ':' (ds ++ ['.', '0']) = [ds ++ ['.', '0']] :=
    parts_eq_singleton (forall_mem_point h rfl (by decide))
  obtain ⟨d, rest, rfl, hd, -⟩ := exists_cons_of_isLeading h
  have hword {word : String} (hpoint : word.toList.head? = some '.') :
      d :: rest ++ ['.', '0'] ≠ word.toList := by
    intro heq
    rw [← heq, List.cons_append, List.head?_cons] at hpoint
    exact ne_of_isDigit hd rfl (Option.some.inj hpoint)
  rw [floatSize, if_neg (hword (by decide)), if_neg (hword (by decide)), hparts]

theorem floatValue_point :
    floatValue (ds ++ ['.', '0']) = .ok (floatOfDigits (ds ++ ['.', '0'])) := by
  have hscores : (ds ++ ['.', '0']).filter (· != '_') = ds ++ ['.', '0'] :=
    List.filter_eq_self.mpr fun c hc =>
      bne_iff_ne.mpr (forall_mem_point h rfl (by decide) c hc)
  have hsign : (ds ++ ['.', '0']).head? ≠ some '-' := fun heq =>
    forall_mem_point h rfl (by decide) '-' (List.mem_of_mem_head? heq) rfl
  rw [floatValue, hscores, afterSign_append h, map_toLower_point h, floatSize_point h]
  simp only [bind, Except.bind, pure, Except.pure, if_neg hsign]

end Leading

theorem ofDigits_toDigits (n : Nat) : Decimal.ofDigits (Nat.toDigits 10 n) = n := by
  rw [Decimal.ofDigits, Decimal.ofDigitsIn, List.foldl_map]
  exact Nat.ofDigitChars_ten_toDigits

theorem toList_toString_natCast (n : Nat) : (toString (n : Int)).toList = Nat.toDigits 10 n := by
  rw [toList_toString_of_nonneg (Int.natCast_nonneg n), Int.natAbs_natCast]

section Positive

variable {n : Nat} (hn : n ≠ 0) {text : String}
include hn

/-- **The digits of a positive whole number** stand for it. -/
theorem plainValue_digits (hlength : (Nat.toDigits 10 n).length ≤ digitLimit)
    (htext : text.toList = Nat.toDigits 10 n) : plainValue text = .ok (.int n) := by
  have h := Json.isLeading_toDigits hn
  have hscores : (Nat.toDigits 10 n).filter (· != '_') = Nat.toDigits 10 n :=
    List.filter_eq_self.mpr fun c hc => bne_iff_ne.mpr (ne_of_mem_isLeading h rfl c hc)
  rw [plainValue, PlainKind.of_digits h htext]
  simp only [htext, hscores, afterSign_digits h, naturalValue_digits h hlength, ofDigits_toDigits,
    bind, Except.bind, withSign_digits h]
  rfl

/-- The digits of ten times the number are its digits and a zero. -/
theorem toDigits_append_zero : Nat.toDigits 10 n ++ ['0'] = Nat.toDigits 10 (10 * n) := by
  have h := Nat.toDigits_append_toDigits (b := 10) (d := 0) (by decide) (Nat.pos_of_ne_zero hn)
    (by decide)
  rwa [Nat.toDigits_zero, Nat.add_zero] at h

theorem read?_point :
    Decimal.read? (Nat.toDigits 10 n ++ ['.', '0']) = some ⟨10 * n, -1⟩ := by
  have hdigits := (Json.isDigits_toDigits n).2
  have hne : (Nat.toDigits 10 n).isEmpty = false := by
    rw [List.isEmpty_eq_false_iff]
    exact (Json.isDigits_toDigits n).1
  have hvalue : Decimal.ofDigits (Nat.toDigits 10 n ++ ['0']) = 10 * n := by
    rw [toDigits_append_zero hn, ofDigits_toDigits]
  have hwhole : Decimal.splitDigits (Nat.toDigits 10 n ++ ['.', '0']) =
      (Nat.toDigits 10 n, ['.', '0']) := by
    rw [Decimal.splitDigits, List.takeWhile_append_of_pos hdigits,
      List.dropWhile_append_of_pos hdigits]
    simp
  have hfraction : Decimal.splitDigits ['0'] = (['0'], []) := by decide
  simp only [Decimal.read?, hwhole, hfraction, Decimal.ofParts?, hvalue, hne]
  rfl

/-- A whole number with a point and a zero after it is read as the number of the format nearest to
it. -/
theorem floatOfDigits_point (hlength : (Nat.toDigits 10 n).length ≤ 400) {x : Binary64}
    (hx : Binary64.ofInt n = .ok x) :
    floatOfDigits (Nat.toDigits 10 n ++ ['.', '0']) = x := by
  have hten : 10 * n ≠ 0 := Nat.mul_ne_zero (by decide) hn
  have hleading : (-1 + Decimal.digitCount (10 * n) : Int) = (Nat.toDigits 10 n).length := by
    rw [Decimal.digitCount, ← toDigits_append_zero hn, List.length_append, List.length_singleton]
    omega
  have hnum (units : Nat) : 10 * n * power 10 (-1 : Int).toNat * units = n * units * 10 := by
    rw [show power 10 (-1 : Int).toNat = 1 from rfl]
    ring
  have hden : power 10 (-(-1 : Int)).toNat = 1 * 10 := rfl
  have hnearest := Binary64.eq_saturated_of_checked hx
  rw [decide_eq_false (Int.not_lt.mpr (Int.natCast_nonneg n)), Int.natAbs_natCast] at hnearest
  simp only [floatOfDigits, read?_point hn, Decimal.toBinary64, if_neg hten, hleading]
  rw [if_neg (by omega), if_neg (by omega), Binary64.ofUnits, hnum, hden,
    Magnitude.ofRatio?_mul_right Nat.one_pos (by decide), hnearest]

/-- **A positive whole number with a point and a zero after it** stands for the nearest number of
the format. -/
theorem plainValue_point (hlength : (Nat.toDigits 10 n).length ≤ 400) {x : Binary64}
    (hx : Binary64.ofInt n = .ok x) (htext : text.toList = Nat.toDigits 10 n ++ ['.', '0']) :
    plainValue text = .ok (.float x) := by
  have h := Json.isLeading_toDigits hn
  have hvalue : floatValue (Nat.toDigits 10 n ++ ['.', '0']) = .ok x := by
    rw [floatValue_point h, floatOfDigits_point hn hlength hx]
  rw [plainValue, PlainKind.of_point h htext, htext, hvalue]
  rfl

end Positive

end SwitchTrace.Yaml
