import SwitchTrace.Proofs.Export.JsonText
import SwitchTrace.Yaml.Writer

/-!
# Characters of written YAML texts

A written text consists of newlines and of the printable characters of ASCII, whatever characters
its values have. A text with another character stands in double quotes, where such a character is
escaped, and everything that is not a text is written with digits, a few letters and signs. What is
written can therefore stand in a YAML text, each of its characters is one byte, and its line ends
are newlines already.

## Main definitions

* `Yaml.Ordinary` — characters that need no escape.
* `Yaml.Writer.Printed` — a text written so far that has no others.

## Main results

* `Yaml.ordinary_wordOf` — scalars that are no texts.
* `Yaml.ordinary_of_escaped?` — escapes.
* `Yaml.Writer.Printed.scalar`, `Yaml.Writer.Printed.value` — what is written for a scalar and for a
  value.
* `Yaml.ordinary_write` — the text of a mapping.
-/

namespace SwitchTrace.Yaml

/-! ### Ordinary characters -/

/-- All characters are newlines or printable ones of ASCII. -/
def Ordinary (cs : List Char) : Prop := ∀ c ∈ cs, isSpecial c = false

instance (cs : List Char) : Decidable (Ordinary cs) :=
  List.decidableBAll (fun c => isSpecial c = false) cs

section Lists

variable {c : Char} {cs cs' : List Char}

@[simp] theorem ordinary_nil : Ordinary [] := List.forall_mem_nil _

@[simp] theorem ordinary_cons : Ordinary (c :: cs) ↔ isSpecial c = false ∧ Ordinary cs :=
  List.forall_mem_cons

@[simp] theorem ordinary_append : Ordinary (cs ++ cs') ↔ Ordinary cs ∧ Ordinary cs' :=
  List.forall_mem_append

@[simp] theorem ordinary_reverse : Ordinary cs.reverse ↔ Ordinary cs := by
  simp only [Ordinary, List.mem_reverse]

theorem Ordinary.subset (h : Ordinary cs) (hsub : cs' ⊆ cs) : Ordinary cs' := fun c hc =>
  h c (hsub hc)

theorem ordinary_replicate {n : Nat} (hc : isSpecial c = false) :
    Ordinary (List.replicate n c) := fun d hd => by
  rwa [List.eq_of_mem_replicate hd]

end Lists

theorem isSpecial_eq_false_iff {c : Char} :
    isSpecial c = false ↔ c = '\n' ∨ ' ' ≤ c ∧ c ≤ '~' := by
  rw [isSpecial, Bool.not_eq_false', Bool.or_eq_true, Bool.and_eq_true]
  simp only [decide_eq_true_eq]

theorem not_isSpecial_of_le {a b c : Char} (ha : ' ' ≤ a) (hb : b ≤ '~') (h : a ≤ c ∧ c ≤ b) :
    isSpecial c = false :=
  isSpecial_eq_false_iff.mpr (.inr ⟨UInt32.le_trans ha h.1, UInt32.le_trans h.2 hb⟩)

theorem not_isSpecial_toUpper {c : Char} (h : isSpecial c = false) :
    isSpecial c.toUpper = false := by
  have hlt : c.toNat < 127 := by
    rcases isSpecial_eq_false_iff.mp h with rfl | ⟨-, hhigh⟩
    · decide
    · exact Nat.lt_succ_of_le hhigh
  have hall : ∀ n < 127, isSpecial (Char.ofNat n) = false →
      isSpecial (Char.ofNat n).toUpper = false := by decide
  have hc := hall c.toNat hlt
  rw [Char.ofNat_toNat] at hc
  exact hc h

/-! ### Scalars that are no texts -/

theorem ordinary_zeros (n : Nat) : Ordinary (List.replicate n '0') := ordinary_replicate rfl

theorem ordinary_toDigits (n : Nat) : Ordinary (Nat.toDigits 10 n) := by
  intro c hc
  have hdigit := (Json.isDigits_toDigits n).2 c hc
  simp only [Char.isDigit, Bool.and_eq_true, decide_eq_true_eq] at hdigit
  exact not_isSpecial_of_le (by decide : ' ' ≤ '0') (by decide : '9' ≤ '~') hdigit

theorem ordinary_toString (n : Int) : Ordinary (toString n).toList := by
  rw [Int.toString_eq_repr, Int.repr_eq_if]
  split
  · rw [Nat.toList_repr]
    exact ordinary_toDigits _
  · rw [String.toList_append, Nat.toList_repr, ordinary_append]
    exact ⟨by decide, ordinary_toDigits _⟩

theorem ordinary_significantDigits (n : Nat) : Ordinary (FloatStyle.significantDigits n) := by
  unfold FloatStyle.significantDigits
  dsimp only
  split
  · decide
  · refine (ordinary_toDigits n).subset fun c hc => ?_
    exact List.mem_reverse.mp ((List.dropWhile_sublist _).subset (List.mem_reverse.mp hc))

theorem ordinary_exponentText (e : Int) : Ordinary (FloatStyle.exponentText e) := by
  have hdigits := ordinary_toDigits e.natAbs
  unfold FloatStyle.exponentText
  dsimp only
  rw [ordinary_cons]
  refine ⟨by split <;> rfl, ?_⟩
  split
  · exact ordinary_cons.mpr ⟨rfl, hdigits⟩
  · exact hdigits

theorem ordinary_positional {ds : List Char} (h : Ordinary ds) (leading : Int) :
    Ordinary (FloatStyle.positional ds leading) := by
  have hwhole (n : Nat) : Ordinary (ds.take n) := h.subset (List.take_subset n ds)
  have hfraction (n : Nat) : Ordinary (ds.drop n) := h.subset (List.drop_subset n ds)
  unfold FloatStyle.positional
  dsimp only
  split
  · simp [isSpecial, ordinary_zeros, h]
  · split
    · simp [isSpecial, ordinary_zeros, hwhole]
    · simp [isSpecial, ordinary_zeros, hwhole, hfraction]

theorem ordinary_scientific {ds : List Char} (h : Ordinary ds) (leading : Int)
    (style : FloatStyle) : Ordinary (FloatStyle.scientific style ds leading) := by
  unfold FloatStyle.scientific
  dsimp only
  rw [ordinary_append, ordinary_cons]
  refine ⟨?_, rfl, ordinary_exponentText leading⟩
  split
  · split <;> simp_all [isSpecial]
  · simp_all [isSpecial]
  · exact ordinary_nil

theorem ordinary_renderMagnitude (m : Magnitude) (style : FloatStyle) :
    Ordinary (FloatStyle.renderMagnitude style m) := by
  have hdigits := ordinary_significantDigits (Decimal.shortest m).digits
  unfold FloatStyle.renderMagnitude
  dsimp only
  split
  · decide
  · split
    · exact ordinary_positional hdigits _
    · exact ordinary_scientific hdigits _ _

theorem ordinary_render (x : Binary64) : Ordinary (FloatStyle.yaml.render x).toList := by
  match x with
  | .nan => decide
  | .infinity false => decide
  | .infinity true => decide
  | .finite false m =>
    rw [FloatStyle.render, String.toList_ofList]
    exact ordinary_renderMagnitude m _
  | .finite true m =>
    rw [FloatStyle.render, String.toList_ofList, ordinary_cons]
    exact ⟨rfl, ordinary_renderMagnitude m _⟩

theorem ordinary_decimal (width n : Nat) : Ordinary (Pad.decimal width n).toList := by
  simp [Pad.decimal, Pad.leftWith, Nat.toList_repr, ordinary_zeros, ordinary_toDigits]

theorem ordinary_dayText (d : Day) : Ordinary d.text.toList := by
  simp [Day.text, ordinary_decimal, isSpecial]

theorem ordinary_offsetText (o : Offset) : Ordinary o.text.toList := by
  simp only [Offset.text, String.toList_append, ordinary_append, ordinary_decimal, and_true]
  exact ⟨by split <;> decide, by decide⟩

theorem ordinary_momentText (m : Moment) : Ordinary m.text.toList := by
  simp only [Moment.text, String.toList_append, ordinary_append, ordinary_decimal,
    ordinary_dayText, and_true, true_and]
  refine ⟨⟨⟨by decide, by decide⟩, ?_⟩, ?_⟩
  · split
    · decide
    · simp [ordinary_decimal, isSpecial]
  · split
    · decide
    · exact ordinary_offsetText _

/-! ### Texts -/

/-- A text that can be plain, or in single quotes, has ordinary characters only. -/
theorem ordinary_of_analyze {text : String}
    (h : (analyze text).plain = true ∨ (analyze text).single = true) : Ordinary text.toList := by
  have hspecial : text.toList.any isSpecial = false := by
    rcases h with h | h <;>
      simp only [analyze, Bool.not_eq_true', Bool.or_eq_false_iff] at h <;> tauto
  intro c hc
  exact Bool.eq_false_iff.mpr (List.any_eq_false.mp hspecial c hc)

theorem ordinary_hexNat (width n : Nat) :
    Ordinary ((Pad.hexNat width n).toList.map Char.toUpper) := by
  have hdigit (c : Char) (hc : Json.IsHexDigit c) : isSpecial c = false := by
    rcases hc with hc | hc | hc
    · exact not_isSpecial_of_le (by decide : ' ' ≤ '0') (by decide : '9' ≤ '~') hc
    · exact not_isSpecial_of_le (by decide : ' ' ≤ 'a') (by decide : 'f' ≤ '~') hc
    · exact not_isSpecial_of_le (by decide : ' ' ≤ 'A') (by decide : 'F' ≤ '~') hc
  have hdigits : Ordinary (Pad.hexNat width n).toList := by
    have htoDigits : Ordinary (Nat.toDigits 16 n) := fun c hc =>
      hdigit c (Json.isHexDigit_of_mem_toDigits hc)
    simp [Pad.hexNat, Pad.leftWith, Pad.hexDigits, ordinary_zeros, htoDigits]
  intro d hd
  obtain ⟨c, hc, rfl⟩ := List.mem_map.mp hd
  exact not_isSpecial_toUpper (hdigits c hc)

namespace Writer

/-- **The text of a scalar that is no text** has ordinary characters only. -/
theorem ordinary_wordOf {s : Scalar} (hs : ∀ t, s ≠ .text t) : Ordinary (wordOf s).toList := by
  match s with
  | .null => decide
  | .bool true => decide
  | .bool false => decide
  | .int n => exact ordinary_toString n
  | .float x => exact ordinary_render x
  | .text t => exact absurd rfl (hs t)
  | .day d => exact ordinary_dayText d
  | .moment m => exact ordinary_momentText m

/-- Escapes have ordinary characters only. -/
theorem ordinary_of_escaped? {c : Char} {cs : List Char} (h : escaped? c = some cs) :
    Ordinary cs := by
  have hnumbered (letter : Char) (hletter : isSpecial letter = false) (count : Nat) :
      Ordinary ('\\' :: letter :: (Pad.hexNat count c.toNat).toList.map Char.toUpper) := by
    rw [ordinary_cons, ordinary_cons]
    exact ⟨rfl, hletter, ordinary_hexNat count c.toNat⟩
  simp only [escaped?] at h
  split at h
  · next d heq =>
    cases h
    split at heq <;> cases heq <;> decide
  · split at h
    · cases h
    · split at h
      · cases h
        exact hnumbered 'x' rfl 2
      · split at h
        · cases h
          exact hnumbered 'u' rfl 4
        · cases h
          exact hnumbered 'U' rfl 8

/-- What is not escaped is an ordinary character. -/
theorem not_isSpecial_of_escaped? {c : Char} (h : escaped? c = none) : isSpecial c = false := by
  simp only [escaped?] at h
  split at h
  · cases h
  · split at h
    · next hc => exact isSpecial_eq_false_iff.mpr (.inr hc)
    · split at h
      · cases h
      · split at h <;> cases h

/-! ### Writing -/

/-- Only ordinary characters are written so far. -/
def Printed (w : Writer) : Prop := Ordinary w.written

variable {w : Writer} {cs : List Char} {indent : Nat}

theorem Printed.put (h : w.Printed) (hcs : Ordinary cs) : (w.put cs).Printed :=
  ordinary_append.mpr ⟨ordinary_reverse.mpr hcs, h⟩

theorem Printed.blanks (h : w.Printed) (n : Nat) : (w.put (List.replicate n ' ')).Printed :=
  h.put (ordinary_replicate rfl)

theorem Printed.breakLine (h : w.Printed) : w.breakLine.Printed := ordinary_cons.mpr ⟨rfl, h⟩

theorem Printed.inText (h : w.Printed) : w.inText.Printed := h

theorem Printed.indentTo (h : w.Printed) (indent : Nat) : (w.indentTo indent).Printed := by
  unfold Writer.indentTo
  dsimp only
  split <;> split
  · exact h.breakLine.blanks _
  · exact h.breakLine
  · exact h.blanks _
  · exact h

theorem Printed.indicator (h : w.Printed) {s : String} (hs : Ordinary s.toList)
    (needsBlank indents : Bool) : (w.indicator s needsBlank indents).Printed := by
  have hcs : Ordinary (if w.spaced || !needsBlank then s.toList else ' ' :: s.toList) := by
    split
    · exact hs
    · exact ordinary_cons.mpr ⟨rfl, hs⟩
  exact h.put hcs

/-- The characters of a run. -/
def Run.chars : Run → List Char
  | .blanks n => List.replicate n ' '
  | .breaks cs => cs
  | .word cs => cs

/-- The runs of a text make up the text. -/
theorem flatMap_chars_runs (cs : List Char) : (runs cs).flatMap Run.chars = cs := by
  induction cs with
  | nil => rfl
  | cons c rest ih =>
    rw [runs]
    generalize runs rest = more at ih
    subst ih
    -- The character belongs to the first run after it, or is a run by itself.
    split
    · next hblank =>
      subst hblank
      split <;> simp [Run.chars, List.replicate_succ]
    · split <;> split <;> simp [Run.chars]

theorem ordinary_chars_of_mem_runs (h : Ordinary cs) : ∀ r ∈ runs cs, Ordinary r.chars := by
  intro r hr
  refine h.subset fun c hc => ?_
  rw [← flatMap_chars_runs cs]
  exact List.mem_flatMap_of_mem hr hc

theorem Printed.putBlanks (h : w.Printed) (indent count : Nat) (folds : Bool) :
    (w.putBlanks indent count folds).Printed := by
  unfold Writer.putBlanks
  split
  · exact h.indentTo indent
  · exact h.blanks count

theorem Printed.putPlainRuns {rs : List Run} (h : w.Printed) (hrs : ∀ r ∈ rs, Ordinary r.chars)
    (split : Bool) : (w.putPlainRuns indent split rs).Printed := by
  induction rs generalizing w with
  | nil => exact h
  | cons r rs ih =>
    rw [List.forall_mem_cons] at hrs
    cases r with
    | blanks n =>
      have hblanks := h.putBlanks indent n split
      rw [Writer.putPlainRuns]
      refine ih ?_ hrs.2
      split
      · exact hblanks.inText
      · exact hblanks
    | breaks cs => exact ih (h.put hrs.1) hrs.2
    | word cs => exact ih (h.put hrs.1) hrs.2

theorem Printed.plain (h : w.Printed) {text : String} (htext : Ordinary text.toList)
    (split : Bool) : (w.plain indent split text).Printed := by
  have hspaced : (if w.spaced then w else w.put [' ']).Printed := by
    split
    · exact h
    · exact h.blanks 1
  exact hspaced.inText.putPlainRuns (ordinary_chars_of_mem_runs htext) split

theorem Printed.putBreaks (h : w.Printed) (hcs : Ordinary cs) :
    (w.putBreaks indent cs).Printed := by
  have hfold (w : Writer) (h : w.Printed) :
      (cs.foldl (fun w c => w.breakLineWith c) w).Printed := by
    induction cs generalizing w with
    | nil => exact h
    | cons c cs ih =>
      rw [ordinary_cons] at hcs
      exact ih hcs.2 _ (ordinary_cons.mpr ⟨hcs.1, h⟩)
  unfold Writer.putBreaks
  refine (hfold _ ?_).indentTo indent
  split
  · exact h.breakLine
  · exact h

theorem Printed.putSingleRuns {rs : List Run} (h : w.Printed) (hrs : ∀ r ∈ rs, Ordinary r.chars)
    (split first : Bool) : (w.putSingleRuns indent split first rs).Printed := by
  induction rs generalizing w first with
  | nil => exact h
  | cons r rs ih =>
    rw [List.forall_mem_cons] at hrs
    cases r with
    | blanks n => exact ih (h.putBlanks indent n _) hrs.2 false
    | breaks cs => exact ih (h.putBreaks hrs.1) hrs.2 false
    | word cs =>
      refine ih (h.put ?_) hrs.2 false
      intro d hd
      obtain ⟨c, hc, hd⟩ := List.mem_flatMap.mp hd
      have hordinary := hrs.1 c hc
      split at hd <;> simp_all

theorem Printed.single (h : w.Printed) {text : String} (htext : Ordinary text.toList)
    (split : Bool) : (w.single indent split text).Printed :=
  ((h.indicator (by decide) true false).putSingleRuns (ordinary_chars_of_mem_runs htext)
    split true).indicator (by decide) false false

theorem Printed.foldDouble (h : w.Printed) (next : Option Char) :
    (w.foldDouble indent next).Printed := by
  have hfold := ((h.put (by decide : Ordinary ['\\'])).indentTo indent).inText
  unfold Writer.foldDouble
  dsimp only
  split
  · exact hfold.put (by decide)
  · exact hfold

theorem Printed.putDouble {pending text : List Char} (h : w.Printed) (hpending : Ordinary pending)
    (split first : Bool) : (w.putDouble indent split first pending text).Printed := by
  induction text generalizing w first pending with
  | nil => exact h.put (ordinary_reverse.mpr hpending)
  | cons c rest ih =>
    have hput := h.put (ordinary_reverse.mpr hpending)
    rw [Writer.putDouble]
    dsimp only
    split
    · next cs hescaped =>
      have hcs := hput.put (ordinary_of_escaped? hescaped)
      refine ih ?_ ordinary_nil false
      split
      · exact hcs.foldDouble _
      · exact hcs
    · next hescaped =>
      have hc := not_isSpecial_of_escaped? hescaped
      split
      · exact ih (hput.foldDouble _) (ordinary_cons.mpr ⟨hc, ordinary_nil⟩) false
      · exact ih h (ordinary_cons.mpr ⟨hc, hpending⟩) false

theorem Printed.double (h : w.Printed) (split : Bool) (text : String) :
    (w.double indent split text).Printed :=
  ((h.indicator (by decide) true false).putDouble ordinary_nil split true).indicator (by decide)
    false false

/-- **A scalar is written with ordinary characters.** -/
theorem Printed.scalar (h : w.Printed) (indent : Nat) (isKey : Bool) (s : Scalar) :
    (w.scalar indent isKey s).Printed := by
  by_cases hs : ∃ t, s = .text t
  · obtain ⟨t, rfl⟩ := hs
    simp only [Writer.scalar]
    split
    · next hplain =>
      exact h.plain (ordinary_of_analyze (.inl (Bool.and_eq_true_iff.mp hplain).2)) _
    · split
      · next hsingle =>
        exact h.single (ordinary_of_analyze (.inr (Bool.and_eq_true_iff.mp hsingle).1)) _
      · exact h.double _ _
  · rw [not_exists] at hs
    have hplain := @Printed.plain w indent h _ (ordinary_wordOf hs) (!isKey)
    cases s with
    | text t => exact absurd rfl (hs t)
    | _ => exact hplain

mutual

/-- **A value is written with ordinary characters.** -/
theorem Printed.value {w : Writer} (h : w.Printed) (indent : Nat) (inMapping : Bool) :
    (v : Value) → (w.value indent inMapping v).Printed
  | .scalar s => by
    rw [Writer.value]
    exact h.scalar _ _ _
  | .list [] => by
    rw [Writer.value]
    exact (h.indicator (by decide) _ _).indicator (by decide) _ _
  | .map [] => by
    rw [Writer.value]
    exact (h.indicator (by decide) _ _).indicator (by decide) _ _
  | .list (v :: vs) => by
    rw [Writer.value]
    exact h.items _ (v :: vs)
  | .map (e :: es) => by
    rw [Writer.value]
    exact h.entries _ (e :: es)

theorem Printed.items {w : Writer} (h : w.Printed) (indent : Nat) :
    (vs : List Value) → (w.items indent vs).Printed
  | [] => h
  | v :: vs => by
    rw [Writer.items]
    exact (((h.indentTo indent).indicator (by decide) _ _).value _ _ v).items _ vs

theorem Printed.entries {w : Writer} (h : w.Printed) (indent : Nat) :
    (es : List (Scalar × Value)) → (w.entries indent es).Printed
  | [] => h
  | (k, v) :: es => by
    have hkey : (if isSimpleKey k then
        ((w.indentTo indent).scalar (indent + 2) true k).indicator ":" false false
      else ((((w.indentTo indent).indicator "?" true true).scalar (indent + 2) false k).indentTo
        indent).indicator ":" true true).Printed := by
      split
      · exact ((h.indentTo indent).scalar _ _ k).indicator (by decide) _ _
      · exact ((((h.indentTo indent).indicator (by decide) _ _).scalar _ _ k).indentTo
          indent).indicator (by decide) _ _
    rw [Writer.entries]
    exact (hkey.value indent true v).entries indent es

end

end Writer

end SwitchTrace.Yaml
